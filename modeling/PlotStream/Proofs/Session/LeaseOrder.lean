import PlotStream.Proofs.Session.Holding
import PlotStream.Proofs.Session.Runs

/-!
# Blocks under the lease

The frames that go out under the lease form one block for each task that sends any, in the order in
which the tasks asked for the lease, and every block goes to the socket that was current when its
task was granted the lease (`leased_blocks`). `Scene.InOrder` is the invariant: those who were granted
the lease, followed by those who wait for it, are in the order of asking, and whoever holds the lease
was the last to be granted it.
-/

namespace PlotStream

/-- What one task sends under one grant of the lease. -/
structure Block where
  task : TaskId
  socket : SocketId
  frames : List Frame

/-- The frames of a block, each with its sender and its socket. -/
def Block.sent (b : Block) : List (TaskId × SocketId × Frame) :=
  b.frames.map fun f => (b.task, b.socket, f)

/-- Frames come one grant after the other. -/
def GroupedBy (gs : List (TaskId × Option SocketId)) (xs : List (TaskId × SocketId × Frame)) : Prop :=
  xs = gs.flatMap fun g => xs.filter (·.1 = g.1)

namespace GroupedBy

variable {gs : List (TaskId × Option SocketId)} {xs : List (TaskId × SocketId × Frame)} {t : TaskId}

/-- A grant to a task that has sent nothing. -/
theorem grant (h : GroupedBy gs xs) (hnone : xs.filter (·.1 = t) = []) (s : Option SocketId) :
    GroupedBy (gs ++ [(t, s)]) xs := by
  rw [GroupedBy, List.flatMap_append, List.flatMap_singleton, hnone, List.append_nil]
  exact h

/-- A frame of the task that was granted the lease last. -/
theorem frame {s : Option SocketId} (h : GroupedBy (gs ++ [(t, s)]) xs)
    (hnew : t ∉ gs.map Prod.fst) (s' : SocketId) (f : Frame) :
    GroupedBy (gs ++ [(t, s)]) (xs ++ [(t, s', f)]) := by
  have hothers : (gs.flatMap fun g => (xs ++ [(t, s', f)]).filter (·.1 = g.1)) =
      gs.flatMap fun g => xs.filter (·.1 = g.1) := by
    refine List.flatMap_congr fun g hg => ?_
    have hne : t ≠ g.1 := fun h => hnew (h ▸ List.mem_map_of_mem hg)
    simp [hne]
  have hold := h
  rw [GroupedBy, List.flatMap_append, List.flatMap_singleton] at hold
  rw [GroupedBy, List.flatMap_append, List.flatMap_singleton, hothers, List.filter_append,
    ← List.append_assoc, ← hold]
  simp

end GroupedBy

/-- The block of a grant, unless nothing was sent. -/
def blockOf (xs : List (TaskId × SocketId × Frame)) : TaskId × Option SocketId → Option Block
  | (_, none) => none
  | (t, some s) =>
    match (xs.filter (·.1 = t)).map fun x => x.2.2 with
    | [] => none
    | f :: fs => some ⟨t, s, f :: fs⟩

theorem blockOf_eq_some {xs : List (TaskId × SocketId × Frame)} {g : TaskId × Option SocketId}
    {b : Block} (h : blockOf xs g = some b) :
    g = (b.task, some b.socket) ∧ b.frames ≠ [] := by
  unfold blockOf at h
  split at h
  · cases h
  · split at h
    · cases h
    · cases h
      exact ⟨rfl, by simp⟩

/-- The frames of one grant are its block. -/
theorem sent_blockOf {xs : List (TaskId × SocketId × Frame)} {t : TaskId} {s : Option SocketId}
    (h : ∀ x ∈ xs, x.1 = t → s = some x.2.1) :
    (blockOf xs (t, s)).toList.flatMap Block.sent = xs.filter (·.1 = t) := by
  cases s with
  | none =>
    refine (List.filter_eq_nil_iff.mpr fun x hx => ?_).symm
    intro ht
    cases h x hx (by simpa using ht)
  | some s =>
    have hback : ((xs.filter (·.1 = t)).map fun x => x.2.2).map (fun f => (t, s, f)) =
        xs.filter (·.1 = t) := by
      have hsame : ∀ x ∈ xs.filter (·.1 = t), (t, s, x.2.2) = id x := by
        intro x hmem
        obtain ⟨hx, ht⟩ := List.mem_filter.mp hmem
        have ht' : x.1 = t := by simpa using ht
        rw [Option.some.inj (h x hx ht'), ← ht']
        rfl
      rw [List.map_map]
      exact (List.map_congr_left hsame).trans (List.map_id _)
    unfold blockOf
    split
    · rename_i hfs
      cases hfs
    · rename_i t' s' hfs
      cases hfs
      split
      · rename_i hnil
        rw [hnil] at hback
        exact hback
      · rename_i f fs hcons
        rw [hcons] at hback
        simpa [Block.sent] using hback

/-- The blocks of all grants are all frames. -/
theorem sent_blocks {gs : List (TaskId × Option SocketId)} {xs : List (TaskId × SocketId × Frame)}
    (hgrouped : GroupedBy gs xs) (hsockets : ∀ x ∈ xs, (x.1, some x.2.1) ∈ gs)
    (hnodup : (gs.map Prod.fst).Nodup) : xs = (gs.filterMap (blockOf xs)).flatMap Block.sent := by
  have hone : ∀ g ∈ gs, ((blockOf xs g).toList.flatMap Block.sent) = xs.filter (·.1 = g.1) := by
    rintro ⟨t, s⟩ hg
    refine sent_blockOf fun x hx ht => ?_
    have hsame := List.inj_on_of_nodup_map hnodup hg (hsockets x hx) ht.symm
    exact congrArg Prod.snd hsame
  rw [List.filterMap_eq_flatMap_toList, List.flatMap_assoc]
  rw [List.flatMap_congr hone]
  exact hgrouped

/-! ## The order of grants -/

namespace Scene

/-- A task that joins the queue while it still runs. -/
def joining (σ : Scene) : List TaskId :=
  match σ.running with
  | some (task, .halt (.queue _)) => [task.id]
  | _ => []

/-- Those who wait for the lease, in order. -/
def line (σ : Scene) : List TaskId :=
  σ.lease.waiting ++ σ.joining

/-- A task holds the lease. -/
def Holds (σ : Scene) (t : TaskId) : Prop :=
  (∃ task ∈ σ.tasks, task.id = t ∧ task.point.holds = true) ∨
    ∃ task stage, σ.running = some (task, stage) ∧ task.id = t ∧ stage.holds = true

/-- The lease is granted in the order in which it is asked for, and its holder alone sends under it. -/
structure InOrder (σ : Scene) : Prop where
  asked : (askOrder σ.events).Nodup
  served : ((grants σ.events).map Prod.fst ++ σ.line).Sublist (askOrder σ.events)
  last : ∀ t, σ.Holds t → ∃ gs s, grants σ.events = gs ++ [(t, s)]
  sockets : ∀ x ∈ leasedFrames σ.events, (x.1, some x.2.1) ∈ grants σ.events
  grouped : GroupedBy (grants σ.events) (leasedFrames σ.events)

/-- What is known of every scene that can be reached. -/
structure Settled (w : World) (σ : Scene) : Prop where
  orderly : σ.Orderly
  traced : σ.AllTraced w
  signed : Signed none σ.events

theorem Reachable.settled {w : World} {σ : Scene} (h : Reachable w σ) : σ.Settled w :=
  ⟨h.orderly, h.traced, h.signed⟩

theorem Settled.leasing {w : World} {σ : Scene} (h : σ.Settled w) {t : TaskId} {name : String}
    {place : Whereabouts} (hhas : σ.Has t name place) : Leasing t (own t σ.events) place := by
  obtain ⟨job, -, htraced⟩ := h.traced.traced t name place hhas
  exact htraced.leasing

/-- Nobody holds the lease while it is free. -/
theorem Settled.not_holds {w : World} {σ : Scene} (h : σ.Settled w) (hfree : σ.lease.held = false)
    (t : TaskId) : ¬ σ.Holds t := by
  have hone := h.orderly.exclusive.one
  rw [hfree] at hone
  rintro (⟨task, htask, -, hholds⟩ | ⟨task, stage, hrun, -, hholds⟩)
  · have hpos : 0 < σ.waitingHolders := List.countP_pos_iff.mpr ⟨task, htask, hholds⟩
    simp at hone
    omega
  · simp [runningHolders, hrun, hholds] at hone

namespace InOrder

variable {w : World} {σ σ' : Scene} {es : List Event} {task : Task}

theorem initial : Scene.initial.InOrder where
  asked := .nil
  served := .slnil
  last := by
    rintro t (⟨task, htask, -⟩ | ⟨task, stage, hrun, -⟩)
    · cases htask
    · cases hrun
  sockets := nofun
  grouped := rfl

/-- Nobody asks, is granted the lease or sends under it. -/
theorem silent (inv : σ.InOrder) (hevents : σ'.events = σ.events ++ es) (hasks : askOrder es = [])
    (hgrants : grants es = []) (hframes : leasedFrames es = []) (hline : σ'.line.Sublist σ.line)
    (hholds : ∀ t, σ'.Holds t → σ.Holds t) : σ'.InOrder := by
  have hasks' : askOrder σ'.events = askOrder σ.events := by simp [hevents, hasks]
  have hgrants' : grants σ'.events = grants σ.events := by simp [hevents, hgrants]
  have hframes' : leasedFrames σ'.events = leasedFrames σ.events := by simp [hevents, hframes]
  constructor
  case asked => exact hasks' ▸ inv.asked
  case served =>
    rw [hasks', hgrants']
    exact ((List.Sublist.refl _).append hline).trans inv.served
  case last =>
    intro t ht
    rw [hgrants']
    exact inv.last t (hholds t ht)
  case sockets =>
    rw [hframes', hgrants']
    exact inv.sockets
  case grouped =>
    rw [hframes', hgrants']
    exact inv.grouped

/-- A task that has not asked yet asks. -/
theorem not_asked (known : σ.Settled w) {purpose : Purpose}
    (hrun : σ.running = some (task, .ask purpose)) : task.id ∉ askOrder σ.events := by
  intro hasked
  have hnone : askOrder (own task.id σ.events) = [] := (known.leasing (.runs hrun)).fits
  rw [askOrder_own known.signed] at hnone
  exact absurd (List.filter_eq_nil_iff.mp hnone _ hasked) (by simp)

/-- A task that has not been granted the lease has not sent under it. -/
theorem no_frames (known : σ.Settled w) {t : TaskId} {name : String} {place : Whereabouts}
    (hhas : σ.Has t name place) (hnone : grants (own t σ.events) = []) :
    (leasedFrames σ.events).filter (·.1 = t) = [] := by
  rw [← leasedFrames_own known.signed]
  exact (known.leasing hhas).no_frames hnone

/-- A task that nobody stood before is granted the lease. -/
theorem granted (inv : σ.InOrder) (known : σ.Settled w) {t : TaskId} {name : String}
    {place : Whereabouts} {s : Option SocketId} (hhas : σ.Has t name place)
    (hfree : σ.lease.held = false) (hevents : σ'.events = σ.events ++ es)
    (hnone : grants (own t σ.events) = []) (hgrants : grants es = [(t, s)])
    (hframes : leasedFrames es = []) (hasked : (askOrder σ'.events).Nodup)
    (hserved : ((grants σ.events).map Prod.fst ++ t :: σ'.line).Sublist (askOrder σ'.events))
    (hholds : ∀ u, σ'.Holds u → u = t ∨ σ.Holds u) : σ'.InOrder := by
  have hgrants' : grants σ'.events = grants σ.events ++ [(t, s)] := by simp [hevents, hgrants]
  have hframes' : leasedFrames σ'.events = leasedFrames σ.events := by simp [hevents, hframes]
  constructor
  case asked => exact hasked
  case served =>
    rw [hgrants', List.map_append, List.append_assoc]
    exact hserved
  case last =>
    intro u hu
    rcases hholds u hu with rfl | hu
    · exact ⟨_, _, hgrants'⟩
    · exact absurd hu (known.not_holds hfree u)
  case sockets =>
    intro x hx
    rw [hgrants']
    exact List.mem_append_left _ (inv.sockets x (hframes' ▸ hx))
  case grouped =>
    rw [hgrants', hframes']
    exact inv.grouped.grant (no_frames known hhas hnone) s

/-- No task is granted the lease twice. -/
theorem grants_nodup (inv : σ.InOrder) : ((grants σ.events).map Prod.fst).Nodup :=
  (List.nodup_append.mp (inv.asked.sublist inv.served)).1

theorem joining_of_stage {stage : Stage} (hrun : σ.running = some (task, stage))
    (hstage : ∀ purpose, stage ≠ .halt (.queue purpose)) : σ.joining = [] := by
  unfold joining
  split
  · rename_i hqueue
    obtain ⟨-, rfl⟩ := Prod.mk.inj (Option.some.inj (hrun.symm.trans hqueue))
    exact absurd rfl (hstage _)
  · rfl

theorem joining_of_idle (hidle : σ.running = none) : σ.joining = [] := by
  simp [joining, hidle]

/-- The holder of the lease sends a frame. -/
theorem frame (inv : σ.InOrder) (known : σ.Settled w) {stage stage' : Stage} {s : SocketId}
    {f : Frame} (hrun : σ.running = some (task, stage)) (hstage : stage.standing = .holds (some s))
    (hstage' : stage'.standing = .holds (some s)) :
    (σ.go task stage' [.delivered task.id true s f]).InOrder := by
  have hasks : askOrder (σ.events ++ [.delivered task.id true s f]) = askOrder σ.events := by
    rw [askOrder_append]
    exact List.append_nil _
  have hgrants : grants (σ.events ++ [.delivered task.id true s f]) = grants σ.events := by
    rw [grants_append]
    exact List.append_nil _
  have hframes : leasedFrames (σ.events ++ [.delivered task.id true s f]) =
      leasedFrames σ.events ++ [(task.id, s, f)] :=
    leasedFrames_append _ _
  have hheld : σ.Holds task.id := .inr ⟨task, _, hrun, rfl, Stage.holds_of_standing hstage⟩
  constructor
  case asked => exact hasks ▸ inv.asked
  case served =>
    have hjoining : (σ.go task stage' [.delivered task.id true s f]).joining = [] := by
      refine joining_of_stage rfl fun purpose h => ?_
      rw [h] at hstage'
      cases hstage'
    have hline : (σ.go task stage' [.delivered task.id true s f]).line.Sublist σ.line := by
      rw [line, hjoining, List.append_nil]
      exact List.sublist_append_left _ _
    simp only [Scene.go, hasks, hgrants] at hline ⊢
    exact ((List.Sublist.refl _).append hline).trans inv.served
  case last =>
    rintro t (⟨other, hother, hid, hholds⟩ | ⟨other, stage, hrun', hid, hholds⟩)
    · simp only [Scene.go, hgrants]
      exact inv.last t (.inl ⟨other, hother, hid, hholds⟩)
    · obtain ⟨rfl, -⟩ := Prod.mk.inj (Option.some.inj hrun')
      simp only [Scene.go, hgrants]
      exact hid ▸ inv.last _ hheld
  case sockets =>
    intro x hx
    simp only [Scene.go, hgrants, hframes] at hx ⊢
    rcases List.mem_append.mp hx with hx | hx
    · exact inv.sockets x hx
    · have hfits := (known.leasing (.runs hrun)).fits
      rw [Whereabouts.standing, hstage] at hfits
      have hmem : (task.id, some s) ∈ grants (own task.id σ.events) := by
        rw [hfits.2]
        exact List.mem_singleton_self _
      rw [grants_own known.signed] at hmem
      rw [List.mem_singleton.mp hx]
      exact (List.mem_filter.mp hmem).1
  case grouped =>
    obtain ⟨gs, s', hlast⟩ := inv.last _ hheld
    have hnodup := inv.grants_nodup
    have hgrouped := inv.grouped
    simp only [Scene.go, hgrants, hframes]
    rw [hlast] at hnodup hgrouped ⊢
    refine hgrouped.frame ?_ s f
    rw [List.map_append, List.nodup_append] at hnodup
    exact fun hmem => hnodup.2.2 _ hmem _ (List.mem_singleton_self _) rfl

/-- A task is picked that does not wait for the lease. -/
theorem picked (inv : σ.InOrder) {stage : Stage} (htask : task ∈ σ.tasks)
    (htasks : σ'.tasks = σ.tasks.filter (·.id ≠ task.id)) (hrun : σ'.running = some (task, stage))
    (hevents : σ'.events = σ.events ++ [.resumed task.id])
    (hlease : σ'.lease.waiting.Sublist σ.lease.waiting)
    (hqueue : ∀ purpose, stage ≠ .halt (.queue purpose))
    (hholds : stage.holds = task.point.holds) : σ'.InOrder := by
  refine inv.silent hevents rfl rfl rfl ?_ ?_
  · rw [line, joining_of_stage hrun hqueue, List.append_nil]
    exact hlease.trans (List.sublist_append_left _ _)
  · rintro t (⟨other, hother, hid, hother'⟩ | ⟨other, stage', hrun', hid, hstage⟩)
    · exact .inl ⟨other, List.mem_of_mem_filter (htasks ▸ hother), hid, hother'⟩
    · obtain ⟨rfl, rfl⟩ := Prod.mk.inj (Option.some.inj (hrun.symm.trans hrun'))
      exact .inl ⟨_, htask, hid, hholds ▸ hstage⟩

/-- The running task comes to wait. -/
theorem put (inv : σ.InOrder) {stage : Stage} {p : Point} (hrun : σ.running = some (task, stage))
    (htasks : σ'.tasks = σ.tasks ++ [{ task with point := p, cancelled := false }])
    (hidle : σ'.running = none) (hevents : σ'.events = σ.events ++ [.paused task.id])
    (hline : σ'.lease.waiting.Sublist σ.line) (hholds : p.holds = stage.holds) : σ'.InOrder := by
  refine inv.silent hevents rfl rfl rfl ?_ ?_
  · rw [line, joining_of_idle hidle, List.append_nil]
    exact hline
  · rintro t (⟨other, hother, hid, hother'⟩ | ⟨other, stage', hrun', -⟩)
    · rw [htasks] at hother
      rcases List.mem_append.mp hother with hother | hother
      · exact .inl ⟨other, hother, hid, hother'⟩
      · rw [List.mem_singleton.mp hother] at hid hother'
        exact .inr ⟨task, stage, hrun, hid, hholds ▸ hother'⟩
    · rw [hidle] at hrun'
      cases hrun'

/-- Nobody runs, and the lease is not asked for. -/
theorem idle (inv : σ.InOrder) (hidle : σ'.running = none) (hevents : σ'.events = σ.events ++ es)
    (hes : ∀ e ∈ es, e.isAside) (hlease : σ'.lease.waiting.Sublist σ.lease.waiting)
    (htasks : ∀ task' ∈ σ'.tasks, task'.point.holds = true →
      ∃ task ∈ σ.tasks, task.id = task'.id ∧ task.point.holds = true) : σ'.InOrder := by
  refine inv.silent hevents (askOrder_of_asides hes) (grants_of_asides hes)
    (leasedFrames_of_asides hes) ?_ ?_
  · rw [line, joining_of_idle hidle, List.append_nil]
    exact hlease.trans (List.sublist_append_left _ _)
  · rintro t (⟨other, hother, hid, hholds⟩ | ⟨other, stage', hrun', -⟩)
    · obtain ⟨task, htask, hid', hholds'⟩ := htasks other hother hholds
      exact .inl ⟨task, htask, hid'.trans hid, hholds'⟩
    · rw [hidle] at hrun'
      cases hrun'

/-- The running task does something, but does not ask. -/
theorem act (inv : σ.InOrder) (known : σ.Settled w) {stage stage' : Stage} {l : Lease}
    {ready : List TaskId} (hrun : σ.running = some (task, stage))
    (hact : stage.Acts w task.id σ.session es stage') (hasks : stage.asks = false)
    (hlease : l.waiting = σ.lease.waiting) :
    InOrder { σ.go task stage' es with lease := l, ready := ready } := by
  have hholds : ∀ t, Holds { σ.go task stage' es with lease := l, ready := ready } t → σ.Holds t := by
    rintro t (h | ⟨other, stage'', hrun', hid, hstage⟩)
    · exact .inl h
    · obtain ⟨rfl, rfl⟩ := Prod.mk.inj (Option.some.inj hrun')
      exact .inr ⟨_, _, hrun, hid, hact.holds hasks hstage⟩
  have hline : (line { σ.go task stage' es with lease := l, ready := ready }).Sublist σ.line := by
    rw [line, joining_of_stage rfl (hact.not_queued hasks), List.append_nil, hlease]
    exact List.sublist_append_left _ _
  have hmove := hact.leaseMove
  generalize hfrom : stage.standing = standing at hmove
  generalize hto : stage'.standing = standing' at hmove
  cases hmove with
  | nothing hasks hgrants hframes => exact inv.silent rfl hasks hgrants hframes hline hholds
  | retire hasks hgrants hframes => exact inv.silent rfl hasks hgrants hframes hline hholds
  | @frame s f =>
    have hframe := inv.frame known (f := f) hrun hfrom hto
    refine hframe.silent (List.append_nil _).symm rfl rfl rfl ?_ fun t ht => ht
    rw [line, line, joining_of_stage rfl (hact.not_queued hasks),
      joining_of_stage rfl (hact.not_queued hasks), hlease]
    exact List.Sublist.refl _
  | take | queue =>
    rw [hact.asks_of_asked (List.mem_cons_self ..)] at hasks
    cases hasks

/-- The running task takes the lease at once. -/
theorem take (inv : σ.InOrder) (known : σ.Settled w) {purpose : Purpose}
    (hrun : σ.running = some (task, .ask purpose)) (hopen : σ.lease.isOpen = true) :
    InOrder { σ.go task (purpose.stage σ.session)
        [.asked task.id, .granted task.id (σ.session.map (·.socket))] with
      lease := σ.lease.take } := by
  have hnew := not_asked known hrun
  have hasks : askOrder (σ.events ++ [.asked task.id, .granted task.id (σ.session.map (·.socket))]) =
      askOrder σ.events ++ [task.id] :=
    askOrder_append _ _
  have hfree : σ.lease.held = false := by simpa using (Bool.and_eq_true_iff.mp hopen).1
  have hleasing := known.leasing (.runs hrun)
  refine inv.granted known (.runs hrun) hfree rfl (hleasing.not_granted hleasing.fits) rfl rfl ?_ ?_ ?_
  · simp only [Scene.go, hasks]
    exact List.nodup_append_comm.mp (List.nodup_cons.mpr ⟨hnew, inv.asked⟩)
  · have hwaiting : (line { σ.go task (purpose.stage σ.session)
        [.asked task.id, .granted task.id (σ.session.map (·.socket))] with
          lease := σ.lease.take }) = [] := by
      rw [line, joining_of_stage rfl (purpose.stage_ne_queue _), List.append_nil]
      exact (Lease.waiting_of_isOpen hopen : σ.lease.waiting = [])
    have hserved := (List.sublist_append_left _ _).trans inv.served
    rw [hwaiting]
    simp only [Scene.go, hasks]
    exact hserved.append (List.Sublist.refl _)
  · rintro u (h | ⟨other, stage, hrun', hid, -⟩)
    · exact .inr (.inl h)
    · obtain ⟨rfl, -⟩ := Prod.mk.inj (Option.some.inj hrun')
      exact .inl hid.symm

/-- The running task joins the queue. -/
theorem queue (inv : σ.InOrder) (known : σ.Settled w) {purpose : Purpose}
    (hrun : σ.running = some (task, .ask purpose)) :
    (σ.go task (.halt (.queue purpose)) [.asked task.id]).InOrder := by
  have hnew := not_asked known hrun
  have hasks : askOrder (σ.events ++ [.asked task.id]) = askOrder σ.events ++ [task.id] :=
    askOrder_append _ _
  have hgrants : grants (σ.events ++ [.asked task.id]) = grants σ.events := by
    rw [grants_append]
    exact List.append_nil _
  have hframes : leasedFrames (σ.events ++ [.asked task.id]) = leasedFrames σ.events := by
    rw [leasedFrames_append]
    exact List.append_nil _
  constructor
  case asked =>
    simp only [Scene.go, hasks]
    exact List.nodup_append_comm.mp (List.nodup_cons.mpr ⟨hnew, inv.asked⟩)
  case served =>
    have hline : σ.line = σ.lease.waiting := by
      have hasks : ∀ p, Stage.ask purpose ≠ .halt (.queue p) := fun p hp => by cases hp
      rw [line, joining_of_stage hrun hasks, List.append_nil]
    have hserved := inv.served
    rw [hline] at hserved
    simp only [Scene.go, hasks, hgrants, line, joining]
    rw [← List.append_assoc]
    exact hserved.append (List.Sublist.refl _)
  case last =>
    rintro t (⟨other, hother, hid, hholds⟩ | ⟨other, stage, hrun', hid, hholds⟩)
    · simp only [Scene.go, hgrants]
      exact inv.last t (.inl ⟨other, hother, hid, hholds⟩)
    · obtain ⟨-, rfl⟩ := Prod.mk.inj (Option.some.inj hrun')
      cases hholds
  case sockets =>
    simp only [Scene.go, hgrants, hframes]
    exact inv.sockets
  case grouped =>
    simp only [Scene.go, hgrants, hframes]
    exact inv.grouped

/-- A task whose turn has come is granted the lease. -/
theorem grant (inv : σ.InOrder) (known : σ.Settled w) {rest : List TaskId} {purpose : Purpose}
    (hidle : σ.running = none) (hready : σ.ready = task.id :: rest) (htask : task ∈ σ.tasks)
    (hwell : task.cancelled = false) (hpoint : task.point = .queued purpose) :
    InOrder { σ.pick task rest (purpose.stage σ.session) with
      lease := (σ.lease.dequeue task.id).take
      events := σ.events ++ [.resumed task.id, .granted task.id (σ.session.map (·.socket))] } := by
  have seats := known.orderly.seats
  have hfifo := known.orderly.exclusive.fifo
  have hwoken := Exclusive.woken seats hready htask hwell (hpoint ▸ rfl)
  have hasks : askOrder (σ.events ++
      [.resumed task.id, .granted task.id (σ.session.map (·.socket))]) = askOrder σ.events := by
    rw [askOrder_append]
    exact List.append_nil _
  have hfits := (known.leasing (.waits htask)).fits
  rw [Whereabouts.standing, hpoint] at hfits
  refine inv.granted known (.waits htask) (hfifo.free _ hwoken rfl) rfl hfits.2 rfl rfl ?_ ?_ ?_
  · exact hasks ▸ inv.asked
  · have hline : σ.line = σ.lease.waiting := by
      rw [line, joining_of_idle hidle, List.append_nil]
    have hserved := inv.served
    rw [hline] at hserved
    simp only [hasks]
    rw [line, joining_of_stage rfl (purpose.stage_ne_queue _), List.append_nil]
    exact ((List.Sublist.refl _).append (hfifo.waiting_grant hwoken)).trans hserved
  · rintro u (⟨other, hother, hid, hholds⟩ | ⟨other, stage, hrun', hid, -⟩)
    · exact .inr (.inl ⟨other, List.mem_of_mem_filter hother, hid, hholds⟩)
    · obtain ⟨rfl, -⟩ := Prod.mk.inj (Option.some.inj hrun')
      exact .inl hid.symm

theorem step (inv : σ.InOrder) (known : σ.Settled w) (hstep : Step w σ σ') : σ'.InOrder := by
  have hwake (l : Lease) : l.passOn.2.waiting = l.waiting := Lease.wake_waiting _
  cases hstep with
  | outside hidle hes =>
    exact inv.idle hidle rfl hes.aside (.refl _) fun task htask hholds => ⟨task, htask, rfl, hholds⟩
  | start hidle name job =>
    have hasks : askOrder [.started σ.next name job] = [] := rfl
    refine inv.silent rfl hasks rfl rfl (.refl _) ?_
    rintro t (⟨other, hother, hid, hholds⟩ | h)
    · rcases List.mem_append.mp hother with hother | hother
      · exact .inl ⟨other, hother, hid, hholds⟩
      · rw [List.mem_singleton.mp hother] at hholds
        cases hholds
    · exact .inr h
  | openGate hidle | comeIn hidle | skip hidle =>
    exact inv.idle hidle (List.append_nil _).symm (by simp) (.refl _)
      fun task htask hholds => ⟨task, htask, rfl, hholds⟩
  | cancel hidle htask =>
    refine inv.idle hidle (List.append_nil _).symm (by simp)
      (Lease.cancel_waiting _ _) ?_
    intro task' htask' hholds
    obtain ⟨task, htask, rfl⟩ := List.mem_map.mp htask'
    refine ⟨task, htask, ?_, ?_⟩
    · split <;> rfl
    · split at hholds <;> exact hholds
  | giveBack hidle =>
    have hsame : (σ.lease.passOn.2.waiting).Sublist σ.lease.waiting := by rw [hwake]
    exact inv.idle hidle (List.append_nil _).symm (by simp) hsame
      fun task htask hholds => ⟨task, htask, rfl, hholds⟩
  | resume hidle hready htask hwell hqueued =>
    exact inv.picked htask rfl rfl rfl (.refl _) (Point.stage_ne_queue hqueued _ _)
      (Point.holds_stage hqueued _ _)
  | grant hidle hready htask hwell hpoint => exact inv.grant known hidle hready htask hwell hpoint
  | giveUp hidle hready htask =>
    exact inv.picked htask rfl rfl rfl (.refl _) (Point.cancelledStage_ne_queue _)
      (Point.holds_cancelledStage _)
  | giveUpQueue hidle hready htask =>
    exact inv.picked htask rfl rfl rfl (Lease.abandon_waiting _ _)
      (Point.cancelledStage_ne_queue _) (Point.holds_cancelledStage _)
  | giveUpReader hidle hready htask =>
    exact inv.picked htask rfl rfl rfl (.refl _) (Point.cancelledStage_ne_queue _)
      (Point.holds_cancelledStage _)
  | act hrun hact hasks => exact inv.act known hrun hact hasks rfl
  | take hrun hopen => exact inv.take known hrun hopen
  | queue hrun => exact inv.queue known hrun
  | @release task stage stage' es hrun hact hreleases =>
    have hasks : stage.asks = false := by cases stage <;> first | rfl | cases hreleases
    exact inv.act known hrun hact hasks (hwake _)
  | lost hrun hreleases hheld =>
    rw [known.orderly.exclusive.held_of_releases hrun hreleases] at hheld
    cases hheld
  | waitGate hrun =>
    exact inv.put hrun rfl rfl rfl (List.sublist_append_left _ _) (Stage.holds_gate _ _).symm
  | @waitQueue task purpose hrun =>
    have hline : (σ.lease.enqueue task.id).waiting = σ.line := by
      rw [Lease.enqueue_waiting, line, joining, hrun]
    exact inv.put hrun rfl rfl rfl (hline ▸ .refl _) rfl
  | waitReader hrun => exact inv.put hrun rfl rfl rfl (List.sublist_append_left _ _) rfl
  | @ends task outcome hrun =>
    have hasks : askOrder [.ended task.id task.name outcome] = [] := rfl
    refine inv.silent rfl hasks rfl rfl ?_ ?_
    · exact List.sublist_append_of_sublist_left (by simp [line, joining])
    · rintro t (h | ⟨other, stage, hrun', -⟩)
      · exact .inl h
      · cases hrun'

end InOrder

theorem Reachable.inOrder {w : World} {σ : Scene} (h : Reachable w σ) : σ.InOrder := by
  induction h with
  | refl => exact .initial
  | tail hbefore hstep ih => exact ih.step (Reachable.settled hbefore) hstep

/-- Whoever asked for the lease was granted it, or waits for it, or was cancelled while waiting. -/
theorem Reachable.asker {w : World} {σ : Scene} (h : Reachable w σ) (hidle : σ.running = none)
    {t : TaskId} (hasked : t ∈ askOrder σ.events) :
    (∃ s, (t, s) ∈ grants σ.events) ∨
      (∃ task ∈ σ.tasks, task.id = t ∧ task.point.isQueued = true) ∨
        ∃ name, .ended t name (.error .cancelled) ∈ σ.events := by
  have known := h.settled
  have hown : askOrder (own t σ.events) ≠ [] := by
    rw [askOrder_own known.signed]
    exact List.ne_nil_of_mem (List.mem_filter.mpr ⟨hasked, by simp⟩)
  have hdone : own t σ.events ≠ [] := by
    intro hnil
    rw [hnil] at hown
    exact hown rfl
  obtain ⟨name, place, hhas⟩ := h.has_of_own hdone
  have hleasing := known.leasing hhas
  rcases hleasing.granted with hnone | ⟨s, hgranted, -⟩
  · have hwaits := hleasing.waits (hleasing.asked.resolve_left hown) hnone
    cases hhas with
    | @waits task htask =>
      rcases hwaits with hqueued | hgone | hgone
      · refine .inr (.inl ⟨task, htask, rfl, ?_⟩)
        cases hpoint : task.point <;> simp_all [Whereabouts.standing, Point.standing, Point.isQueued]
      · cases hgone
      · cases hgone
    | runs hrun =>
      rw [hidle] at hrun
      cases hrun
    | finished hended =>
      rcases hwaits with hqueued | hgone | hgone
      · cases hqueued
      · cases hgone
      · cases hgone
        exact .inr (.inr ⟨name, hended⟩)
  · have hmem : (t, s) ∈ grants (own t σ.events) := hgranted ▸ List.mem_singleton_self _
    rw [grants_own known.signed] at hmem
    exact .inl ⟨s, (List.mem_filter.mp hmem).1⟩

/-- Each grant makes at most one block. -/
theorem blockTasks_sublist (gs : List (TaskId × Option SocketId))
    (xs : List (TaskId × SocketId × Frame)) :
    ((gs.filterMap (blockOf xs)).map Block.task).Sublist (gs.map Prod.fst) := by
  induction gs with
  | nil => exact .slnil
  | cons g gs ih =>
    cases hblock : blockOf xs g with
    | none =>
      rw [List.filterMap_cons_none hblock]
      exact ih.cons _
    | some b =>
      rw [List.filterMap_cons_some hblock, (blockOf_eq_some hblock).1]
      exact ih.cons_cons _

/-- The frames under the lease come in blocks. -/
theorem Reachable.blocks {w : World} {σ : Scene} (h : Reachable w σ) :
    ∃ blocks : List Block, leasedFrames σ.events = blocks.flatMap Block.sent ∧
      (∀ b ∈ blocks, b.frames ≠ [] ∧ (b.task, some b.socket) ∈ grants σ.events) ∧
      (blocks.map Block.task).Sublist (askOrder σ.events) := by
  have inv := h.inOrder
  refine ⟨_, sent_blocks inv.grouped inv.sockets inv.grants_nodup, ?_, ?_⟩
  · intro b hb
    obtain ⟨g, hg, hblock⟩ := List.mem_filterMap.mp hb
    obtain ⟨rfl, hframes⟩ := blockOf_eq_some hblock
    exact ⟨hframes, hg⟩
  · have hgranted := (List.sublist_append_left _ _).trans inv.served
    exact (blockTasks_sublist _ _).trans hgranted

end Scene

/-- Streams do not mix. In every run, what goes out under the lease, over all sockets together, is one
block of frames after the other: each block is sent by one task to one socket, the one that was
current when the task was granted the lease, and the blocks come in the order in which their tasks
asked for the lease. Nobody asks twice; whoever asked and was not granted the lease still waits, or
was cancelled. What goes out without the lease is an answer of an endpoint, or was sent over a kept
connection. -/
theorem leased_blocks {world : World} {moves : List Move}
    (hfair : (Hub.initial world).Fair moves) :
    let h := (Hub.initial world).run moves
    (∃ blocks : List Block, leasedFrames h.events = blocks.flatMap Block.sent ∧
      (∀ b ∈ blocks, b.frames ≠ [] ∧ ∃ before after,
        h.events = before ++ .granted b.task (some b.socket) :: after ∧
          (sessionAfter before).map (·.socket) = some b.socket) ∧
      (blocks.map Block.task).Sublist (askOrder h.events)) ∧
    (askOrder h.events).Nodup ∧
    (∀ t ∈ askOrder h.events, (∃ s, (t, s) ∈ grants h.events) ∨
      (∃ task ∈ h.tasks, task.id = t ∧ task.point.isQueued = true) ∨
        ∃ name, .ended t name (.error .cancelled) ∈ h.events) ∧
    ∀ t s f, .delivered t false s f ∈ h.events →
      ∃ name job, .started t name job ∈ h.events ∧ job.MaySend false f := by
  intro h
  have hreach : Scene.Reachable world (h.scene none) := Hub.run_reachable hfair
  obtain ⟨blocks, hframes, hblocks, horder⟩ := hreach.blocks
  refine ⟨⟨blocks, hframes, ?_, horder⟩, hreach.inOrder.asked, ?_, ?_⟩
  · intro b hb
    obtain ⟨hsome, hgrant⟩ := hblocks b hb
    obtain ⟨before, after, hsplit, hsocket⟩ := hreach.truthful.moment (mem_grants.mp hgrant)
    exact ⟨hsome, before, after, hsplit, hsocket.symm⟩
  · intro t ht
    exact hreach.asker rfl ht
  · intro t s f hf
    have hown : .delivered t false s f ∈ own t h.events := hreach.signed.mem_ownFrom hf rfl
    obtain ⟨name, place, hhas⟩ := hreach.has_of_own (List.ne_nil_of_mem hown)
    obtain ⟨job, hstarted, htraced⟩ := hreach.traced.traced t name place hhas
    exact ⟨name, job, hstarted, htraced.maySend.2 t false s f hown⟩

/-- Three tasks ask for the lease one after the other. While the first is in the middle of its block
the connection is replaced, and the second is cancelled. -/
def overlappingBlocks : List Move :=
  [.start ⟨"old", .connect "s" none, false⟩, .tick,
    .start ⟨"a", .lease [.send (.text "x"), .await "g", .send (.text "y")], false⟩, .tick,
    .start ⟨"b", .lease [.send (.text "never")], false⟩, .tick,
    .start ⟨"c", .lease [.send (.text "z")], false⟩, .tick,
    .start ⟨"new", .connect "s'" none, false⟩, .tick, .cancel 2, .tick,
    .openGate "g", .tick, .tick]

theorem leased_blocks_overlapping :
    (Hub.initial World.ideal).Fair overlappingBlocks ∧
      leasedFrames ((Hub.initial World.ideal).run overlappingBlocks).events =
        [(1, "s", .text "x"), (1, "s", .text "y"), (3, "s'", .text "z")] ∧
      ∃ blocks : List Block,
        leasedFrames ((Hub.initial World.ideal).run overlappingBlocks).events =
            blocks.flatMap Block.sent ∧
          (blocks.map Block.task).Sublist
            (askOrder ((Hub.initial World.ideal).run overlappingBlocks).events) := by
  have hfair : (Hub.initial World.ideal).Fair overlappingBlocks := by
    simp [overlappingBlocks, Hub.Fair]
  obtain ⟨⟨blocks, hframes, -, horder⟩, -⟩ := leased_blocks hfair
  exact ⟨hfair, by decide, blocks, hframes, horder⟩

end PlotStream
