import PlotStream.Proofs.Session.Simulation

/-!
# Runs of a session as steps

The moves of a run are sequences of the small steps of `Scene.Step`, so that the scene behind a run is
one that the steps reach (`run_reachable`). The one condition is that the lease is not given back from
outside while a script uses it (`Hub.Fair`).
-/

namespace PlotStream

/-- A world in which every connection is accepted and every send goes out at once. -/
def World.ideal : World :=
  ⟨fun _ => .ideal, fun _ => "", [], .standard⟩

/-- A world in which the third send on a socket waits. -/
def World.stalling : World :=
  { World.ideal with
    plan := fun _ => { SocketPlan.ideal with gate := fun begun _ => if begun = 2 then some "g" else none } }

namespace Hub

/-- The lease is never given back from outside while a script uses it. -/
def Fair (h : Hub) : List Move → Prop
  | [] => True
  | m :: ms =>
    (match m with
      | .release => ∀ task ∈ h.tasks, task.point.holds = false
      | _ => True) ∧ Fair (h.move m) ms

/-- From one state to another there are steps at whose ends no task runs. -/
def Steps (w : World) (h h' : Hub) : Prop :=
  Relation.ReflTransGen (Scene.Step w) (h.scene none) (h'.scene none) ∧ h'.Tracks w

/-- From one state to another there are steps at whose ends no task runs, and which do not give the
lease back from outside. -/
def Strides (w : World) (h h' : Hub) : Prop :=
  Relation.ReflTransGen (Scene.Stride w) (h.scene none) (h'.scene none) ∧ h'.Tracks w

variable {w : World} {h h' : Hub} {task : Task} {stage : Stage} {out : Progress × Hub}

/-! ## Coming to a halt -/

theorem scene_setSocket (h : Hub) (s : SocketId) (x : Socket) (running : Option (Task × Stage)) :
    (h.setSocket s x).scene running =
      { h.scene running with readers := Function.update (h.scene running).readers s x.readers } := by
  have hreaders : (fun s' => ((h.setSocket s x).socket s').readers) =
      Function.update (fun s' => (h.socket s').readers) s x.readers := by
    funext s'
    rw [socket_setSocket]
    by_cases hs : s' = s
    · subst hs
      simp
    · simp [hs]
  unfold scene
  rw [hreaders]
  rfl

theorem Tracks.record (htracks : h.Tracks w) {e : Event} (he : ∀ c, e.follow c = c) :
    (h.record e).Tracks w :=
  (h.emits_record he).tracks htracks

/-- A halt that is registered with the session is one step. -/
theorem settleTask_register (htracks : h.Tracks w) (task : Task) (how : Halt) :
    Scene.Step w (h.scene (some (task, .halt how)))
        ((settleTask task (how.register task.id h)).scene none) ∧
      (settleTask task (how.register task.id h)).Tracks w := by
  have hpaused := htracks.record (e := .paused task.id) fun _ => rfl
  cases how with
  | gate g p =>
    refine ⟨?_, hpaused.world, hpaused.session⟩
    have hscene : (settleTask task ((Halt.gate g p).register task.id h)).scene none =
        { (h.scene (some (task, .halt (.gate g p)))).put task p with
          gates := h.atGates ++ [(g, task.id)] } :=
      Scene.ext rfl rfl rfl rfl rfl rfl rfl (events_record _ _)
    rw [hscene]
    exact .waitGate rfl
  | queue purpose =>
    refine ⟨?_, hpaused.world, hpaused.session⟩
    have hscene : (settleTask task ((Halt.queue purpose).register task.id h)).scene none =
        { (h.scene (some (task, .halt (.queue purpose)))).put task (.queued purpose) with
          lease := h.lease.enqueue task.id } :=
      Scene.ext rfl rfl rfl rfl rfl rfl rfl (events_record _ _)
    rw [hscene]
    exact .waitQueue rfl
  | reader s =>
    refine ⟨?_, hpaused.world, hpaused.session⟩
    let x := h.socket s
    have hreaders := congrArg Scene.readers
      (h.scene_setSocket s { x with readers := x.readers ++ [task.id] } none)
    have hscene : (settleTask task ((Halt.reader s).register task.id h)).scene none =
        { (h.scene (some (task, .halt (.reader s)))).put task (.receiving s) with
          readers := Function.update (h.scene none).readers s (x.readers ++ [task.id]) } :=
      Scene.ext rfl rfl rfl rfl hreaders rfl rfl (events_record _ _)
    rw [hscene]
    exact .waitReader rfl
  | done outcome =>
    have hended := htracks.record (e := .ended task.id task.name outcome) fun _ => rfl
    refine ⟨?_, hended⟩
    have hscene : (settleTask task ((Halt.done outcome).register task.id h)).scene none =
        { h.scene (some (task, .halt (.done outcome))) with
          running := none
          events := h.events ++ [.ended task.id task.name outcome] } :=
      Scene.ext rfl rfl rfl rfl rfl rfl rfl (events_record _ _)
    rw [hscene]
    exact .ends rfl

/-- A task that is let run comes back to the session. -/
theorem Strides.of_settles {picked : Hub}
    (hpick : Scene.Step w (h.scene none) (picked.scene (some (task, stage))))
    (hsettles : Settles w task stage picked out) : Strides w h (settleTask task out) := by
  obtain ⟨how, h', hsteps, htracks, rfl⟩ := hsettles
  have hlast := settleTask_register htracks task how
  exact ⟨.head ⟨hpick, nofun⟩ (hsteps.tail ⟨hlast.1, nofun⟩), hlast.2⟩

/-! ## Going on -/

/-- The session when a task is let run: it is not with the others any more. -/
def picked (h : Hub) (task : Task) (rest : List TaskId) : Hub :=
  { h with ready := rest, tasks := h.tasks.filter (·.id ≠ task.id) }.record (.resumed task.id)

theorem Tracks.picked (htracks : h.Tracks w) (task : Task) (rest : List TaskId) :
    (h.picked task rest).Tracks w := by
  have hpicked := htracks.record (e := .resumed task.id) fun _ => rfl
  exact ⟨hpicked.world, hpicked.session⟩

theorem scene_picked (h : Hub) (task : Task) (rest : List TaskId) (stage : Stage) :
    (h.picked task rest).scene (some (task, stage)) = (h.scene none).pick task rest stage :=
  Scene.ext rfl rfl rfl rfl rfl rfl rfl (events_record _ _)

variable {rest : List TaskId}

/-- A task goes on. -/
theorem strides_goOn (htracks : h.Tracks w) (hready : h.ready = task.id :: rest)
    (htask : task ∈ h.tasks) (hwell : task.cancelled = false) :
    Strides w h (settleTask task ((h.picked task rest).goOn task.id task.name task.point)) := by
  have hpicked := htracks.picked task rest
  have hsession := htracks.session_eq none
  by_cases hqueued : task.point.isQueued = false
  · refine .of_settles ?_ (settles_goOn hpicked h.current task.name hqueued)
    rw [scene_picked, ← hsession]
    exact .resume rfl hready htask hwell hqueued
  · obtain ⟨purpose, hpoint⟩ : ∃ purpose, task.point = .queued purpose := by
      cases hp : task.point <;> simp [hp, Point.isQueued] at hqueued
      exact ⟨_, rfl⟩
    rw [hpoint]
    let taken : Hub := { h.picked task rest with lease := (h.lease.dequeue task.id).take }
    have htaken : taken.Tracks w := ⟨hpicked.world, hpicked.session⟩
    refine .of_settles ?_ (settles_afterGrant htaken purpose)
    have hscene : (taken.record (taken.granted task.id)).scene
        (some (task, purpose.stage taken.current)) =
        { (h.scene none).pick task rest (purpose.stage (h.scene none).session) with
          lease := (h.lease.dequeue task.id).take
          events := h.events ++
            [.resumed task.id, .granted task.id ((h.scene none).session.map (·.socket))] } := by
      rw [hsession]
      refine Scene.ext rfl rfl rfl rfl rfl rfl rfl ?_
      simp [taken, Hub.picked, granted, scene, events, record]
    rw [hscene]
    exact .grant rfl hready htask hwell hpoint

/-- A reader that is cancelled leaves the readers of its socket, or passes on what has come in. -/
theorem abandonInbox_cases (h : Hub) (t : TaskId) (s : SocketId) :
    ∃ (readers : List TaskId) (next : Option TaskId),
      (next = none ∧ readers = (h.socket s).readers.filter (· ≠ t) ∨
        t ∉ (h.socket s).readers ∧ (h.socket s).readers = next.toList ++ readers) ∧
      (∀ running, (h.abandonInbox t s).scene running = { h.scene running with
        ready := h.ready ++ next.toList
        readers := Function.update (h.scene running).readers s readers }) ∧
      ∀ w, h.Tracks w → (h.abandonInbox t s).Tracks w := by
  unfold abandonInbox
  dsimp only
  by_cases hreads : (h.socket s).readers.contains t = true
  · rw [if_pos hreads]
    refine ⟨_, none, .inl ⟨rfl, rfl⟩, fun running => ?_, fun w htracks => ⟨htracks.world, htracks.session⟩⟩
    rw [scene_setSocket, Option.toList_none, List.append_nil]
    rfl
  · rw [if_neg hreads]
    have habsent : t ∉ (h.socket s).readers := by simpa using hreads
    split
    · rename_i r rest hinbox hreaders
      refine ⟨rest, some r, .inr ⟨habsent, hreaders⟩, fun running => ?_,
        fun w htracks => ⟨htracks.world, htracks.session⟩⟩
      have hupdated := congrArg Scene.readers
        (h.scene_setSocket s { h.socket s with readers := rest } running)
      exact Scene.ext rfl rfl rfl rfl hupdated rfl rfl rfl
    · refine ⟨(h.socket s).readers, none, .inr ⟨habsent, rfl⟩, fun running => ?_,
        fun w htracks => htracks⟩
      have hsame : Function.update (h.scene running).readers s (h.socket s).readers =
          (h.scene running).readers := Function.update_eq_self s _
      rw [hsame, Option.toList_none, List.append_nil]
      rfl

/-- A task finds itself cancelled. -/
theorem strides_giveUp (htracks : h.Tracks w) (hready : h.ready = task.id :: rest)
    (htask : task ∈ h.tasks) (hill : task.cancelled = true) :
    Strides w h (settleTask task ((h.picked task rest).giveUp task.id task.point)) := by
  have hpicked := htracks.picked task rest
  have hplain (hqueued : task.point.isQueued = false) (hreader : ∀ s, task.point ≠ .receiving s) :
      Scene.Step w (h.scene none)
        ((h.picked task rest).scene (some (task, task.point.cancelledStage))) := by
    rw [scene_picked]
    exact .giveUp rfl hready htask hill hqueued hreader
  cases hpoint : task.point with
  | queued purpose =>
    have hqueued : task.point.isQueued = true := by rw [hpoint]; rfl
    have hstep : Scene.Step w (h.scene none) _ := .giveUpQueue rfl hready htask hill hqueued
    refine .of_settles ?_ (.halt (hpicked.passTo (h.lease.abandon task.id)) (.done (.error .cancelled)))
    rw [scene_passTo, scene_picked]
    rw [hpoint] at hstep
    exact hstep
  | receiving s =>
    obtain ⟨readers, next, hnext, hscene, htracks'⟩ := (h.picked task rest).abandonInbox_cases task.id s
    have hstep : Scene.Step w (h.scene none) _ :=
      .giveUpReader rfl hready htask hill hpoint hnext
    refine .of_settles ?_ (.halt (htracks' w hpicked) (.done (.error .cancelled)))
    rw [hscene, scene_picked]
    rw [hpoint] at hstep
    exact hstep
  | pausing | sending =>
    rw [hpoint] at hplain
    exact .of_settles (hplain rfl (by simp)) (settles_leave hpicked _)
  | fresh | building | sendingKept | replying =>
    rw [hpoint] at hplain
    exact .of_settles (hplain rfl (by simp)) (.halt hpicked (.done (.error .cancelled)))

/-- A tick is a sequence of steps. -/
theorem strides_tick (htracks : h.Tracks w) : Strides w h h.tick := by
  unfold tick
  cases hready : h.ready with
  | nil => exact ⟨.refl, htracks⟩
  | cons t rest =>
    dsimp only
    have hpopped : ({ h with ready := rest } : Hub).Tracks w := ⟨htracks.world, htracks.session⟩
    cases htask? : ({ h with ready := rest } : Hub).task? t with
    | none =>
      have hdead : ∀ task ∈ h.tasks, task.id ≠ t := by
        intro task htask hid
        have hnone := List.find?_eq_none.mp htask? task htask
        exact hnone (decide_eq_true hid)
      exact ⟨.single ⟨.skip rfl hready hdead, fun _ _ => rfl⟩, hpopped⟩
    | some task =>
      have htask : task ∈ h.tasks := List.mem_of_find?_eq_some htask?
      have hid : task.id = t := by
        unfold task? at htask?
        simpa using List.find?_some htask?
      subst hid
      dsimp only [resume]
      cases hill : task.cancelled with
      | true => exact strides_giveUp htracks hready htask hill
      | false => exact strides_goOn htracks hready htask hill

/-! ## Moves -/

theorem Strides.refl (htracks : h.Tracks w) : Strides w h h :=
  ⟨.refl, htracks⟩

theorem Strides.trans {h'' : Hub} (hfirst : Strides w h h') (hthen : Strides w h' h'') : Strides w h h'' :=
  ⟨hfirst.1.trans hthen.1, hthen.2⟩

/-- Events that are nobody's doing. -/
theorem strides_outside {es : List Event} (htracks : h.Tracks w) (he : Emits h h' es)
    (hes : OutsideEvents w h.current es) : Strides w h h' := by
  refine ⟨.single ?_, he.tracks htracks⟩
  rw [← htracks.session_eq none] at hes
  rw [he.scene]
  exact ⟨.outside rfl hes, fun _ _ => rfl⟩

theorem strides_askGate (htracks : h.Tracks w) (t : TaskId) : Strides w h (h.askGate t .cancel).2 :=
  strides_outside htracks (h.emits_askGate t .cancel) (.gate t _)

theorem strides_start (htracks : h.Tracks w) (s : Start) : Strides w h (h.start s) := by
  let entered : Hub := { h with
    nextTask := h.nextTask + 1
    tasks := h.tasks ++ [Task.mk h.nextTask s.name (.fresh s.job) false]
    ready := h.ready ++ [h.nextTask]
    names := (s.name, h.nextTask) :: h.names }
  let started := entered.record (.started h.nextTask s.name s.job)
  have hstarted : Strides w h started := by
    have hrecord := htracks.record (e := .started h.nextTask s.name s.job) fun _ => rfl
    refine ⟨.single ?_, hrecord.world, hrecord.session⟩
    have hscene : started.scene none = { h.scene none with
        tasks := h.tasks ++ [⟨h.nextTask, s.name, .fresh s.job, false⟩]
        ready := h.ready ++ [h.nextTask]
        next := h.nextTask + 1
        events := h.events ++ [.started h.nextTask s.name s.job] } :=
      Scene.ext rfl rfl rfl rfl rfl rfl rfl (events_record _ _)
    rw [hscene]
    exact ⟨.start rfl s.name s.job, fun _ _ => rfl⟩
  have hstart : h.start s = if s.refused then (started.askGate h.nextTask .cancel).2 else started :=
    rfl
  rw [hstart]
  split
  · exact hstarted.trans (strides_askGate hstarted.2 _)
  · exact hstarted

theorem strides_openGate (htracks : h.Tracks w) (g : GateId) : Strides w h (h.openGate g) :=
  ⟨.single ⟨.openGate rfl g, fun _ _ => rfl⟩, htracks.world, htracks.session⟩

theorem strides_cancelTask (htracks : h.Tracks w) (t : TaskId) : Strides w h (h.cancelTask t).2 := by
  unfold cancelTask
  cases htask? : h.task? t with
  | none => exact .refl htracks
  | some task =>
    have htask : task ∈ h.tasks := List.mem_of_find?_eq_some htask?
    have hid : task.id = t := by
      unfold task? at htask?
      simpa using List.find?_some htask?
    subst hid
    dsimp only
    have hstep : Scene.Step w (h.scene none) _ := .cancel rfl htask
    split
    · rename_i hcontains
      have hready : (h.scene none).ready.contains task.id = true := hcontains
      rw [if_pos hready] at hstep
      exact ⟨.single ⟨hstep, fun _ _ => rfl⟩, htracks.world, htracks.session⟩
    · rename_i hcontains
      have hready : ¬ (h.scene none).ready.contains task.id = true := hcontains
      rw [if_neg hready] at hstep
      exact ⟨.single ⟨hstep, fun _ _ => rfl⟩, htracks.world, htracks.session⟩

theorem strides_comeIn (htracks : h.Tracks w) (s : SocketId) (item : Incoming) :
    Strides w h (h.comeIn s item) := by
  let x := h.socket s
  let heard := h.setSocket s { x with inbox := x.inbox ++ [item], readers := x.readers.drop 1 }
  have hcomeIn : h.comeIn s item = heard.makeReady? x.readers.head? := rfl
  have hscene : (heard.makeReady? x.readers.head?).scene none = { h.scene none with
      readers := Function.update (h.scene none).readers s (x.readers.drop 1)
      ready := h.ready ++ x.readers.head?.toList } := by
    have hupdated := congrArg Scene.readers (h.scene_setSocket s
      { x with inbox := x.inbox ++ [item], readers := x.readers.drop 1 } none)
    cases x.readers.head? with
    | none => exact Scene.ext rfl (List.append_nil _).symm rfl rfl hupdated rfl rfl rfl
    | some r => exact Scene.ext rfl rfl rfl rfl hupdated rfl rfl rfl
  have htracks' : (heard.makeReady? x.readers.head?).Tracks w := by
    cases x.readers.head? <;> exact ⟨htracks.world, htracks.session⟩
  rw [hcomeIn]
  refine ⟨.single ?_, htracks'⟩
  rw [hscene]
  exact ⟨.comeIn rfl s, fun _ _ => rfl⟩

theorem strides_connectOn (htracks : h.Tracks w) (loop : LoopState) (s : SocketId)
    (client : Option String) : Strides w h (h.connectOn loop s client).2 := by
  rcases h.connectOn_cases loop s client with
    ⟨fault, h', hrefusal, hconnect, he⟩ | ⟨hrefusal, now, h', hconnect, he⟩
  · rw [hconnect]
    exact strides_outside htracks he (.refuse s (htracks.world ▸ hrefusal))
  · rw [hconnect]
    exact strides_outside htracks he (.connect _ (htracks.world ▸ hrefusal))

/-- A move that does not give the lease back is a sequence of steps that do not. -/
theorem strides_move (htracks : h.Tracks w) {m : Move} (hm : m ≠ .release) :
    Strides w h (h.move m) := by
  cases m with
  | tick => exact strides_tick htracks
  | start s => exact strides_start htracks s
  | openGate g => exact strides_openGate htracks g
  | cancel t => exact strides_cancelTask htracks t
  | cancelGate t => exact strides_askGate htracks t
  | release => exact absurd rfl hm
  | comeIn s item => exact strides_comeIn htracks s item
  | connectElsewhere s client => exact strides_connectOn htracks .closed s client

theorem Strides.steps (hstrides : Strides w h h') : Steps w h h' :=
  ⟨hstrides.1.lift id fun _ _ hstride => hstride.1, hstrides.2⟩

theorem steps_releaseLease (htracks : h.Tracks w)
    (hkept : ∀ task ∈ h.tasks, task.point.holds = false) : Steps w h h.releaseLease.2 := by
  by_cases hheld : h.lease.held = true
  · rw [releaseLease_of_held hheld]
    refine ⟨.single ?_, htracks.passTo _⟩
    rw [scene_passTo]
    exact .giveBack rfl hheld hkept
  · rw [Bool.not_eq_true] at hheld
    rw [releaseLease_of_not_held hheld]
    exact ⟨.refl, htracks⟩

/-- A move is a sequence of steps. -/
theorem steps_move (htracks : h.Tracks w) (m : Move) (hfair : h.Fair [m]) :
    Steps w h (h.move m) := by
  by_cases hm : m = .release
  · subst hm
    exact steps_releaseLease htracks hfair.1
  · exact (strides_move htracks hm).steps

theorem steps_run (htracks : h.Tracks w) {moves : List Move} (hfair : h.Fair moves) :
    Steps w h (h.run moves) := by
  induction moves generalizing h with
  | nil => exact ⟨.refl, htracks⟩
  | cons m moves ih =>
    obtain ⟨hfirst, htracks'⟩ := steps_move htracks m ⟨hfair.1, trivial⟩
    obtain ⟨hrest, htracks''⟩ := ih htracks' hfair.2
    exact ⟨hfirst.trans hrest, htracks''⟩

/-- The scene behind a run is one that the steps reach. -/
theorem run_reachable {moves : List Move} (hfair : (initial w).Fair moves) :
    Scene.Reachable w (((initial w).run moves).scene none) :=
  (steps_run (w := w) ⟨rfl, rfl⟩ hfair).1

end Hub

end PlotStream
