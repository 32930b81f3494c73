import PlotStream.Proofs.Session.Replay

/-!
# Broken sockets

A socket is broken from the failure of a send under the lease until it is connected again
(`brokenAfter`). Nothing is streamed to a broken socket (`broken_socket_shunned`). `Scene.Unbroken` is
the invariant: neither the session nor a task that holds the lease has a socket that is broken. A
failure breaks one socket, which is given up in the same step; nobody else holds the lease then, and
whoever is granted it later gets the socket of the session.
-/

namespace PlotStream

/-- An event other than the failure of a send under the lease. -/
def Event.isMild : Event → Bool
  | .sendFailed _ true _ => false
  | _ => true

/-- Whether a socket is broken after an event. -/
def Event.breaks (s : SocketId) (broken : Bool) : Event → Bool
  | .sendFailed _ true s' => broken || s' = s
  | .connected c => broken && c.socket ≠ s
  | _ => broken

/-- Whether a socket is broken after some events. -/
def brokenFrom (s : SocketId) (broken : Bool) (es : List Event) : Bool :=
  es.foldl (Event.breaks s) broken

/-- Whether a socket is broken after everything that happened. -/
def brokenAfter (s : SocketId) (es : List Event) : Bool :=
  brokenFrom s false es

theorem brokenAfter_append (s : SocketId) (es es' : List Event) :
    brokenAfter s (es ++ es') = brokenFrom s (brokenAfter s es) es' := by
  simp [brokenAfter, brokenFrom]

theorem Event.isMild_of_isAside {e : Event} (h : e.isAside) : e.isMild := by
  cases e <;> first | rfl | cases h

theorem Event.breaks_of_isMild {e : Event} (h : e.isMild) (s : SocketId) :
    e.breaks s false = false := by
  cases e with
  | sendFailed t leased s' =>
    cases leased with
    | false => rfl
    | true => cases h
  | _ => rfl

/-- Nothing breaks a socket but the failure of a send. -/
theorem brokenFrom_of_mild {es : List Event} (h : ∀ e ∈ es, e.isMild) (s : SocketId) :
    brokenFrom s false es = false := by
  induction es with
  | nil => rfl
  | cons e es ih =>
    obtain ⟨he, hes⟩ := List.forall_mem_cons.mp h
    rw [brokenFrom, List.foldl_cons, Event.breaks_of_isMild he]
    exact ih hes

/-- A broken socket stays broken until it is connected. -/
theorem brokenFrom_of_unconnected {es : List Event} {s : SocketId}
    (h : ∀ c, .connected c ∈ es → c.socket ≠ s) : brokenFrom s true es = true := by
  induction es with
  | nil => rfl
  | cons e es ih =>
    have hbroken : e.breaks s true = true := by
      cases e with
      | connected c => simpa [Event.breaks] using h c (List.mem_cons_self ..)
      | sendFailed t leased s' => cases leased <;> simp [Event.breaks]
      | _ => rfl
    rw [brokenFrom, List.foldl_cons, hbroken]
    exact ih fun c hc => h c (List.mem_cons_of_mem _ hc)

/-- The session has a socket that works, if it had one before and nothing breaks. -/
theorem session_works_of_mild {es : List Event} (h : ∀ e ∈ es, e.isMild) {c : Option Connection}
    {b : SocketId → Bool} (hbefore : ∀ cur ∈ c, b cur.socket = false) :
    ∀ cur ∈ sessionFrom c es, brokenFrom cur.socket (b cur.socket) es = false := by
  induction es generalizing c b with
  | nil => exact hbefore
  | cons e es ih =>
    obtain ⟨he, hes⟩ := List.forall_mem_cons.mp h
    refine ih (b := fun s => e.breaks s (b s)) hes fun cur hcur => ?_
    cases e with
    | connected new =>
      obtain rfl : new = cur := Option.some.inj hcur
      simp [Event.breaks]
    | dropped s =>
      exact hbefore cur (Option.mem_filter_iff.mp hcur).1
    | sendFailed t leased s =>
      cases leased with
      | false => exact hbefore cur hcur
      | true => cases he
    | _ => exact hbefore cur hcur

/-! ## A send that fails -/

theorem mild_dropEvents (c : Option Connection) (s : SocketId) : ∀ e ∈ dropEvents c s, e.isMild :=
  fun e he => Event.isMild_of_isAside (aside_dropEvents c s e he)

/-- A send that fails breaks its socket, and no other one. -/
theorem brokenFrom_failEvents (s' : SocketId) (broken : Bool) (c : Option Connection) (t : TaskId)
    (s : SocketId) (f : Frame) (fault : Fault) :
    brokenFrom s' broken (failEvents c t true s f fault) = (broken || s = s') := by
  have hdropped (b : Bool) : brokenFrom s' b (dropEvents c s) = b := by
    cases c with
    | none => rfl
    | some cur =>
      unfold dropEvents
      dsimp only
      split <;> rfl
  exact hdropped _

theorem sessionFrom_dropEvents (c : Option Connection) (s : SocketId) :
    sessionFrom c (dropEvents c s) = c.filter (·.socket ≠ s) := by
  cases c with
  | none => rfl
  | some cur =>
    unfold dropEvents
    dsimp only
    split <;> rfl

/-- A send that fails ends the session over its socket, and no other one. -/
theorem sessionFrom_failEvents (c : Option Connection) (t : TaskId) (leased : Bool) (s : SocketId)
    (f : Frame) (fault : Fault) :
    sessionFrom c (failEvents c t leased s f fault) = c.filter (·.socket ≠ s) :=
  sessionFrom_dropEvents c s

/-- What a task does is mild, unless a send fails under the lease. -/
theorem Stage.Acts.mild_or_fails {w : World} {t : TaskId} {c : Option Connection}
    {stage stage' : Stage} {es : List Event} (hact : stage.Acts w t c es stage') :
    (∀ e ∈ es, e.isMild) ∨ ∃ holder f rest fault, stage = .send holder f rest ∧
      es = failEvents c t true holder.socket f fault ∧ stage'.standing = .late := by
  have haside {es : List Event} (h : ∀ e ∈ es, e.isAside) : ∀ e ∈ es, e.isMild :=
    fun e he => Event.isMild_of_isAside (h e he)
  cases hact with
  | sendFails => exact .inr ⟨_, _, _, _, rfl, rfl, rfl⟩
  | connect | endpoint => exact .inl (haside (aside_connectEvents _ _))
  | disconnect | closed => exact .inl (mild_dropEvents _ _)
  | buildStep h | buildFails h => exact .inl (haside h.aside)
  | built | malformed => exact .inl (haside (aside_checkEvents _))
  | keptFails | answerFails =>
    exact .inl (List.forall_mem_cons.mpr
      ⟨rfl, List.forall_mem_cons.mpr ⟨rfl, mild_dropEvents _ _⟩⟩)
  | incomingFails => exact .inl (List.forall_mem_cons.mpr ⟨rfl, mild_dropEvents _ _⟩)
  | refused purpose => cases purpose <;> simp [Purpose.refusal, Event.isMild]
  | finish holder => cases holder.purpose <;> simp [Purpose.closing, Event.isMild]
  | _ => simp [Event.isMild]

/-- A send fails without the lease only where a task sends over a kept connection or answers. -/
theorem Stage.Acts.unleased_failure {w : World} {t u : TaskId} {c : Option Connection}
    {stage stage' : Stage} {es : List Event} {s : SocketId} (hact : stage.Acts w t c es stage')
    (h : .sendFailed u false s ∈ es) : ∃ s' f, stage = .sendKept s' f ∨ stage = .answer s' f := by
  have haside {es : List Event} (haside : ∀ e ∈ es, e.isAside) : .sendFailed u false s ∉ es :=
    fun h => by cases haside _ h
  cases hact with
  | keptFails => exact ⟨_, _, .inl rfl⟩
  | answerFails => exact ⟨_, _, .inr rfl⟩
  | connect | endpoint => exact absurd h (haside (aside_connectEvents _ _))
  | disconnect | closed => exact absurd h (haside (aside_dropEvents _ _))
  | buildStep hdoes | buildFails hdoes => exact absurd h (haside hdoes.aside)
  | built | malformed => exact absurd h (haside (aside_checkEvents _))
  | sendFails | incomingFails =>
    exact absurd (by simpa [failEvents] using h) (haside (aside_dropEvents _ _))
  | refused purpose => cases purpose <;> simp [Purpose.refusal] at h
  | finish holder =>
    unfold Purpose.closing at h
    split at h <;> simp at h
  | _ => simp at h

/-- The sends of a streaming call that fail are sends under the lease. -/
theorem Traced.fails_leased {w : World} {t : TaskId} {name : String} {call : PlotCall}
    {es : List Event} {place : Whereabouts} (h : Traced w t name (.plot call) es place)
    (u : TaskId) (s : SocketId) : .sendFailed u false s ∉ es := by
  induction h with
  | start => simp
  | resume h hqueued ih => simpa using ih
  | grant h ih => simpa using ih
  | giveUp h ih => simpa using ih
  | act h hact ih =>
    intro hmem
    rcases List.mem_append.mp hmem with hmem | hmem
    · exact ih hmem
    · have hserves := h.maySend.1
      obtain ⟨s', f, rfl | rfl⟩ := hact.unleased_failure hmem
      · exact hserves.elim
      · obtain ⟨⟨s, client, hjob⟩, -⟩ := hserves
        cases hjob
  | wait h hpoint ih => simpa using ih
  | ends h ih => simpa using ih

/-! ## The invariant -/

namespace Scene

variable {w : World} {σ σ' : Scene} {es : List Event} {task : Task} {stage stage' : Stage}
  {s : SocketId}

/-- A task holds the lease with a socket. -/
def HoldsOver (σ : Scene) (s : SocketId) : Prop :=
  (∃ task ∈ σ.tasks, task.point.standing = .holds (some s)) ∨
    ∃ task stage, σ.running = some (task, stage) ∧ stage.standing = .holds (some s)

/-- The tasks that wait stay, except for one that may be picked to run. -/
theorem HoldsOver.picked (h : σ'.HoldsOver s) (hwaits : ∀ other ∈ σ'.tasks, other ∈ σ.tasks)
    (htask : task ∈ σ.tasks) (hrun : σ'.running = some (task, stage))
    (hstage : stage.standing = .holds (some s) → task.point.standing = .holds (some s)) :
    σ.HoldsOver s := by
  rcases h with ⟨other, hother, hholds⟩ | ⟨other, stage', hrun', hholds⟩
  · exact .inl ⟨other, hwaits other hother, hholds⟩
  · obtain ⟨rfl, rfl⟩ := Prod.mk.inj (Option.some.inj (hrun.symm.trans hrun'))
    exact .inl ⟨_, htask, hstage hholds⟩

/-- The running task moves on. -/
theorem HoldsOver.moved (h : σ'.HoldsOver s) (hrun : σ.running = some (task, stage))
    (htasks : σ'.tasks = σ.tasks) (hrun' : σ'.running = some (task, stage'))
    (hstage : stage'.standing = .holds (some s) → stage.standing = .holds (some s)) :
    σ.HoldsOver s := by
  rcases h with ⟨other, hother, hholds⟩ | ⟨other, stage'', hrun'', hholds⟩
  · exact .inl ⟨other, htasks ▸ hother, hholds⟩
  · obtain ⟨rfl, rfl⟩ := Prod.mk.inj (Option.some.inj (hrun'.symm.trans hrun''))
    exact .inr ⟨_, _, hrun, hstage hholds⟩

/-- The running task comes to wait. -/
theorem HoldsOver.put {how : Halt} {p : Point} (h : σ'.HoldsOver s)
    (hrun : σ.running = some (task, .halt how)) (hpoint : how.point? = some p)
    (htasks : σ'.tasks = σ.tasks ++ [{ task with point := p, cancelled := false }])
    (hidle : σ'.running = none) : σ.HoldsOver s := by
  rcases h with ⟨other, hother, hholds⟩ | ⟨other, stage', hrun', -⟩
  · rw [htasks] at hother
    rcases List.mem_append.mp hother with hother | hother
    · exact .inl ⟨other, hother, hholds⟩
    · rw [List.mem_singleton.mp hother] at hholds
      exact .inr ⟨task, _, hrun, (Halt.standing_point hpoint).symm.trans hholds⟩
  · rw [hidle] at hrun'
    cases hrun'

/-- Nobody runs, and everyone waits where he did. -/
theorem HoldsOver.idle (h : σ'.HoldsOver s) (hidle : σ'.running = none)
    (htasks : ∀ task' ∈ σ'.tasks, task'.point.holds = true →
      ∃ task ∈ σ.tasks, task'.point = task.point) : σ.HoldsOver s := by
  rcases h with ⟨other, hother, hholds⟩ | ⟨other, stage, hrun, -⟩
  · obtain ⟨task, htask, hpoint⟩ := htasks other hother (Point.holds_of_standing hholds)
    exact .inl ⟨task, htask, hpoint ▸ hholds⟩
  · rw [hidle] at hrun
    cases hrun

/-- A task that does something holds the lease with the socket that it had, unless it asks for it. -/
theorem holdsOver_of_acts {t : TaskId} {c : Option Connection} (hact : stage.Acts w t c es stage')
    (hasks : stage.asks = false) (h : stage'.standing = .holds (some s)) :
    stage.standing = .holds (some s) := by
  have hmove := hact.leaseMove
  rw [h] at hmove
  generalize hstage : stage.standing = standing at hmove
  cases hmove with
  | nothing | frame => rfl
  | take =>
    rw [hact.asks_of_asked (List.mem_cons_self ..)] at hasks
    cases hasks

/-- Whoever comes by the lease gets the socket of the session with it. -/
theorem Step.holdsOver (hstep : Step w σ σ') (h : σ'.HoldsOver s) :
    σ.HoldsOver s ∨ ∃ c ∈ σ.session, c.socket = s := by
  have hgranted {task : Task} {stage : Stage} (purpose : Purpose)
      (hwaits : ∀ other ∈ σ'.tasks, other ∈ σ.tasks) (hrun : σ'.running = some (task, stage))
      (hstage : stage = purpose.stage σ.session) :
      σ.HoldsOver s ∨ ∃ c ∈ σ.session, c.socket = s := by
    rcases h with ⟨other, hother, hholds⟩ | ⟨other, stage', hrun', hholds⟩
    · exact .inl (.inl ⟨other, hwaits other hother, hholds⟩)
    · obtain ⟨rfl, rfl⟩ := Prod.mk.inj (Option.some.inj (hrun.symm.trans hrun'))
      rw [hstage, Purpose.standing_stage] at hholds
      injection hholds with hsocket
      exact .inr (Option.map_eq_some_iff.mp hsocket)
  have hlate {p : Point} (h : p.cancelledStage.standing = .holds (some s)) :
      p.standing = .holds (some s) := by
    rw [p.standing_cancelledStage] at h
    cases h
  cases hstep with
  | outside hidle | openGate hidle | giveBack hidle | comeIn hidle | skip hidle =>
    exact .inl (h.idle hidle fun task htask _ => ⟨task, htask, rfl⟩)
  | start hidle =>
    refine .inl (h.idle hidle fun task htask hholds => ?_)
    rcases List.mem_append.mp htask with htask | htask
    · exact ⟨task, htask, rfl⟩
    · rw [List.mem_singleton.mp htask] at hholds
      cases hholds
  | cancel hidle =>
    refine .inl (h.idle hidle fun task' htask' _ => ?_)
    obtain ⟨task, htask, rfl⟩ := List.mem_map.mp htask'
    exact ⟨task, htask, by split <;> rfl⟩
  | resume hidle hready htask hwell hqueued =>
    refine .inl (h.picked (fun _ => List.mem_of_mem_filter) htask rfl fun hstage => ?_)
    rwa [Point.standing_stage hqueued] at hstage
  | grant => exact hgranted _ (fun _ => List.mem_of_mem_filter) rfl rfl
  | giveUp hidle hready htask | giveUpQueue hidle hready htask | giveUpReader hidle hready htask =>
    exact .inl (h.picked (fun _ => List.mem_of_mem_filter) htask rfl hlate)
  | act hrun hact hasks => exact .inl (h.moved hrun rfl rfl (holdsOver_of_acts hact hasks))
  | @release task stage stage' es hrun hact hreleases =>
    have hasks : stage.asks = false := by cases stage <;> first | rfl | cases hreleases
    exact .inl (h.moved hrun rfl rfl (holdsOver_of_acts hact hasks))
  | take hrun => exact hgranted _ (fun _ => id) rfl rfl
  | queue hrun | lost hrun => exact .inl (h.moved hrun rfl rfl fun hstage => by cases hstage)
  | waitGate hrun | waitQueue hrun | waitReader hrun => exact .inl (h.put hrun rfl rfl rfl)
  | ends hrun => exact .inl (h.idle rfl fun task htask _ => ⟨task, htask, rfl⟩)

/-- What happens in a step is mild, unless a send of the running task fails under the lease. -/
theorem Step.mild_or_fails (hstep : Step w σ σ') : ∃ es, σ'.events = σ.events ++ es ∧
    ((∀ e ∈ es, e.isMild) ∨ ∃ task holder f rest fault stage',
      σ.running = some (task, .send holder f rest) ∧ σ' = σ.go task stage' es ∧
        stage'.standing = .late ∧ es = failEvents σ.session task.id true holder.socket f fault) := by
  cases hstep with
  | outside hidle hes =>
    exact ⟨_, rfl, .inl fun e he => Event.isMild_of_isAside (hes.aside e he)⟩
  | openGate | cancel | giveBack | comeIn | skip => exact ⟨[], (List.append_nil _).symm, .inl (by simp)⟩
  | act hrun hact =>
    refine ⟨_, rfl, ?_⟩
    rcases hact.mild_or_fails with hmild | ⟨holder, f, rest, fault, rfl, rfl, hlate⟩
    · exact .inl hmild
    · exact .inr ⟨_, _, _, _, _, _, hrun, rfl, hlate, rfl⟩
  | release hrun hact hreleases =>
    refine ⟨_, rfl, .inl ?_⟩
    rcases hact.mild_or_fails with hmild | ⟨holder, f, rest, fault, rfl, -⟩
    · exact hmild
    · cases hreleases
  | _ => exact ⟨_, rfl, .inl (by simp [Event.isMild])⟩

/-- Neither the session nor a holder of the lease has a broken socket. -/
structure Unbroken (σ : Scene) : Prop where
  session : ∀ c ∈ σ.session, brokenAfter c.socket σ.events = false
  holders : ∀ s, σ.HoldsOver s → brokenAfter s σ.events = false

namespace Unbroken

theorem initial : Scene.initial.Unbroken where
  session := by simp [Scene.session, Scene.initial, sessionAfter]
  holders := by simp [HoldsOver, Scene.initial]

/-- Nothing breaks. -/
theorem mild (inv : σ.Unbroken) (hevents : σ'.events = σ.events ++ es) (hmild : ∀ e ∈ es, e.isMild)
    (hstep : Step w σ σ') : σ'.Unbroken := by
  constructor
  case session =>
    intro c hc
    rw [Scene.session, hevents, sessionAfter_append] at hc
    rw [hevents, brokenAfter_append]
    exact session_works_of_mild (b := fun s => brokenAfter s σ.events) hmild inv.session c hc
  case holders =>
    intro s h
    have hworks : brokenAfter s σ.events = false := by
      rcases hstep.holdsOver h with hheld | ⟨c, hc, rfl⟩
      · exact inv.holders s hheld
      · exact inv.session c hc
    rw [hevents, brokenAfter_append, hworks]
    exact brokenFrom_of_mild hmild s

/-- A send of the running task fails. Nobody holds the lease with a socket any more, and the session
is over if it had the socket that breaks. -/
theorem fails (inv : σ.Unbroken) (exclusive : σ.Exclusive) {holder : Holder} {f : Frame}
    {rest : List Action} {fault : Fault} (hrun : σ.running = some (task, .send holder f rest))
    (hlate : stage'.standing = .late) :
    (σ.go task stage' (failEvents σ.session task.id true holder.socket f fault)).Unbroken := by
  constructor
  case session =>
    intro c hc
    have hkept : c ∈ σ.session.filter (·.socket ≠ holder.socket) := by
      rw [← sessionFrom_failEvents σ.session task.id true holder.socket f fault]
      simpa [Scene.session, go, sessionAfter_append] using hc
    obtain ⟨hsession, hother⟩ := Option.mem_filter_iff.mp hkept
    have hne : holder.socket ≠ c.socket := fun h => by simp [h] at hother
    rw [go, brokenAfter_append, brokenFrom_failEvents, inv.session c hsession]
    simpa using hne
  case holders =>
    rintro s (⟨other, hother, hholds⟩ | ⟨other, stage, hrun', hholds⟩)
    · have hone := exclusive.one
      have hpos : 0 < σ.waitingHolders :=
        List.countP_pos_iff.mpr ⟨other, hother, Point.holds_of_standing hholds⟩
      have hheld : σ.lease.held.toNat ≤ 1 := Bool.toNat_le _
      simp only [runningHolders, hrun, Stage.holds, Bool.toNat_true] at hone
      omega
    · obtain ⟨rfl, rfl⟩ := Prod.mk.inj (Option.some.inj hrun')
      rw [hlate] at hholds
      cases hholds

theorem step (inv : σ.Unbroken) (orderly : σ.Orderly) (hstep : Step w σ σ') : σ'.Unbroken := by
  obtain ⟨es, hevents, hmild | ⟨task, holder, f, rest, fault, stage', hrun, rfl, hlate, rfl⟩⟩ :=
    hstep.mild_or_fails
  · exact inv.mild hevents hmild hstep
  · exact inv.fails orderly.exclusive hrun hlate

end Unbroken

theorem Reachable.unbroken (h : Reachable w σ) : σ.Unbroken := by
  induction h with
  | refl => exact .initial
  | tail hbefore hstep ih => exact ih.step (Reachable.orderly hbefore) hstep

/-- The scene in which a send fails under the lease. -/
theorem Reachable.failing (h : Reachable w σ) {before after : List Event} {t : TaskId}
    (hsplit : σ.events = before ++ .sendFailed t true s :: after) :
    ∃ f fault rest, after = .logged (.sendError f fault) :: dropEvents (sessionAfter before) s ++ rest := by
  obtain ⟨σ₁, σ₂, more, more', -, hstep, hevents, rfl, rest, rfl⟩ := h.happening hsplit
  obtain ⟨es, hes, hcases⟩ := hstep.mild_or_fails
  obtain rfl : es = more ++ .sendFailed t true s :: more' :=
    List.append_cancel_left (hes.symm.trans hevents)
  rcases hcases with hmild | ⟨task, holder, f, left, fault, stage', -, -, -, hfails⟩
  · cases hmild (.sendFailed t true s) (by simp)
  · cases more with
    | nil =>
      obtain ⟨hevent, rfl⟩ := List.cons.inj hfails
      cases hevent
      exact ⟨f, fault, rest, by rw [List.append_nil]; rfl⟩
    | cons e more =>
      -- only the first event of a failure tells of a send that failed
      have hmem : .sendFailed t true s ∈ more ++ .sendFailed t true s :: more' := by simp
      rw [show more ++ _ = _ from (List.cons.inj hfails).2] at hmem
      cases mild_dropEvents _ _ _ ((List.mem_cons.mp hmem).resolve_left nofun)

end Scene

/-- Nothing is streamed to a broken socket. Once a send of a streaming call has failed on a socket, no
streaming call sends anything on this socket, neither the same nor another one, whenever it has asked
for the lease, until the socket is connected again. With the failure the socket is given up, which ends
the session if it is the session's; a session that has moved on to another socket stays as it is. The
connection that the events tell is the one that the session has. -/
theorem broken_socket_shunned {world : World} {moves : List Move}
    (hfair : (Hub.initial world).Fair moves) {t : TaskId} {name : String} {call : PlotCall}
    {leased : Bool} {s : SocketId} {before after : List Event} :
    let h := (Hub.initial world).run moves
    .started t name (.plot call) ∈ h.events →
    h.events = before ++ .sendFailed t leased s :: after →
    (∀ u name' call' leased' f mid rest, .started u name' (.plot call') ∈ h.events →
      after = mid ++ .delivered u leased' s f :: rest → ∃ c, .connected c ∈ mid ∧ c.socket = s) ∧
    (∃ r rest, after = .logged r :: dropEvents (sessionAfter before) s ++ rest ∧
      sessionAfter (before ++ .sendFailed t leased s :: .logged r ::
          dropEvents (sessionAfter before) s) =
        (sessionAfter before).filter (·.socket ≠ s)) ∧
    h.current = sessionAfter h.events := by
  intro h hstarted hsplit
  obtain ⟨hsteps, htracks⟩ := Hub.steps_run (w := world) (h := .initial world) ⟨rfl, rfl⟩ hfair
  have hreach : Scene.Reachable world (h.scene none) := hsteps
  have known := hreach.settled
  -- the doing of a streaming call
  have htraced {u : TaskId} {name' : String} {call' : PlotCall}
      (hstarted : .started u name' (.plot call') ∈ h.events) {e : Event} (he : e ∈ h.events)
      (hsigner : e.signer? = some u) :
      e ∈ own u h.events ∧ ∃ place, Traced world u name' (.plot call') (own u h.events) place := by
    have hown : e ∈ own u h.events := known.signed.mem_ownFrom he hsigner
    obtain ⟨name, place, hhas⟩ := hreach.has_of_own (List.ne_nil_of_mem hown)
    obtain ⟨job, hstarted', htraced⟩ := known.traced.traced u name place hhas
    obtain ⟨rfl, rfl⟩ := known.traced.once _ _ _ _ _ hstarted hstarted'
    exact ⟨hown, place, htraced⟩
  have hleased : leased = true := by
    have hmem : .sendFailed t leased s ∈ h.events := hsplit ▸ by simp
    obtain ⟨hown, place, htraced⟩ := htraced hstarted hmem rfl
    cases leased with
    | true => rfl
    | false => exact absurd hown (htraced.fails_leased t s)
  subst hleased
  refine ⟨?_, ?_, htracks.session⟩
  · intro u name' call' leased' f mid rest hstarted' hafter
    by_contra hnone
    have hsplit' : h.events = (before ++ .sendFailed t true s :: mid) ++
        .delivered u leased' s f :: rest := by
      rw [hsplit, hafter, List.append_assoc, List.cons_append]
    have hbroken : brokenAfter s (before ++ .sendFailed t true s :: mid) = true := by
      have hcut : (Event.sendFailed t true s).breaks s (brokenAfter s before) = true := by
        simp [Event.breaks]
      rw [brokenAfter_append, brokenFrom, List.foldl_cons, hcut]
      exact brokenFrom_of_unconnected fun c hc hs => hnone ⟨c, hc, hs⟩
    obtain ⟨σ, task, stage, stage', hσ, hevents, hrun, rfl, hact⟩ := hreach.sending hsplit'
    have hmem : .delivered task.id leased' s f ∈ h.events := hsplit' ▸ by simp
    obtain ⟨hown, place, htraced⟩ := htraced hstarted' hmem rfl
    rcases hact.delivers with hnothing | ⟨holder, f', left, rfl, hsent⟩ | ⟨s', f', -, hsent⟩
    · cases hnothing
    · cases (List.cons.inj hsent).1
      have hworks := hσ.unbroken.holders holder.socket (.inr ⟨task, _, hrun, rfl⟩)
      rw [hevents, hbroken] at hworks
      cases hworks
    · cases (List.cons.inj hsent).1
      exact htraced.maySend.2 _ _ _ _ hown
  · obtain ⟨f, fault, rest, hafter⟩ := hreach.failing hsplit
    refine ⟨_, rest, hafter, ?_⟩
    rw [sessionAfter_append]
    exact sessionFrom_dropEvents (sessionAfter before) s

/-- A world in which the second send on a socket waits, and then fails. -/
def World.breaking : World :=
  { World.ideal with
    plan := fun _ =>
      ⟨fun _ => none, fun begun _ => if begun = 1 then some "g" else none,
        fun begun _ => if begun = 2 then some (.raised .runtime "gone") else none⟩ }

/-- A plot fails while another one waits for the lease. The browser connects again over the same
socket, and a third plot is streamed. -/
def reconnectedPlot : List Move :=
  [.start ⟨"browser", .connect "s" none, false⟩, .tick, .start ⟨"p", .plot .small, false⟩, .tick,
    .start ⟨"q", .plot .small, false⟩, .tick, .openGate "g", .tick, .tick,
    .start ⟨"browser", .connect "s" none, false⟩, .tick, .start ⟨"r", .plot .small, false⟩, .tick]

theorem reconnectedPlot_started {t : TaskId} {name : String}
    (ht : (t, name) = (1, "p") ∨ (t, name) = (4, "r")) :
    .started t name (.plot .small) ∈
      ((Hub.initial World.breaking).run reconnectedPlot).events := by
  refine mem_of_any_startsPlot (fun _ => PlotCall.eq_small) ?_
  rcases ht with ht | ht <;> cases ht <;> decide +kernel

/-- Whether an event is the failure of a send by a holder of the lease. -/
def Event.failsSend (t : TaskId) (s : SocketId) : Event → Bool
  | .sendFailed u true s' => (u, s') = (t, s)
  | _ => false

/-- Whether an event is a delivery by a holder of the lease. -/
def Event.deliversFrame (t : TaskId) (s : SocketId) : Event → Bool
  | .delivered u true s' _ => (u, s') = (t, s)
  | _ => false

theorem Event.eq_of_failsSend {e : Event} {t : TaskId} {s : SocketId} (h : e.failsSend t s = true) :
    e = .sendFailed t true s := by
  unfold failsSend at h
  split at h
  · cases of_decide_eq_true h
    rfl
  · cases h

theorem Event.exists_of_deliversFrame {e : Event} {t : TaskId} {s : SocketId}
    (h : e.deliversFrame t s = true) : ∃ f, e = .delivered t true s f := by
  unfold deliversFrame at h
  split at h
  · cases of_decide_eq_true h
    exact ⟨_, rfl⟩
  · cases h

/-- A send of the first plot fails, and a frame of the third one goes out later. -/
theorem reconnectedPlot_split : ∃ before mid f rest,
    ((Hub.initial World.breaking).run reconnectedPlot).events =
      before ++ .sendFailed 1 true "s" :: (mid ++ .delivered 4 true "s" f :: rest) := by
  have hparts := List.takeWhile_append_dropWhile (p := Event.isMild)
    (l := ((Hub.initial World.breaking).run reconnectedPlot).events)
  have hhead : (((Hub.initial World.breaking).run reconnectedPlot).events.dropWhile
      Event.isMild).head?.any (Event.failsSend 1 "s") = true := by
    decide +kernel
  have htail : (((Hub.initial World.breaking).run reconnectedPlot).events.dropWhile
      Event.isMild).tail.any (Event.deliversFrame 4 "s") = true := by
    decide +kernel
  generalize ((Hub.initial World.breaking).run reconnectedPlot).events.dropWhile Event.isMild = late
    at hparts hhead htail
  cases late with
  | nil => cases hhead
  | cons e after =>
    obtain rfl := Event.eq_of_failsSend hhead
    obtain ⟨e', he', hdelivers⟩ := List.any_eq_true.mp htail
    obtain ⟨f, rfl⟩ := Event.exists_of_deliversFrame hdelivers
    obtain ⟨mid, rest, hafter⟩ := List.append_of_mem he'
    rw [List.tail_cons] at hafter
    exact ⟨_, mid, f, rest, by rw [← hafter, hparts]⟩

theorem broken_socket_shunned_reconnected :
    ∃ before mid f rest, ((Hub.initial World.breaking).Fair reconnectedPlot ∧
      .started 1 "p" (.plot .small) ∈
        ((Hub.initial World.breaking).run reconnectedPlot).events ∧
      .started 4 "r" (.plot .small) ∈
        ((Hub.initial World.breaking).run reconnectedPlot).events ∧
      ((Hub.initial World.breaking).run reconnectedPlot).events =
        before ++ .sendFailed 1 true "s" :: (mid ++ .delivered 4 true "s" f :: rest)) ∧
    (∃ c, .connected c ∈ mid ∧ c.socket = "s") ∧
    ((Hub.initial World.breaking).run reconnectedPlot).current =
      sessionAfter ((Hub.initial World.breaking).run reconnectedPlot).events := by
  have hfair : (Hub.initial World.breaking).Fair reconnectedPlot := by
    simp [reconnectedPlot, Hub.Fair]
  have hp := reconnectedPlot_started (.inl rfl)
  have hr := reconnectedPlot_started (.inr rfl)
  obtain ⟨before, mid, f, rest, hsplit⟩ := reconnectedPlot_split
  obtain ⟨hshunned, -, hcurrent⟩ := broken_socket_shunned hfair hp hsplit
  exact ⟨before, mid, f, rest, ⟨hfair, hp, hr, hsplit⟩, hshunned 4 "r" _ _ f mid rest hr rfl,
    hcurrent⟩

end PlotStream
