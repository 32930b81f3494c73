import PlotStream.Proofs.Session.LeaseOrder
import PlotStream.Proofs.Session.Outcome
import PlotStream.Proofs.Session.WakeUps

/-!
# The account of the lease

The lease is held exactly as long as someone is there to give it back (`lease_accounted`): a task that
waits while it uses the lease, or one that has come to keep it and has not been relieved of it. Every
step keeps the books: it changes the number of those who hold the lease by as much as the lease itself
(`Scene.Step.balance`), so that nothing is left over on any way out. Nobody waits for the lease while
it is free and no task can go on.
-/

namespace PlotStream

/-- The tasks that have come to keep the lease, in order. -/
def acquirers (es : List Event) : List TaskId :=
  es.filterMap fun
    | .ended t _ (.ok (.socket _)) => some t
    | _ => none

@[simp] theorem acquirers_append (es es' : List Event) :
    acquirers (es ++ es') = acquirers es ++ acquirers es' :=
  List.filterMap_append

theorem acquirers_of_inner {es : List Event} (h : ∀ e ∈ es, e.isInner) : acquirers es = [] := by
  refine List.filterMap_eq_nil_iff.mpr fun e he => ?_
  have hinner := h e he
  cases e <;> first | rfl | cases hinner

theorem mem_acquirers {es : List Event} {t : TaskId} :
    t ∈ acquirers es ↔ ∃ name s, .ended t name (.ok (.socket s)) ∈ es := by
  rw [acquirers, List.mem_filterMap]
  constructor
  · rintro ⟨e, he, hkept⟩
    split at hkept
    · cases hkept
      exact ⟨_, _, he⟩
    · cases hkept
  · rintro ⟨name, s, h⟩
    exact ⟨_, h, rfl⟩

namespace Hub

/-- How often a move gives the lease back from outside: once, if it is held. -/
def handBack (h : Hub) : Move → Nat
  | .release => h.lease.held.toNat
  | _ => 0

/-- How often a run gives the lease back from outside. -/
def handBacks (h : Hub) : List Move → Nat
  | [] => 0
  | m :: ms => h.handBack m + handBacks (h.move m) ms

/-- Those who hold the lease after a run: the tasks that wait while they use it, and those that have
come to keep it and have not been relieved of it. -/
def holders (h : Hub) (moves : List Move) : List TaskId :=
  ((h.run moves).tasks.filter (·.point.holds)).map Task.id ++
    (acquirers (h.run moves).events).drop (h.handBacks moves)

end Hub

/-! ## Single steps -/

/-- Whether a running task holds the lease, or ends as one that keeps it. -/
def Stage.owes : Stage → Bool
  | .halt (.done (.ok (.socket _))) => true
  | stage => stage.holds

theorem Stage.owes_done {outcome : Except Fault TaskResult} (h : ∀ s, outcome ≠ .ok (.socket s)) :
    (Stage.halt (.done outcome)).owes = false := by
  unfold owes
  split
  · rename_i hdone
    injection hdone with hdone
    injection hdone with hdone
    exact absurd hdone (h _)
  · rfl

/-- What a task does on its own leaves the account as it is. -/
theorem Stage.Acts.owes {w : World} {t : TaskId} {c : Option Connection} {stage stage' : Stage}
    {es : List Event} (hact : stage.Acts w t c es stage') (hasks : stage.asks = false)
    (hreleases : stage.releases = false) : stage'.owes = stage.owes := by
  cases hact with
  | handle houtcome => exact Stage.owes_done houtcome
  | take | queue => cases hasks
  | refused | leave | finish => cases hreleases
  | _ => rfl

namespace Scene

variable {w : World} {σ σ' : Scene} {task : Task} {stage stage' : Stage} {es : List Event}

/-- The account of the running task. -/
def runnerOwes (σ : Scene) : Nat :=
  match σ.running with
  | some (_, stage) => stage.owes.toNat
  | none => 0

/-- How many have come to hold the lease and have not given it back of themselves. -/
def owed (σ : Scene) : Nat :=
  σ.waitingHolders + σ.runnerOwes + (acquirers σ.events).length

/-- A step changes the lease and the number of those who hold it alike. -/
def Balanced (σ σ' : Scene) : Prop :=
  σ'.lease.held.toNat + σ.owed = σ.lease.held.toNat + σ'.owed

namespace Balanced

/-- Nothing that concerns the lease happens. -/
theorem same (hheld : σ'.lease.held = σ.lease.held)
    (hwaiting : σ'.waitingHolders = σ.waitingHolders) (hrunner : σ'.runnerOwes = σ.runnerOwes)
    (hacquirers : acquirers σ'.events = acquirers σ.events) : Balanced σ σ' := by
  simp only [Balanced, owed, hheld, hwaiting, hrunner, hacquirers]

/-- The first task that is ready runs, and holds what it held. -/
theorem picked (seats : σ.Seated) (hidle : σ.running = none) (htask : task ∈ σ.tasks)
    (htasks : σ'.tasks = σ.tasks.filter (·.id ≠ task.id)) (hrun : σ'.running = some (task, stage))
    (howes : stage.owes = task.point.holds) (hheld : σ'.lease.held = σ.lease.held)
    (hacquirers : acquirers σ'.events = acquirers σ.events) : Balanced σ σ' := by
  have hwaiting := Exclusive.countP_without seats.ids htask fun task => task.point.holds
  simp only [Balanced, owed, waitingHolders, runnerOwes, htasks, hrun, hidle, howes, hheld,
    hacquirers] at hwaiting ⊢
  omega

/-- The running task moves on. -/
theorem moved (hrun : σ.running = some (task, stage)) (hrun' : σ'.running = some (task, stage'))
    (htasks : σ'.tasks = σ.tasks) (hacquirers : acquirers σ'.events = acquirers σ.events)
    (howes : σ'.lease.held.toNat + stage.owes.toNat = σ.lease.held.toNat + stage'.owes.toNat) :
    Balanced σ σ' := by
  simp only [Balanced, owed, waitingHolders, runnerOwes, htasks, hrun, hrun', hacquirers]
  omega

/-- The running task comes to wait. -/
theorem put {p : Point} (hrun : σ.running = some (task, stage))
    (htasks : σ'.tasks = σ.tasks ++ [{ task with point := p, cancelled := false }])
    (hidle : σ'.running = none) (howes : p.holds = stage.owes)
    (hheld : σ'.lease.held = σ.lease.held)
    (hevents : σ'.events = σ.events ++ [.paused task.id]) : Balanced σ σ' := by
  have hacquirers : acquirers σ'.events = acquirers σ.events := by
    rw [hevents, acquirers_append]
    exact List.append_nil _
  simp only [Balanced, owed, waitingHolders, runnerOwes, htasks, hrun, hidle, hheld, hacquirers,
    List.countP_append, List.countP_singleton, howes]
  cases stage.owes <;> simp

end Balanced

theorem owes_stage_of_not_queued {p : Point} (h : p.isQueued = false) (c : Option Connection)
    (name : String) : (p.stage c name).owes = p.holds := by
  cases p <;> first | rfl | cases h

theorem owes_cancelledStage (p : Point) : p.cancelledStage.owes = p.holds := by
  unfold Point.cancelledStage
  split
  · rename_i hholds
    exact hholds.symm
  · rename_i hholds
    rw [Bool.not_eq_true] at hholds
    rw [hholds]
    rfl

theorem owes_grantedStage (c : Option Connection) (purpose : Purpose) :
    (purpose.stage c).owes = true := by
  cases c <;> rfl

theorem acquirers_append_inner (hevents : σ'.events = σ.events ++ es)
    (hinner : ∀ e ∈ es, e.isInner) : acquirers σ'.events = acquirers σ.events := by
  rw [hevents, acquirers_append, acquirers_of_inner hinner, List.append_nil]

/-- Whoever gives the lease back owed it, and owes nothing any more. -/
theorem Settled.gives_back (known : σ.Settled w) (hrun : σ.running = some (task, stage))
    (hreleases : stage.releases = true) (hact : stage.Acts w task.id σ.session es stage') :
    stage.owes = true ∧ stage'.owes = false := by
  obtain ⟨job, -, htraced⟩ := known.traced.traced _ _ _ (.runs hrun)
  have hserves : stage.Serves job := htraced.maySend.1
  cases hact with
  | refused purpose => cases purpose <;> exact ⟨rfl, rfl⟩
  | leave => exact ⟨rfl, Stage.owes_done hserves⟩
  | finish => exact ⟨rfl, rfl⟩
  | _ => cases hreleases

/-- Every step but giving the lease back from outside keeps the account. -/
theorem Stride.balance (known : σ.Settled w) (hstride : Stride w σ σ') : Balanced σ σ' := by
  have seats := known.orderly.seats
  have exclusive := known.orderly.exclusive
  obtain ⟨hstep, hsteady⟩ := hstride
  cases hstep with
  | outside hidle hes =>
    exact .same rfl rfl rfl (acquirers_append_inner rfl (inner_of_asides hes.aside))
  | start hidle name job =>
    refine .same rfl ?_ rfl ?_
    · simp [waitingHolders, List.countP_append, Point.holds]
    · rw [acquirers_append]
      exact List.append_nil _
  | openGate | comeIn | skip => exact .same rfl rfl rfl rfl
  | cancel hidle htask => exact .same rfl (Exclusive.countP_holds_cancelAll _ _) rfl rfl
  | giveBack hidle hheld =>
    have hsame := hsteady hidle hidle
    have hfree : σ.lease.passOn.2.held = false := Lease.wake_held _
    rw [hheld] at hsame
    cases hfree.symm.trans hsame
  | resume hidle hready htask hwell hqueued =>
    exact .picked seats hidle htask rfl rfl (owes_stage_of_not_queued hqueued _ _) rfl
      (by simp [Scene.pick, acquirers])
  | @grant task rest purpose hidle hready htask hwell hpoint =>
    have hwoken := Exclusive.woken seats hready htask hwell (hpoint ▸ rfl)
    have hfree := exclusive.fifo.free _ hwoken rfl
    have hwaiting := Exclusive.countP_without seats.ids htask fun task => task.point.holds
    have hnone : task.point.holds = false := by rw [hpoint]; rfl
    have hacquirers : acquirers (σ.events ++
        [.resumed task.id, .granted task.id (σ.session.map (·.socket))]) = acquirers σ.events := by
      rw [acquirers_append]
      exact List.append_nil _
    simp only [Balanced, owed, waitingHolders, runnerOwes, hidle, Scene.pick, Lease.take, hfree,
      hacquirers, owes_grantedStage, hnone, Bool.toNat_false, Bool.toNat_true] at hwaiting ⊢
    omega
  | giveUp hidle hready htask =>
    exact .picked seats hidle htask rfl rfl (owes_cancelledStage _) rfl
      (by simp [Scene.pick, acquirers])
  | giveUpQueue hidle hready htask =>
    exact .picked seats hidle htask rfl rfl (owes_cancelledStage _) (Lease.abandon_held _ _)
      (by simp [Scene.pick, Scene.grantTo, acquirers])
  | giveUpReader hidle hready htask =>
    exact .picked seats hidle htask rfl rfl (owes_cancelledStage _) rfl
      (by simp [Scene.pick, acquirers])
  | act hrun hact hasks hreleases =>
    refine .moved hrun rfl rfl (acquirers_append_inner rfl hact.inner) ?_
    rw [hact.owes hasks hreleases]
    rfl
  | take hrun hopen =>
    have hfree : σ.lease.held = false := by simpa using (Bool.and_eq_true_iff.mp hopen).1
    refine .moved hrun rfl rfl (by simp [Scene.go, acquirers]) ?_
    rw [owes_grantedStage, hfree]
    rfl
  | queue hrun => exact .moved hrun rfl rfl (by simp [Scene.go, acquirers]) rfl
  | release hrun hact hreleases hheld =>
    obtain ⟨howed, hclear⟩ := known.gives_back hrun hreleases hact
    have hfree : σ.lease.passOn.2.held = false := Lease.wake_held _
    refine .moved hrun rfl rfl (acquirers_append_inner rfl hact.inner) ?_
    rw [howed, hclear, hheld, Scene.grantTo, hfree]
    rfl
  | lost hrun hreleases hheld =>
    rw [exclusive.held_of_releases hrun hreleases] at hheld
    cases hheld
  | waitGate hrun => exact .put hrun rfl rfl (Stage.holds_gate _ _).symm rfl rfl
  | waitQueue hrun | waitReader hrun => exact .put hrun rfl rfl rfl rfl rfl
  | @ends task outcome hrun =>
    have hacquirers : (acquirers [.ended task.id task.name outcome]).length =
        (Stage.halt (.done outcome)).owes.toNat := by
      rcases outcome with fault | result
      · rfl
      · cases result <;> rfl
    simp only [Balanced, owed, waitingHolders, runnerOwes, hrun, acquirers_append,
      List.length_append, hacquirers]
    omega

theorem Reachable.balance_of_strides (h : Reachable w σ)
    (hstrides : Relation.ReflTransGen (Stride w) σ σ') : Reachable w σ' ∧ Balanced σ σ' := by
  induction hstrides with
  | refl => exact ⟨h, rfl⟩
  | tail _ hstride ih =>
    obtain ⟨hreach, hbefore⟩ := ih
    have hlast := hstride.balance hreach.settled
    refine ⟨hreach.tail hstride.1, ?_⟩
    simp only [Balanced] at hbefore hlast ⊢
    omega

/-- A task ends once. -/
theorem AllTraced.ended_once (traced : σ.AllTraced w) {t : TaskId} {name name' : String}
    {outcome outcome' : Except Fault TaskResult} (h : .ended t name outcome ∈ σ.events)
    (h' : .ended t name' outcome' ∈ σ.events) : name = name' ∧ outcome = outcome' := by
  have hlast {name : String} {outcome : Except Fault TaskResult}
      (h : .ended t name outcome ∈ σ.events) :
      ∃ es, own t σ.events = es ++ [.ended t name outcome] := by
    obtain ⟨job, -, htraced⟩ := traced.traced _ _ _ (.finished h)
    generalize own t σ.events = es at htraced
    cases htraced with
    | ends => exact ⟨_, rfl⟩
  obtain ⟨es, hes⟩ := hlast h
  obtain ⟨es', hes'⟩ := hlast h'
  have hsame := List.append_inj_right' (hes.symm.trans hes') rfl
  cases hsame
  exact ⟨rfl, rfl⟩

end Scene

namespace Hub

variable {w : World} {h : Hub}

/-- A move changes the lease and the number of those who hold it alike, unless it gives the lease back
from outside. -/
theorem balance_move (hreach : Scene.Reachable w (h.scene none)) (htracks : h.Tracks w) (m : Move) :
    (h.move m).lease.held.toNat + h.handBack m + (h.scene none).owed =
      h.lease.held.toNat + ((h.move m).scene none).owed := by
  by_cases hm : m = .release
  · subst hm
    simp only [move, handBack]
    by_cases hheld : h.lease.held = true
    · have hscene := h.scene_passTo h.lease.passOn none
      have hfree : (h.passTo h.lease.passOn).lease.held = false :=
        (congrArg (·.lease.held) hscene).trans (Lease.wake_held _)
      have howed : ((h.passTo h.lease.passOn).scene none).owed = (h.scene none).owed := by
        rw [hscene]
        rfl
      rw [releaseLease_of_held hheld, hfree, howed, Bool.toNat_false, Nat.zero_add]
    · rw [Bool.not_eq_true] at hheld
      rw [releaseLease_of_not_held hheld, hheld, Bool.toNat_false, Nat.zero_add]
  · have hbalance := (hreach.balance_of_strides (strides_move htracks hm).1).2
    have hnone : h.handBack m = 0 := by cases m <;> first | rfl | exact absurd rfl hm
    rw [hnone]
    exact hbalance

/-- Over a run, the lease and the number of those who hold it change alike, but for the times when the
lease is given back from outside. -/
theorem balance_run {moves : List Move} (hreach : Scene.Reachable w (h.scene none))
    (htracks : h.Tracks w) (hfair : h.Fair moves) :
    (h.run moves).lease.held.toNat + h.handBacks moves + (h.scene none).owed =
      h.lease.held.toNat + ((h.run moves).scene none).owed := by
  induction moves generalizing h with
  | nil => rfl
  | cons m moves ih =>
    obtain ⟨hsteps, htracks'⟩ := steps_move htracks m ⟨hfair.1, trivial⟩
    have hfirst := balance_move hreach htracks m
    have hrest := ih (hreach.trans hsteps) htracks' hfair.2
    simp only [run, List.foldl_cons, handBacks] at hrest ⊢
    omega

/-- Who holds the lease is a task that waits while it uses it, or one that has come to keep it. -/
theorem of_mem_holders {moves : List Move} {t : TaskId} (hmem : t ∈ h.holders moves) :
    (∃ task ∈ (h.run moves).tasks, task.id = t ∧ task.point.holds = true) ∨
      ∃ name s, .ended t name (.ok (.socket s)) ∈ (h.run moves).events := by
  rcases List.mem_append.mp hmem with hmem | hmem
  · obtain ⟨task, htask, hid⟩ := List.mem_map.mp hmem
    obtain ⟨htask, hholds⟩ := List.mem_filter.mp htask
    exact .inl ⟨task, htask, hid, hholds⟩
  · exact .inr (mem_acquirers.mp (List.mem_of_mem_drop hmem))

/-- As many hold the lease as the lease says: one or nobody. -/
theorem length_holders {moves : List Move} (hfair : (initial w).Fair moves) :
    ((initial w).holders moves).length = ((initial w).run moves).lease.held.toNat := by
  have hreach := run_reachable hfair
  have hone := hreach.orderly.exclusive.one
  have hstart : Scene.Reachable w ((initial w).scene none) := .refl
  have hbalance := balance_run hstart ⟨rfl, rfl⟩ hfair
  have hnothing : ((initial w).scene none).owed = 0 := rfl
  have hfree : (initial w).lease.held.toNat = 0 := rfl
  rw [hnothing, hfree] at hbalance
  simp only [Scene.owed, Scene.waitingHolders, Scene.runnerOwes, Scene.runningHolders, scene,
    List.countP_eq_length_filter] at hbalance hone
  simp only [holders, List.length_append, List.length_map, List.length_drop]
  omega

end Hub

/-- The lease is neither leaked nor lost. In every run, it is held exactly while one task holds it, and
free exactly while none does: a task that waits in a send or for a gate while it uses the lease, or one
that was started to acquire it, has acquired it, and has not been relieved of it. So every other task
that has ended has given the lease back, however it has ended, and no call holds it in its plotting
procedure. Nobody waits for the lease while it is free and no task can go on. -/
theorem lease_accounted {world : World} {moves : List Move}
    (hfair : (Hub.initial world).Fair moves) :
    let h := (Hub.initial world).run moves
    let holders := (Hub.initial world).holders moves
    (h.lease.held = true ↔ ∃ t, holders = [t]) ∧ (h.lease.held = false ↔ holders = []) ∧
    (h.ready = [] → h.lease.held = false → ∀ task ∈ h.tasks, task.point.isQueued = false) ∧
    (∀ task ∈ h.tasks, task.id ∈ holders ↔ task.point.holds = true) ∧
    (∀ task ∈ h.tasks, ∀ call g rest, task.point = .building call g rest → task.id ∉ holders) ∧
    ∀ t name outcome, .ended t name outcome ∈ h.events → t ∈ holders →
      .started t name .acquire ∈ h.events ∧ ∃ s, outcome = .ok (.socket s) := by
  intro h holders
  have hreach : Scene.Reachable world (h.scene none) := Hub.run_reachable hfair
  have known := hreach.settled
  have hlength : holders.length = h.lease.held.toNat := Hub.length_holders hfair
  have hended {t : TaskId} {name : String} {outcome : Except Fault TaskResult}
      (h' : .ended t name outcome ∈ h.events) : ∀ task ∈ h.tasks, task.id ≠ t :=
    (known.traced.ended t name outcome h').2.1
  have hlive : ∀ task ∈ h.tasks, task.id ∈ holders ↔ task.point.holds = true := by
    intro task htask
    constructor
    · intro hmem
      rcases Hub.of_mem_holders hmem with ⟨other, hother, hid, hholds⟩ | ⟨name, s, hkept⟩
      · obtain rfl := known.orderly.seats.eq_of_id hother htask hid
        exact hholds
      · exact absurd rfl (hended hkept task htask)
    · intro hholds
      exact List.mem_append_left _ (List.mem_map_of_mem (List.mem_filter.mpr ⟨htask, hholds⟩))
  refine ⟨?_, ?_, fun hready hfree => hreach.none_waits hready hfree, hlive, ?_, ?_⟩
  · rw [← List.length_eq_one_iff, hlength]
    cases h.lease.held <;> simp
  · rw [← List.length_eq_zero_iff, hlength]
    cases h.lease.held <;> simp
  · intro task htask call g rest hpoint hmem
    have hholds := (hlive task htask).mp hmem
    rw [hpoint] at hholds
    cases hholds
  · intro t name outcome hout hmem
    rcases Hub.of_mem_holders hmem with ⟨task, htask, hid, -⟩ | ⟨name', s, hkept⟩
    · exact absurd hid (hended hout task htask)
    · obtain ⟨rfl, rfl⟩ := known.traced.ended_once hout hkept
      obtain ⟨job, hstarted, htraced⟩ := known.traced.traced _ _ _ (.finished hkept)
      obtain rfl : job = .acquire := htraced.maySend.1 s rfl
      exact ⟨hstarted, s, rfl⟩

/-- A task acquires the lease and is relieved of it while a call waits for it. The call waits in a send
when another task that wants to acquire the lease is cancelled. -/
def relievedAcquire : List Move :=
  [.start ⟨"browser", .connect "s" none, false⟩, .tick, .start ⟨"a", .acquire, false⟩, .tick,
    .start ⟨"p", .plot .small, false⟩, .tick, .release, .tick, .start ⟨"b", .acquire, false⟩, .tick,
    .cancel 3, .tick]

theorem relievedAcquire_fair : (Hub.initial World.stalling).Fair relievedAcquire := by
  refine ⟨trivial, trivial, trivial, trivial, trivial, trivial, ?_, trivial, trivial, trivial,
    trivial, trivial, trivial⟩
  decide +kernel

theorem relievedAcquire_ended : .ended 3 "b" (.error .cancelled) ∈
    ((Hub.initial World.stalling).run relievedAcquire).events :=
  mem_of_any_endsIn (by decide +kernel)

theorem lease_accounted_relieved :
    ((Hub.initial World.stalling).Fair relievedAcquire ∧
      ((Hub.initial World.stalling).run relievedAcquire).lease.held = true ∧
      .ended 3 "b" (.error .cancelled) ∈
        ((Hub.initial World.stalling).run relievedAcquire).events) ∧
    (∃ t, (Hub.initial World.stalling).holders relievedAcquire = [t]) ∧
    3 ∉ (Hub.initial World.stalling).holders relievedAcquire ∧
    (Hub.initial World.stalling).holders relievedAcquire = [2] := by
  have hheld : ((Hub.initial World.stalling).run relievedAcquire).lease.held = true := by
    decide +kernel
  obtain ⟨hone, -, -, -, -, hgone⟩ := lease_accounted relievedAcquire_fair
  refine ⟨⟨relievedAcquire_fair, hheld, relievedAcquire_ended⟩, hone.mp hheld, fun hmem => ?_, ?_⟩
  · obtain ⟨-, s, hout⟩ := hgone 3 "b" _ relievedAcquire_ended hmem
    cases hout
  · decide +kernel

end PlotStream
