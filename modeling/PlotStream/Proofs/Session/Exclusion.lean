import PlotStream.Proofs.Session.Seats

/-!
# One holder of the lease

Whoever holds the lease holds it alone. `Scene.Exclusive` says so by counting holders, together with
the order of the queue: the lease is granted to the first in the queue or, when nobody waits, to
whoever asks. With `Scene.Seated` this holds in every scene that can be reached.
-/

namespace PlotStream

theorem Stage.holds_gate (g : GateId) (p : Point) : (Stage.halt (.gate g p)).holds = p.holds := by
  cases p <;> rfl

theorem Stage.holds_of_releases {stage : Stage} (h : stage.releases = true) : stage.holds = true := by
  cases stage <;> first | rfl | cases h

theorem Point.holds_stage {p : Point} (h : p.isQueued = false) (c : Option Connection)
    (name : String) : (p.stage c name).holds = p.holds := by
  cases p <;> first | rfl | cases h

theorem Point.holds_cancelledStage (p : Point) : p.cancelledStage.holds = p.holds := by
  unfold Point.cancelledStage
  split
  · rename_i hholds
    exact hholds.symm
  · rename_i hholds
    rw [Bool.not_eq_true] at hholds
    rw [hholds]
    rfl

theorem Purpose.holds_stage (c : Option Connection) (purpose : Purpose) :
    (purpose.stage c).holds = true := by
  cases c <;> rfl

/-- Nobody comes by the lease but by asking for it. -/
theorem Stage.Acts.holds {w : World} {t : TaskId} {c : Option Connection} {stage stage' : Stage}
    {es : List Event} (hact : stage.Acts w t c es stage') (hasks : stage.asks = false)
    (hholds : stage'.holds = true) : stage.holds = true := by
  cases hact <;> first | rfl | cases hholds | cases hasks

theorem Lease.abandon_held (l : Lease) (t : TaskId) : (l.abandon t).2.held = l.held := by
  unfold Lease.abandon
  split
  · rfl
  · exact (l.dequeue t).wake_held

namespace Scene

/-- How many tasks hold the lease and wait. -/
def waitingHolders (σ : Scene) : Nat :=
  σ.tasks.countP (·.point.holds)

/-- How many running tasks hold the lease. -/
def runningHolders (σ : Scene) : Nat :=
  match σ.running with
  | some (_, stage) => stage.holds.toNat
  | none => 0

/-- The lease has one holder at most, and is granted in order. -/
structure Exclusive (σ : Scene) : Prop where
  fifo : σ.lease.Fifo
  one : σ.waitingHolders + σ.runningHolders ≤ σ.lease.held.toNat

namespace Exclusive

variable {w : World} {σ σ' : Scene} {task : Task}

theorem initial : Scene.initial.Exclusive :=
  ⟨⟨by simp [Scene.initial, Lease.free], by simp [Scene.initial, Lease.free]⟩, Nat.le_refl 0⟩

/-- A task that is taken out of its place takes what it holds with it. -/
theorem countP_without {tasks : List Task} (hids : (tasks.map Task.id).Nodup)
    (htask : task ∈ tasks) (p : Task → Bool) :
    (tasks.filter (·.id ≠ task.id)).countP p + (p task).toNat = tasks.countP p := by
  induction tasks with
  | nil => cases htask
  | cons other rest ih =>
    rw [List.map_cons, List.nodup_cons] at hids
    by_cases hid : other.id = task.id
    · have hsame : other = task := by
        rcases List.mem_cons.mp htask with rfl | hrest
        · rfl
        · exact absurd (hid ▸ List.mem_map_of_mem hrest) hids.1
      subst hsame
      have hothers : rest.filter (·.id ≠ other.id) = rest := by
        refine List.filter_eq_self.mpr fun x hx => ?_
        have hne : x.id ≠ other.id := fun h => hids.1 (h ▸ List.mem_map_of_mem hx)
        simpa using hne
      rw [List.filter_cons_of_neg (by simp), hothers, List.countP_cons]
      cases p other <;> simp
    · have hrest : task ∈ rest := by
        rcases List.mem_cons.mp htask with rfl | hrest
        · exact absurd rfl hid
        · exact hrest
      rw [List.filter_cons_of_pos (by simpa using hid), List.countP_cons, List.countP_cons,
        ← ih hids.2 hrest]
      omega

theorem waitingHolders_pick (seats : σ.Seated) (htask : task ∈ σ.tasks) (rest : List TaskId)
    (stage : Stage) :
    (σ.pick task rest stage).waitingHolders + task.point.holds.toNat = σ.waitingHolders :=
  countP_without seats.ids htask _

/-- A task that is cancelled keeps what it holds. -/
theorem countP_holds_cancelAll (tasks : List Task) (t : TaskId) :
    (Seated.cancelAll tasks t).countP (·.point.holds) = tasks.countP (·.point.holds) := by
  rw [Seated.cancelAll, List.countP_map]
  refine List.countP_congr fun other _ => ?_
  simp only [Function.comp]
  split <;> rfl

theorem pick (inv : σ.Exclusive) (seats : σ.Seated) (htask : task ∈ σ.tasks)
    (hidle : σ.running = none) (rest : List TaskId) {stage : Stage}
    (hholds : stage.holds = task.point.holds) : (σ.pick task rest stage).Exclusive := by
  refine ⟨inv.fifo, ?_⟩
  have hwaiting := waitingHolders_pick seats htask rest stage
  have hone := inv.one
  simp only [runningHolders, hidle, Scene.pick, hholds] at hone hwaiting ⊢
  omega

theorem put (inv : σ.Exclusive) {stage : Stage} {p : Point}
    (hrun : σ.running = some (task, stage)) (hholds : p.holds = stage.holds) :
    (σ.put task p).Exclusive := by
  refine ⟨inv.fifo, ?_⟩
  have hone := inv.one
  simp only [waitingHolders, runningHolders, hrun, Scene.put, List.countP_append,
    List.countP_singleton, hholds] at hone ⊢
  cases hstage : stage.holds <;> simp_all

/-- A waiter whose turn has come finds the lease free. -/
theorem woken (seats : σ.Seated) {rest : List TaskId} (hready : σ.ready = task.id :: rest)
    (htask : task ∈ σ.tasks) (hwell : task.cancelled = false)
    (hqueued : task.point.isQueued = true) : (task.id, .woken) ∈ σ.lease.queue := by
  obtain ⟨x, hx⟩ := seats.queued task htask hqueued
  cases x with
  | woken => exact hx
  | pending => exact absurd hx (seats.alone hready htask hwell).2.2.1
  | cancelled =>
    obtain ⟨other, hother, hid, -, hill⟩ := seats.queue _ hx
    obtain rfl := seats.eq_of_id hother htask hid
    rw [hill rfl] at hwell
    cases hwell

/-- The running task moves on without coming by the lease. -/
theorem go (inv : σ.Exclusive) {stage stage' : Stage} (hrun : σ.running = some (task, stage))
    (hholds : stage'.holds = true → stage.holds = true) (es : List Event) :
    (σ.go task stage' es).Exclusive := by
  refine ⟨inv.fifo, ?_⟩
  have hone := inv.one
  have hle : stage'.holds.toNat ≤ stage.holds.toNat := by
    cases hstage : stage'.holds with
    | false => exact Nat.zero_le _
    | true =>
      exact Nat.le_of_eq (congrArg Bool.toNat (hholds hstage).symm)
  simp only [waitingHolders, runningHolders, hrun, Scene.go] at hone ⊢
  omega

theorem of_le (inv : σ.Exclusive) (htasks : σ'.waitingHolders ≤ σ.waitingHolders)
    (hrun : σ'.runningHolders ≤ σ.runningHolders) (hfifo : σ'.lease.Fifo)
    (hheld : σ'.lease.held = σ.lease.held) : σ'.Exclusive := by
  refine ⟨hfifo, ?_⟩
  have hone := inv.one
  rw [hheld]
  omega

/-- Nothing that concerns the lease happens. -/
theorem same (inv : σ.Exclusive) (htasks : σ'.tasks = σ.tasks) (hrun : σ'.running = σ.running)
    (hfifo : σ'.lease.Fifo) (hheld : σ'.lease.held = σ.lease.held) : σ'.Exclusive := by
  refine inv.of_le ?_ ?_ hfifo hheld
  · exact Nat.le_of_eq (by rw [waitingHolders, htasks, waitingHolders])
  · exact Nat.le_of_eq (by rw [runningHolders, hrun, runningHolders])

theorem step (inv : σ.Exclusive) (seats : σ.Seated) (hstep : Step w σ σ') : σ'.Exclusive := by
  cases hstep with
  | outside hidle => exact inv.same rfl rfl inv.fifo rfl
  | start hidle name job =>
    refine inv.of_le ?_ (Nat.le_refl _) inv.fifo rfl
    simp [waitingHolders, List.countP_append, Point.holds]
  | openGate hidle g => exact inv.same rfl rfl inv.fifo rfl
  | cancel hidle htask =>
    have hsame := countP_holds_cancelAll σ.tasks
    exact inv.of_le (Nat.le_of_eq (hsame _)) (Nat.le_refl _) inv.fifo.cancel rfl
  | giveBack hidle hheld hkept =>
    refine ⟨inv.fifo.passOn, ?_⟩
    have hnone : σ.waitingHolders = 0 :=
      List.countP_eq_zero.mpr fun task htask => by simp [hkept task htask]
    simp only [waitingHolders, runningHolders, grantTo, hidle] at hnone ⊢
    omega
  | comeIn hidle s => exact inv.same rfl rfl inv.fifo rfl
  | skip hidle hready hdead => exact inv.same rfl rfl inv.fifo rfl
  | resume hidle hready htask hwell hqueued =>
    exact inv.pick seats htask hidle _ (Point.holds_stage hqueued _ _)
  | grant hidle hready htask hwell hpoint =>
    have hwoken := woken seats hready htask hwell (hpoint ▸ rfl)
    have hfree := inv.fifo.free _ hwoken rfl
    have hwaiting := waitingHolders_pick seats htask [] (.leave (.ok .nothing))
    have hone := inv.one
    refine ⟨inv.fifo.grant hwoken, ?_⟩
    simp only [waitingHolders, runningHolders, Scene.pick, hfree, Lease.take,
      Purpose.holds_stage, Bool.toNat_false, Bool.toNat_true] at hone hwaiting ⊢
    omega
  | giveUp hidle hready htask hill hqueued =>
    exact inv.pick seats htask hidle _ (Point.holds_cancelledStage _)
  | giveUpQueue hidle hready htask hill hqueued =>
    have hpicked := inv.pick seats htask hidle [] (Point.holds_cancelledStage _)
    exact hpicked.same rfl rfl inv.fifo.abandon (Lease.abandon_held _ _)
  | giveUpReader hidle hready htask hill hpoint hnext =>
    have hpicked := inv.pick seats htask hidle [] (Point.holds_cancelledStage _)
    exact hpicked.same rfl rfl inv.fifo rfl
  | act hrun hact hasks hreleases => exact inv.go hrun (hact.holds hasks) _
  | take hrun hopen =>
    have hfree : σ.lease.held = false := by
      simpa using (Bool.and_eq_true_iff.mp hopen).1
    have hone := inv.one
    refine ⟨inv.fifo.take hopen, ?_⟩
    simp only [waitingHolders, runningHolders, Scene.go, hfree, Lease.take, Purpose.holds_stage,
      Bool.toNat_false, Bool.toNat_true] at hone ⊢
    omega
  | queue hrun hopen => exact inv.go hrun (fun h => by cases h) _
  | release hrun hact hreleases hheld =>
    obtain ⟨outcome, rfl⟩ := hact.done_of_releases hreleases
    have hone := inv.one
    have hdone : (Stage.halt (.done outcome)).holds = false := rfl
    refine ⟨inv.fifo.passOn, ?_⟩
    simp only [waitingHolders, runningHolders, Scene.go, grantTo, hrun, hheld, hdone,
      Stage.holds_of_releases hreleases, Bool.toNat_false, Bool.toNat_true] at hone ⊢
    omega
  | lost hrun hreleases hheld => exact inv.go hrun (fun h => by cases h) _
  | waitGate hrun =>
    have hput := inv.put hrun (Stage.holds_gate _ _).symm
    exact hput.same rfl rfl inv.fifo rfl
  | waitQueue hrun =>
    rename_i task purpose
    have hput := inv.put hrun (p := .queued purpose) rfl
    exact hput.same rfl rfl inv.fifo.enqueue rfl
  | waitReader hrun =>
    rename_i task s
    have hput := inv.put hrun (p := .receiving s) rfl
    exact hput.same rfl rfl inv.fifo rfl
  | ends hrun => exact inv.of_le (Nat.le_refl _) (Nat.zero_le _) inv.fifo rfl

/-- Whoever gives the lease back holds it. -/
theorem held_of_releases (inv : σ.Exclusive) {stage : Stage} (hrun : σ.running = some (task, stage))
    (hreleases : stage.releases = true) : σ.lease.held = true := by
  have hone := inv.one
  simp only [runningHolders, hrun, Stage.holds_of_releases hreleases, Bool.toNat_true] at hone
  cases hheld : σ.lease.held with
  | true => rfl
  | false =>
    rw [hheld] at hone
    simp at hone

end Exclusive

/-- Everyone waits in one place, and the lease has one holder at most. -/
structure Orderly (σ : Scene) : Prop where
  seats : σ.Seated
  halts : σ.HaltsWell
  exclusive : σ.Exclusive

variable {w : World} {σ σ' : Scene}

theorem Orderly.step (inv : σ.Orderly) (hstep : Step w σ σ') : σ'.Orderly :=
  ⟨inv.seats.step inv.halts hstep, haltsWell_of_step hstep, inv.exclusive.step inv.seats hstep⟩

theorem Reachable.orderly (h : Reachable w σ) : σ.Orderly := by
  induction h with
  | refl =>
    refine ⟨.initial, ?_, .initial⟩
    intro task g p hrun
    cases hrun
  | tail _ hstep ih => exact ih.step hstep

end Scene

end PlotStream
