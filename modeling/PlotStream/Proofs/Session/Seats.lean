import Mathlib.Data.List.Nodup
import PlotStream.Proofs.Session.Queue

/-!
# Everyone waits in one place

A task that is not cancelled stands in exactly one place: it is ready, or waits for a gate, or for the
lease, or for something to come in (`Scene.spots` counts the places). So nobody is let go on twice,
and a task that waits for the lease goes on only after its turn has come. `Scene.Seated` is the
invariant that carries this through every step.
-/

namespace PlotStream

/-- Whether a running task does nothing any more but leave and end. -/
def Stage.isDoomed : Stage → Bool
  | leave _ | halt (.done _) => true
  | _ => false

theorem doomed_cancelledStage (p : Point) : p.cancelledStage.isDoomed = true := by
  unfold Point.cancelledStage
  split <;> rfl

/-- A task that acts is at no halt. -/
theorem Stage.Acts.not_doomed {w : World} {t : TaskId} {c : Option Connection} {stage stage' : Stage}
    {es : List Event} (hact : stage.Acts w t c es stage') (hreleases : stage.releases = false) :
    stage.isDoomed = false := by
  cases hact <;> first | rfl | cases hreleases

/-- A stage that gives the lease back is followed by the end. -/
theorem Stage.Acts.done_of_releases {w : World} {t : TaskId} {c : Option Connection}
    {stage stage' : Stage} {es : List Event} (hact : stage.Acts w t c es stage')
    (hreleases : stage.releases = true) : ∃ outcome, stage' = .halt (.done outcome) := by
  cases hact <;> first | exact ⟨_, rfl⟩ | cases hreleases

/-- How often a task that waits at a point stands among the readers of its socket. -/
def reading (readers : SocketId → List TaskId) (t : TaskId) : Point → Nat
  | .receiving s => (readers s).count t
  | _ => 0

namespace Scene

/-- In how many places a task that waits at a point stands. -/
def spots (σ : Scene) (t : TaskId) (p : Point) : Nat :=
  σ.ready.count t + (σ.gates.map Prod.snd).count t + σ.lease.queue.count (t, .pending) +
    reading σ.readers t p

/-- Everyone waits in one place. -/
structure Seated (σ : Scene) : Prop where
  ids : (σ.tasks.map Task.id).Nodup
  known : ∀ task ∈ σ.tasks, task.id < σ.next
  ready : ∀ t ∈ σ.ready, t < σ.next
  gates : ∀ x ∈ σ.gates, ∃ task ∈ σ.tasks, task.id = x.2 ∧ task.cancelled = false
  readers : ∀ s, ∀ t ∈ σ.readers s, ∃ task ∈ σ.tasks, task.id = t ∧ task.point = .receiving s
  queue : ∀ x ∈ σ.lease.queue, ∃ task ∈ σ.tasks, task.id = x.1 ∧ task.point.isQueued = true ∧
    (x.2 = .cancelled → task.cancelled = true)
  queued : ∀ task ∈ σ.tasks, task.point.isQueued = true → ∃ x, (task.id, x) ∈ σ.lease.queue
  once : ∀ task ∈ σ.tasks, task.cancelled = false → σ.spots task.id task.point = 1
  runner : ∀ task stage, σ.running = some (task, stage) → task.id < σ.next ∧
    (∀ other ∈ σ.tasks, other.id ≠ task.id) ∧ (stage.isDoomed = false → task.id ∉ σ.ready)

namespace Seated

variable {σ : Scene} {task : Task} {stage stage' : Stage} {rest : List TaskId}

theorem initial : Scene.initial.Seated where
  ids := .nil
  known := by simp [Scene.initial]
  ready := by simp [Scene.initial]
  gates := by simp [Scene.initial]
  readers := by simp [Scene.initial]
  queue := by simp [Scene.initial, Lease.free]
  queued := by simp [Scene.initial]
  once := by simp [Scene.initial]
  runner := by simp [Scene.initial]

theorem eq_of_id (inv : σ.Seated) {task task' : Task} (h : task ∈ σ.tasks) (h' : task' ∈ σ.tasks)
    (hid : task.id = task'.id) : task = task' :=
  List.inj_on_of_nodup_map inv.ids h h' hid

/-- Where nobody runs there is nothing to say of whoever does. -/
theorem runner_of_idle {running : Option (Task × Stage)} {P : Task → Stage → Prop}
    (hidle : running = none) : ∀ task stage, running = some (task, stage) → P task stage := by
  intro task stage hrun
  rw [hidle] at hrun
  cases hrun

/-! ## A task that stands nowhere -/

/-- A task that is not alive stands in none of the places where tasks wait. -/
structure Absent (σ : Scene) (t : TaskId) : Prop where
  gates : t ∉ σ.gates.map Prod.snd
  readers : ∀ s, t ∉ σ.readers s
  queue : ∀ x, (t, x) ∉ σ.lease.queue

theorem absent (inv : σ.Seated) {t : TaskId} (hdead : ∀ task ∈ σ.tasks, task.id ≠ t) :
    Absent σ t where
  gates := by
    intro hgate
    obtain ⟨x, hx, rfl⟩ := List.mem_map.mp hgate
    obtain ⟨task, htask, hid, -⟩ := inv.gates x hx
    exact hdead task htask hid
  readers := by
    intro s hreader
    obtain ⟨task, htask, hid, -⟩ := inv.readers s t hreader
    exact hdead task htask hid
  queue := by
    intro x hx
    obtain ⟨task, htask, hid, -⟩ := inv.queue _ hx
    exact hdead task htask hid

theorem Absent.spots {t : TaskId} (h : Absent σ t) (p : Point) : σ.spots t p = σ.ready.count t := by
  have hgates := List.count_eq_zero.mpr h.gates
  have hqueue := List.count_eq_zero.mpr (h.queue .pending)
  have hreading : reading σ.readers t p = 0 := by
    cases p with
    | receiving s => exact List.count_eq_zero.mpr (h.readers s)
    | _ => rfl
  unfold Scene.spots
  omega

/-! ## Steps that change places only -/

/-- Tasks may move from place to place, and some may go away for good once they stand nowhere. -/
theorem rearranged {σ' : Scene} (inv : σ.Seated) (htasks : σ'.tasks.Sublist σ.tasks)
    (hnext : σ'.next = σ.next) (hready : ∀ t ∈ σ'.ready, t < σ.next)
    (hgates : ∀ x ∈ σ'.gates, x ∈ σ.gates)
    (hreaders : ∀ s, ∀ t ∈ σ'.readers s, t ∈ σ.readers s)
    (hqueue : ∀ x ∈ σ'.lease.queue, x ∈ σ.lease.queue ∨
      x.2 = .woken ∧ (x.1, .pending) ∈ σ.lease.queue)
    (hqueued : ∀ task ∈ σ'.tasks, (∃ x, (task.id, x) ∈ σ.lease.queue) →
      ∃ x, (task.id, x) ∈ σ'.lease.queue)
    (hspots : ∀ task ∈ σ'.tasks, task.cancelled = false →
      σ'.spots task.id task.point = σ.spots task.id task.point)
    (hgone : ∀ task ∈ σ.tasks, task ∉ σ'.tasks → Absent σ' task.id)
    (hrunner : ∀ task stage, σ'.running = some (task, stage) → task.id < σ.next ∧
      (∀ other ∈ σ'.tasks, other.id ≠ task.id) ∧ (stage.isDoomed = false → task.id ∉ σ'.ready)) :
    σ'.Seated where
  ids := inv.ids.sublist (htasks.map Task.id)
  known task htask := hnext ▸ inv.known task (htasks.subset htask)
  ready t ht := hnext ▸ hready t ht
  gates := by
    intro x hx
    obtain ⟨task, htask, hid, hwell⟩ := inv.gates x (hgates x hx)
    by_cases hkept : task ∈ σ'.tasks
    · exact ⟨task, hkept, hid, hwell⟩
    · exact absurd (List.mem_map_of_mem hx) (hid ▸ (hgone task htask hkept).gates)
  readers := by
    intro s t ht
    obtain ⟨task, htask, hid, hpoint⟩ := inv.readers s t (hreaders s t ht)
    by_cases hkept : task ∈ σ'.tasks
    · exact ⟨task, hkept, hid, hpoint⟩
    · exact absurd ht (hid ▸ (hgone task htask hkept).readers s)
  queue := by
    intro x hx
    have hentry : ∃ task ∈ σ.tasks, task.id = x.1 ∧ task.point.isQueued = true ∧
        (x.2 = .cancelled → task.cancelled = true) := by
      rcases hqueue x hx with hold | ⟨hwoken, hold⟩
      · exact inv.queue x hold
      · obtain ⟨task, htask, hid, hpoint, -⟩ := inv.queue _ hold
        refine ⟨task, htask, hid, hpoint, fun hcancelled => ?_⟩
        rw [hwoken] at hcancelled
        cases hcancelled
    obtain ⟨task, htask, hid, hrest⟩ := hentry
    by_cases hkept : task ∈ σ'.tasks
    · exact ⟨task, hkept, hid, hrest⟩
    · have habsent := (hgone task htask hkept).queue x.2
      rw [hid] at habsent
      exact absurd hx habsent
  queued task htask hpoint := hqueued task htask (inv.queued task (htasks.subset htask) hpoint)
  once task htask hwell :=
    (hspots task htask hwell).trans (inv.once task (htasks.subset htask) hwell)
  runner task stage hrun := hnext ▸ hrunner task stage hrun

/-- Nobody changes places. -/
theorem same {σ' : Scene} (inv : σ.Seated) (htasks : σ'.tasks = σ.tasks)
    (hready : σ'.ready = σ.ready) (hgates : σ'.gates = σ.gates)
    (hqueue : σ'.lease.queue = σ.lease.queue) (hreaders : σ'.readers = σ.readers)
    (hnext : σ'.next = σ.next) (hrun : σ'.running = σ.running) : σ'.Seated := by
  refine inv.rearranged (htasks ▸ .refl _) hnext (hready ▸ inv.ready) (fun _ h => hgates ▸ h)
    (fun _ _ h => hreaders ▸ h) (fun _ h => .inl (hqueue ▸ h)) (fun _ _ h => hqueue ▸ h) ?_
    (fun _ h h' => absurd (htasks ▸ h) h') ?_
  · intro task _ _
    simp only [spots, hready, hgates, hqueue, hreaders]
  · rw [hrun, htasks, hready]
    exact inv.runner

/-- The running task moves on, and nobody else does. -/
theorem go (inv : σ.Seated) (hrun : σ.running = some (task, stage)) (es : List Event)
    (hdoomed : stage.isDoomed = false ∨ stage'.isDoomed = true) : (σ.go task stage' es).Seated := by
  refine inv.rearranged (.refl _) rfl inv.ready (fun _ h => h) (fun _ _ h => h) (fun _ h => .inl h)
    (fun _ _ h => h) (fun _ _ _ => rfl) (fun _ h h' => absurd h h') ?_
  intro task' stage'' hrun'
  obtain ⟨rfl, rfl⟩ := Prod.mk.inj (Option.some.inj hrun')
  obtain ⟨hknown, hothers, hready⟩ := inv.runner _ _ hrun
  refine ⟨hknown, hothers, fun hwell => hready ?_⟩
  rcases hdoomed with hdoomed | hdoomed
  · exact hdoomed
  · rw [hdoomed] at hwell
    cases hwell

/-- Someone is woken. -/
theorem grantTo_wake (inv : σ.Seated) {l : Lease} (hqueue : l.queue = σ.lease.queue) :
    (σ.grantTo l.wake).Seated := by
  have hwoken : ∀ t ∈ l.wake.1, (t, .pending) ∈ σ.lease.queue := by
    intro t ht
    have hcount := l.count_wake t
    rw [hqueue] at hcount
    have hone : l.wake.1.toList.count t = 1 := by rw [Option.mem_def.mp ht]; simp
    exact List.count_pos_iff.mp (by omega)
  have halive : ∀ t ∈ l.wake.1, ∃ task ∈ σ.tasks, task.id = t ∧ task.point.isQueued = true := by
    intro t ht
    obtain ⟨task, htask, hid, hpoint, -⟩ := inv.queue _ (hwoken t ht)
    exact ⟨task, htask, hid, hpoint⟩
  refine inv.rearranged (.refl _) rfl ?_ (fun _ h => h) (fun _ _ h => h) ?_ ?_ ?_
    (fun _ h h' => absurd h h') ?_
  · intro t ht
    rcases List.mem_append.mp ht with ht | ht
    · exact inv.ready t ht
    · obtain ⟨task, htask, rfl, -⟩ := halive t (Option.mem_toList.mp ht)
      exact inv.known task htask
  · intro x hx
    rcases l.mem_wake hx with hold | ⟨hx, -, hold⟩
    · exact .inl (hqueue ▸ hold)
    · exact .inr ⟨hx, hqueue ▸ hold⟩
  · intro task _ hqueued
    exact (l.mem_ids_wake task.id).mpr (hqueue ▸ hqueued)
  · intro task _ _
    have hcount := l.count_wake task.id
    rw [hqueue] at hcount
    simp only [spots, grantTo, List.count_append]
    omega
  · intro task stage hrun
    obtain ⟨hknown, hothers, hready⟩ := inv.runner _ _ hrun
    refine ⟨hknown, hothers, fun hwell hmem => ?_⟩
    rcases List.mem_append.mp hmem with hmem | hmem
    · exact hready hwell hmem
    · obtain ⟨other, hother, hid, -⟩ := halive _ (Option.mem_toList.mp hmem)
      exact hothers other hother hid

/-! ## A task goes on -/

/-- The first task that is ready runs, and stands nowhere any more. -/
theorem picked {σ' : Scene} (inv : σ.Seated) (htask : task ∈ σ.tasks)
    (htasks : σ'.tasks = σ.tasks.filter (·.id ≠ task.id)) (hnext : σ'.next = σ.next)
    (hrun : σ'.running = some (task, stage)) (hready : ∀ t ∈ σ'.ready, t < σ.next)
    (hgates : ∀ x ∈ σ'.gates, x ∈ σ.gates)
    (hreaders : ∀ s, ∀ t ∈ σ'.readers s, t ∈ σ.readers s)
    (hqueue : ∀ x ∈ σ'.lease.queue, x ∈ σ.lease.queue ∨
      x.2 = .woken ∧ (x.1, .pending) ∈ σ.lease.queue)
    (hqueued : ∀ t, t ≠ task.id → (∃ x, (t, x) ∈ σ.lease.queue) → ∃ x, (t, x) ∈ σ'.lease.queue)
    (hspots : ∀ other ∈ σ.tasks, other.id ≠ task.id →
      σ'.spots other.id other.point = σ.spots other.id other.point)
    (habsent : Absent σ' task.id)
    (hrunner : stage.isDoomed = false → task.id ∉ σ'.ready) : σ'.Seated := by
  have hother {other : Task} (h : other ∈ σ'.tasks) : other.id ≠ task.id := by
    rw [htasks] at h
    simpa using (List.mem_filter.mp h).2
  refine inv.rearranged (htasks ▸ List.filter_sublist) hnext hready hgates hreaders hqueue
    (fun other h => hqueued other.id (hother h)) ?_ ?_ ?_
  · intro other h _
    exact hspots other (List.mem_of_mem_filter (htasks ▸ h)) (hother h)
  · intro other h hgone
    have hid : other.id = task.id := by
      by_contra hne
      exact hgone (htasks ▸ List.mem_filter.mpr ⟨h, by simpa using hne⟩)
    rw [hid]
    exact habsent
  · intro task' stage' hrun'
    obtain ⟨rfl, rfl⟩ := Prod.mk.inj (Option.some.inj (hrun.symm.trans hrun'))
    exact ⟨inv.known task htask, fun other h => hother h, hrunner⟩

/-- A task that is ready and not cancelled stands in no other place. -/
theorem alone (inv : σ.Seated) (hready : σ.ready = task.id :: rest) (htask : task ∈ σ.tasks)
    (hwell : task.cancelled = false) :
    task.id ∉ rest ∧ task.id ∉ σ.gates.map Prod.snd ∧ (task.id, .pending) ∉ σ.lease.queue ∧
      ∀ s, task.id ∉ σ.readers s := by
  have honce := inv.once task htask hwell
  have hreaders : ∀ s, task.id ∉ σ.readers s := by
    intro s hs
    obtain ⟨other, hother, hid, hpoint⟩ := inv.readers s _ hs
    obtain rfl := inv.eq_of_id hother htask hid
    have hcount := List.count_pos_iff.mpr hs
    simp only [spots, hready, hpoint, List.count_cons_self, reading] at honce
    omega
  simp only [spots, hready, List.count_cons_self] at honce
  refine ⟨?_, ?_, ?_, hreaders⟩ <;> refine List.count_eq_zero.mp ?_ <;> omega

/-- A task that does not wait for the lease is not in its queue. -/
theorem not_queued (inv : σ.Seated) (htask : task ∈ σ.tasks)
    (hqueued : task.point.isQueued = false) (x : Waiting) : (task.id, x) ∉ σ.lease.queue := by
  intro hx
  obtain ⟨other, hother, hid, hpoint, -⟩ := inv.queue _ hx
  obtain rfl := inv.eq_of_id hother htask hid
  rw [hqueued] at hpoint
  cases hpoint

/-- A cancelled task waits for no gate. -/
theorem not_at_gate (inv : σ.Seated) (htask : task ∈ σ.tasks) (hill : task.cancelled = true) :
    task.id ∉ σ.gates.map Prod.snd := by
  intro hgate
  obtain ⟨x, hx, hid⟩ := List.mem_map.mp hgate
  obtain ⟨other, hother, hid', hwell⟩ := inv.gates x hx
  obtain rfl := inv.eq_of_id hother htask (hid'.trans hid)
  rw [hill] at hwell
  cases hwell

/-- A task reads only where it stands. -/
theorem not_reading (inv : σ.Seated) (htask : task ∈ σ.tasks) {s : SocketId}
    (hpoint : task.point ≠ .receiving s) : task.id ∉ σ.readers s := by
  intro hs
  obtain ⟨other, hother, hid, hother'⟩ := inv.readers s _ hs
  obtain rfl := inv.eq_of_id hother htask hid
  exact hpoint hother'

theorem rest_known (inv : σ.Seated) (hready : σ.ready = task.id :: rest) :
    ∀ t ∈ rest, t < σ.next :=
  fun t ht => inv.ready t (hready ▸ List.mem_cons_of_mem _ ht)

theorem count_rest (hready : σ.ready = task.id :: rest) {t : TaskId} (ht : t ≠ task.id) :
    σ.ready.count t = rest.count t := by
  rw [hready, List.count_cons_of_ne (Ne.symm ht)]

theorem pick (inv : σ.Seated) (hready : σ.ready = task.id :: rest) (htask : task ∈ σ.tasks)
    (habsent : Absent σ task.id)
    (hrunner : stage.isDoomed = false → task.id ∉ rest) : (σ.pick task rest stage).Seated := by
  refine inv.picked htask rfl rfl rfl (inv.rest_known hready) (fun _ h => h) (fun _ _ h => h)
    (fun _ h => .inl h) (fun _ _ h => h) ?_ ⟨habsent.gates, habsent.readers, habsent.queue⟩ hrunner
  intro other _ ht
  simp only [spots, Scene.pick, count_rest hready ht]

/-- A waiter takes the lease. -/
theorem grant {es : List Event} (inv : σ.Seated) (hready : σ.ready = task.id :: rest)
    (htask : task ∈ σ.tasks) (hwell : task.cancelled = false) :
    Seated { σ.pick task rest stage with
      lease := (σ.lease.dequeue task.id).take
      events := es } := by
  obtain ⟨hrest, hgates, -, hreaders⟩ := inv.alone hready htask hwell
  have hmem {x : TaskId × Waiting} (hx : x ∈ (σ.lease.dequeue task.id).queue) :
      x ∈ σ.lease.queue ∧ x.1 ≠ task.id := σ.lease.mem_dequeue.mp hx
  refine inv.picked htask rfl rfl rfl (inv.rest_known hready) (fun _ h => h) (fun _ _ h => h)
    (fun _ h => .inl (hmem h).1) ?_ ?_ ⟨hgates, hreaders, fun _ h => (hmem h).2 rfl⟩ fun _ => hrest
  · rintro t ht ⟨x, hx⟩
    exact ⟨x, σ.lease.mem_dequeue.mpr ⟨hx, ht⟩⟩
  · intro other _ ht
    have hcount := σ.lease.count_dequeue other.id ht .pending
    simp only [spots, Scene.pick, Lease.take, count_rest hready ht, hcount]

/-- A cancelled waiter leaves the queue, and its turn may go to someone else. -/
theorem giveUpQueue (inv : σ.Seated) (hready : σ.ready = task.id :: rest) (htask : task ∈ σ.tasks)
    (hill : task.cancelled = true) (hpoint : task.point.isQueued = true) :
    ((σ.pick task rest task.point.cancelledStage).grantTo (σ.lease.abandon task.id)).Seated := by
  have hmem {x : TaskId × Waiting} (hx : x ∈ (σ.lease.dequeue task.id).queue) :
      x ∈ σ.lease.queue ∧ x.1 ≠ task.id := σ.lease.mem_dequeue.mp hx
  have hreaders : ∀ s, task.id ∉ σ.readers s := by
    intro s
    refine inv.not_reading htask fun hreceiving => ?_
    rw [hreceiving] at hpoint
    cases hpoint
  have hleft : Seated { σ.pick task rest task.point.cancelledStage with
      lease := σ.lease.dequeue task.id } := by
    refine inv.picked htask rfl rfl rfl (inv.rest_known hready) (fun _ h => h) (fun _ _ h => h)
      (fun _ h => .inl (hmem h).1) ?_ ?_
      ⟨inv.not_at_gate htask hill, hreaders, fun _ h => (hmem h).2 rfl⟩ ?_
    · rintro t ht ⟨x, hx⟩
      exact ⟨x, σ.lease.mem_dequeue.mpr ⟨hx, ht⟩⟩
    · intro other _ ht
      have hcount := σ.lease.count_dequeue other.id ht .pending
      simp only [spots, Scene.pick, count_rest hready ht, hcount]
    · intro hwell
      rw [doomed_cancelledStage] at hwell
      cases hwell
  unfold Lease.abandon
  split
  · have hsame : (σ.pick task rest task.point.cancelledStage).grantTo
        (none, σ.lease.dequeue task.id) =
        { σ.pick task rest task.point.cancelledStage with lease := σ.lease.dequeue task.id } :=
      Scene.ext rfl (List.append_nil _) rfl rfl rfl rfl rfl rfl
    rw [hsame]
    exact hleft
  · exact hleft.grantTo_wake rfl

/-- Handing over what has come in moves the first reader of a socket, and nobody else. -/
theorem reading_handOver {s : SocketId} {readers : List TaskId} {next : Option TaskId}
    (inv : σ.Seated) (hnext : σ.readers s = next.toList ++ readers) {other : Task}
    (hother : other ∈ σ.tasks) :
    next.toList.count other.id +
        reading (Function.update σ.readers s readers) other.id other.point =
      reading σ.readers other.id other.point := by
  by_cases hpoint : other.point = .receiving s
  · simp [reading, hpoint, hnext, List.count_append]
  · have hsame : reading (Function.update σ.readers s readers) other.id other.point =
        reading σ.readers other.id other.point := by
      cases hother' : other.point with
      | receiving s' =>
        have hne : s' ≠ s := by
          rintro rfl
          exact hpoint hother'
        simp [reading, hne]
      | _ => rfl
    have hnone : next.toList.count other.id = 0 := by
      refine List.count_eq_zero.mpr fun hmem => inv.not_reading hother hpoint ?_
      rw [hnext]
      exact List.mem_append_left _ hmem
    omega

theorem mem_handOver {s s' : SocketId} {readers : List TaskId} {t : TaskId}
    (hsub : ∀ t ∈ readers, t ∈ σ.readers s) (ht : t ∈ Function.update σ.readers s readers s') :
    t ∈ σ.readers s' := by
  by_cases hs : s' = s
  · subst hs
    rw [Function.update_self] at ht
    exact hsub t ht
  · rwa [Function.update_of_ne hs] at ht

/-- Whoever reads is known. -/
theorem reader_known (inv : σ.Seated) {s : SocketId} {t : TaskId} (ht : t ∈ σ.readers s) :
    t < σ.next := by
  obtain ⟨task, htask, rfl, -⟩ := inv.readers s t ht
  exact inv.known task htask

/-- A cancelled reader leaves, and what has come in may go to someone else. -/
theorem giveUpReader {s : SocketId} {readers : List TaskId} {next : Option TaskId}
    (inv : σ.Seated) (hready : σ.ready = task.id :: rest) (htask : task ∈ σ.tasks)
    (hill : task.cancelled = true) (hpoint : task.point = .receiving s)
    (hnext : next = none ∧ readers = (σ.readers s).filter (· ≠ task.id) ∨
      task.id ∉ σ.readers s ∧ σ.readers s = next.toList ++ readers) :
    Seated { σ.pick task (rest ++ next.toList) task.point.cancelledStage with
      readers := Function.update σ.readers s readers } := by
  have hsub : ∀ t ∈ readers, t ∈ σ.readers s ∧ t ≠ task.id := by
    intro t ht
    rcases hnext with ⟨-, rfl⟩ | ⟨habsent, hreaders⟩
    · simpa using ht
    · have hmem : t ∈ σ.readers s := hreaders ▸ List.mem_append_right _ ht
      exact ⟨hmem, fun hid => habsent (hid ▸ hmem)⟩
  have hnextsub : ∀ t ∈ next.toList, t ∈ σ.readers s := by
    intro t ht
    rcases hnext with ⟨rfl, -⟩ | ⟨-, hreaders⟩
    · simp at ht
    · exact hreaders ▸ List.mem_append_left _ ht
  have hreading : ∀ other ∈ σ.tasks, other.id ≠ task.id → next.toList.count other.id +
      reading (Function.update σ.readers s readers) other.id other.point =
        reading σ.readers other.id other.point := by
    intro other hother hid
    rcases hnext with ⟨rfl, rfl⟩ | ⟨-, hreaders⟩
    · cases hother' : other.point with
      | receiving s' =>
        by_cases hs : s' = s
        · subst hs
          simp [reading, List.count_filter, hid]
        · simp [reading, hs]
      | _ => rfl
    · exact inv.reading_handOver hreaders hother
  have hgone : ∀ s', task.id ∉ Function.update σ.readers s readers s' := by
    intro s' hs'
    by_cases hs : s' = s
    · subst hs
      rw [Function.update_self] at hs'
      exact (hsub _ hs').2 rfl
    · rw [Function.update_of_ne hs] at hs'
      refine inv.not_reading htask ?_ hs'
      rw [hpoint]
      rintro ⟨⟩
      exact hs rfl
  have hunqueued := inv.not_queued htask (by rw [hpoint]; rfl)
  refine inv.picked htask rfl rfl rfl ?_ (fun _ h => h)
    (fun s' t ht => mem_handOver (fun t ht => (hsub t ht).1) ht) (fun _ h => .inl h)
    (fun _ _ h => h) ?_ ⟨inv.not_at_gate htask hill, hgone, hunqueued⟩ ?_
  · intro t ht
    rcases List.mem_append.mp ht with ht | ht
    · exact inv.rest_known hready t ht
    · exact inv.reader_known (hnextsub t ht)
  · intro other hother hid
    have hread := hreading other hother hid
    simp only [spots, Scene.pick, count_rest hready hid, List.count_append]
    omega
  · intro hwell
    rw [doomed_cancelledStage] at hwell
    cases hwell

/-! ## A task begins to wait -/

/-- One more task, which was not alive, waits in one place. -/
theorem joined {σ' : Scene} {new : Task} (inv : σ.Seated) (htasks : σ'.tasks = σ.tasks ++ [new])
    (hwell : new.cancelled = false) (hothers : ∀ other ∈ σ.tasks, other.id ≠ new.id)
    (hnext : σ.next ≤ σ'.next) (hknown : new.id < σ'.next) (hready : ∀ t ∈ σ'.ready, t < σ'.next)
    (hidle : σ'.running = none) (hgates : ∀ x ∈ σ'.gates, x ∈ σ.gates ∨ x.2 = new.id)
    (hreaders : ∀ s, ∀ t ∈ σ'.readers s, t ∈ σ.readers s ∨ t = new.id ∧ new.point = .receiving s)
    (hqueue : ∀ x ∈ σ'.lease.queue, x ∈ σ.lease.queue ∨
      x = (new.id, .pending) ∧ new.point.isQueued = true)
    (hkept : ∀ x ∈ σ.lease.queue, x ∈ σ'.lease.queue)
    (hqueued : new.point.isQueued = true → (new.id, .pending) ∈ σ'.lease.queue)
    (hspots : ∀ t q, t ≠ new.id → σ'.spots t q = σ.spots t q)
    (hspot : σ'.spots new.id new.point = 1) : σ'.Seated := by
  have hnew : new ∈ σ'.tasks := by
    rw [htasks]
    exact List.mem_append_right _ (List.mem_singleton_self _)
  have hold {other : Task} (hother : other ∈ σ.tasks) : other ∈ σ'.tasks := by
    rw [htasks]
    exact List.mem_append_left _ hother
  have hcases {other : Task} (hother : other ∈ σ'.tasks) : other ∈ σ.tasks ∨ other = new := by
    rw [htasks] at hother
    simpa using hother
  constructor
  case ids =>
    rw [htasks, List.map_append, List.nodup_append]
    refine ⟨inv.ids, List.nodup_singleton _, ?_⟩
    intro t ht t' ht'
    obtain ⟨other, hother, rfl⟩ := List.mem_map.mp ht
    rw [List.mem_singleton.mp ht']
    exact hothers other hother
  case known =>
    intro other hother
    rcases hcases hother with hother | rfl
    · exact Nat.lt_of_lt_of_le (inv.known other hother) hnext
    · exact hknown
  case ready => exact hready
  case gates =>
    intro x hx
    rcases hgates x hx with hx | hx
    · obtain ⟨other, hother, hrest⟩ := inv.gates x hx
      exact ⟨other, hold hother, hrest⟩
    · exact ⟨new, hnew, hx.symm, hwell⟩
  case readers =>
    intro s t ht
    rcases hreaders s t ht with ht | ⟨rfl, hpoint⟩
    · obtain ⟨other, hother, hrest⟩ := inv.readers s t ht
      exact ⟨other, hold hother, hrest⟩
    · exact ⟨new, hnew, rfl, hpoint⟩
  case queue =>
    intro x hx
    rcases hqueue x hx with hx | ⟨rfl, hpoint⟩
    · obtain ⟨other, hother, hrest⟩ := inv.queue x hx
      exact ⟨other, hold hother, hrest⟩
    · exact ⟨new, hnew, rfl, hpoint, nofun⟩
  case queued =>
    intro other hother hpoint
    rcases hcases hother with hother | rfl
    · obtain ⟨x, hx⟩ := inv.queued other hother hpoint
      exact ⟨x, hkept _ hx⟩
    · exact ⟨.pending, hqueued hpoint⟩
  case once =>
    intro other hother hwell'
    rcases hcases hother with hother | rfl
    · exact (hspots _ _ (hothers other hother)).trans (inv.once other hother hwell')
    · exact hspot
  case runner => exact runner_of_idle hidle

/-! ## From outside -/

theorem start (inv : σ.Seated) (hidle : σ.running = none) (name : String) (job : Job) :
    Seated { σ with
      tasks := σ.tasks ++ [⟨σ.next, name, .fresh job, false⟩]
      ready := σ.ready ++ [σ.next]
      next := σ.next + 1
      events := σ.events ++ [.started σ.next name job] } := by
  have hfresh : ∀ task ∈ σ.tasks, task.id ≠ σ.next := fun task htask =>
    Nat.ne_of_lt (inv.known task htask)
  have hcount : σ.ready.count σ.next = 0 :=
    List.count_eq_zero.mpr fun h => absurd (inv.ready _ h) (Nat.lt_irrefl _)
  refine inv.joined rfl rfl hfresh (Nat.le_succ _) (Nat.lt_succ_self _) ?_ hidle
    (fun _ h => .inl h) (fun _ _ h => .inl h) (fun _ h => .inl h) (fun _ h => h) nofun ?_ ?_
  · intro t ht
    rcases List.mem_append.mp ht with ht | ht
    · exact Nat.lt_succ_of_lt (inv.ready t ht)
    · rw [List.mem_singleton.mp ht]
      exact Nat.lt_succ_self _
  · intro t q ht
    simp [spots, List.count_append, ht.symm]
  · have hspots := (inv.absent hfresh).spots (.fresh job)
    simp only [spots, List.count_append, List.count_singleton_self] at hspots ⊢
    omega

theorem count_openGate (xs : List (GateId × TaskId)) (g : GateId) (t : TaskId) :
    ((xs.filter (·.1 ≠ g)).map Prod.snd).count t + ((xs.filter (·.1 = g)).map Prod.snd).count t =
      (xs.map Prod.snd).count t := by
  induction xs with
  | nil => rfl
  | cons x xs ih =>
    by_cases hx : x.1 = g
    · rw [List.filter_cons_of_neg (by simp [hx]), List.filter_cons_of_pos (by simp [hx])]
      simp only [List.map_cons, List.count_cons] at ih ⊢
      omega
    · rw [List.filter_cons_of_pos (by simp [hx]), List.filter_cons_of_neg (by simp [hx])]
      simp only [List.map_cons, List.count_cons] at ih ⊢
      omega

theorem openGate (inv : σ.Seated) (hidle : σ.running = none) (g : GateId) :
    Seated { σ with
      gates := σ.gates.filter (·.1 ≠ g)
      ready := σ.ready ++ (σ.gates.filter (·.1 = g)).map Prod.snd } := by
  refine inv.rearranged (.refl _) rfl ?_ (fun _ h => List.mem_of_mem_filter h) (fun _ _ h => h)
    (fun _ h => .inl h) (fun _ _ h => h) ?_ (fun _ h h' => absurd h h') ?_
  · intro t ht
    rcases List.mem_append.mp ht with ht | ht
    · exact inv.ready t ht
    · obtain ⟨x, hx, rfl⟩ := List.mem_map.mp ht
      obtain ⟨task, htask, hid, -⟩ := inv.gates x (List.mem_of_mem_filter hx)
      exact hid ▸ inv.known task htask
  · intro task _ _
    have hsplit := count_openGate σ.gates g task.id
    simp only [spots, List.count_append]
    omega
  · exact runner_of_idle hidle

theorem comeIn (inv : σ.Seated) (hidle : σ.running = none) (s : SocketId) :
    Seated { σ with
      readers := Function.update σ.readers s ((σ.readers s).drop 1)
      ready := σ.ready ++ (σ.readers s).head?.toList } := by
  have hnext : σ.readers s = (σ.readers s).head?.toList ++ (σ.readers s).drop 1 := by
    cases σ.readers s <;> rfl
  refine inv.rearranged (.refl _) rfl ?_ (fun _ h => h)
    (fun s' t ht => mem_handOver (fun t ht => List.mem_of_mem_drop ht) ht) (fun _ h => .inl h)
    (fun _ _ h => h) ?_ (fun _ h h' => absurd h h') ?_
  · intro t ht
    rcases List.mem_append.mp ht with ht | ht
    · exact inv.ready t ht
    · exact inv.reader_known (List.mem_of_head? (Option.mem_toList.mp ht))
  · intro task htask _
    have hreading := inv.reading_handOver hnext htask
    simp only [spots, List.count_append]
    omega
  · exact runner_of_idle hidle

theorem skip {t : TaskId} (inv : σ.Seated) (hidle : σ.running = none)
    (hready : σ.ready = t :: rest) (hdead : ∀ task ∈ σ.tasks, task.id ≠ t) :
    Seated { σ with ready := rest } := by
  refine inv.rearranged (.refl _) rfl ?_ (fun _ h => h) (fun _ _ h => h) (fun _ h => .inl h)
    (fun _ _ h => h) ?_ (fun _ h h' => absurd h h') ?_
  · intro u hu
    exact inv.ready u (hready ▸ List.mem_cons_of_mem _ hu)
  · intro task htask _
    have hcount : σ.ready.count task.id = rest.count task.id := by
      rw [hready, List.count_cons_of_ne (hdead task htask).symm]
    simp only [spots, hcount]
  · exact runner_of_idle hidle

/-- The tasks when one of them is cancelled. -/
def cancelAll (tasks : List Task) (t : TaskId) : List Task :=
  tasks.map fun other => if other.id = t then { other with cancelled := true } else other

theorem mem_cancelAll {tasks : List Task} {t : TaskId} {task' : Task}
    (h : task' ∈ cancelAll tasks t) : ∃ task ∈ tasks, task'.id = task.id ∧
      task'.point = task.point ∧
      (task'.id = t ∧ task'.cancelled = true ∨ task'.id ≠ t ∧ task' = task) := by
  obtain ⟨task, htask, rfl⟩ := List.mem_map.mp h
  by_cases hid : task.id = t
  · rw [if_pos hid]
    exact ⟨task, htask, rfl, rfl, .inl ⟨hid, rfl⟩⟩
  · rw [if_neg hid]
    exact ⟨task, htask, rfl, rfl, .inr ⟨hid, rfl⟩⟩

theorem cancelAll_mem {tasks : List Task} {task : Task} (h : task ∈ tasks) (t : TaskId) :
    ∃ task' ∈ cancelAll tasks t, task'.id = task.id ∧ task'.point = task.point ∧
      (task.id ≠ t → task'.cancelled = task.cancelled) ∧ (task.id = t → task'.cancelled = true) := by
  refine ⟨_, List.mem_map_of_mem h, ?_⟩
  by_cases hid : task.id = t
  · rw [if_pos hid]
    exact ⟨rfl, rfl, fun hne => absurd hid hne, fun _ => rfl⟩
  · rw [if_neg hid]
    exact ⟨rfl, rfl, fun _ => rfl, fun h => absurd h hid⟩

theorem cancelAll_ids (tasks : List Task) (t : TaskId) :
    (cancelAll tasks t).map Task.id = tasks.map Task.id := by
  simp only [cancelAll, List.map_map]
  refine List.map_congr_left fun task _ => ?_
  simp only [Function.comp]
  split <;> rfl

/-- Whoever else waits for a gate still does when a task is cancelled. -/
theorem count_leaveGates (xs : List (GateId × TaskId)) {t u : TaskId} (hne : u ≠ t) :
    ((xs.filter (·.2 ≠ t)).map Prod.snd).count u = (xs.map Prod.snd).count u := by
  have hcomm : (xs.filter (·.2 ≠ t)).map Prod.snd = (xs.map Prod.snd).filter (· ≠ t) := by
    rw [List.filter_map]
    rfl
  rw [hcomm]
  exact List.count_filter (by simpa using hne)

/-- Whoever stands in the queue after a cancellation is alive, and cancelled if the entry says so. -/
theorem alive_of_cancel (inv : σ.Seated) {t : TaskId} {x : TaskId × Waiting}
    (hx : x ∈ (σ.lease.cancel t).queue) : ∃ task ∈ cancelAll σ.tasks t, task.id = x.1 ∧
      task.point.isQueued = true ∧ (x.2 = .cancelled → task.cancelled = true) := by
  rcases σ.lease.mem_cancel hx with ⟨hx, -⟩ | ⟨rfl, hpending⟩
  · obtain ⟨other, hother, hid, hpoint, hill⟩ := inv.queue x hx
    obtain ⟨task, htask, hid', hpoint', hwell, hcancelled⟩ := cancelAll_mem hother t
    refine ⟨task, htask, hid'.trans hid, hpoint' ▸ hpoint, fun hx => ?_⟩
    by_cases hother' : other.id = t
    · exact hcancelled hother'
    · rw [hwell hother']
      exact hill hx
  · obtain ⟨other, hother, hid, hpoint, -⟩ := inv.queue _ hpending
    obtain ⟨task, htask, hid', hpoint', -, hcancelled⟩ := cancelAll_mem hother t
    exact ⟨task, htask, hid'.trans hid, hpoint' ▸ hpoint, fun _ => hcancelled hid⟩

theorem cancel (inv : σ.Seated) (hidle : σ.running = none) (htask : task ∈ σ.tasks) :
    Seated { σ with
      tasks := cancelAll σ.tasks task.id
      gates := σ.gates.filter (·.2 ≠ task.id)
      lease := σ.lease.cancel task.id
      ready := if σ.ready.contains task.id then σ.ready else σ.ready ++ [task.id] } := by
  have hready : ∀ t, t ≠ task.id →
      (if σ.ready.contains task.id then σ.ready else σ.ready ++ [task.id]).count t =
        σ.ready.count t := by
    intro t ht
    split
    · rfl
    · simp [List.count_append, ht.symm]
  constructor
  case ids =>
    rw [cancelAll_ids]
    exact inv.ids
  case known =>
    intro task' htask'
    obtain ⟨other, hother, hid, -⟩ := mem_cancelAll htask'
    exact hid ▸ inv.known other hother
  case ready =>
    intro t ht
    split at ht
    · exact inv.ready t ht
    · rcases List.mem_append.mp ht with ht | ht
      · exact inv.ready t ht
      · rw [List.mem_singleton.mp ht]
        exact inv.known task htask
  case gates =>
    intro x hx
    obtain ⟨hx, hne⟩ := List.mem_filter.mp hx
    obtain ⟨other, hother, hid, hwell⟩ := inv.gates x hx
    obtain ⟨task', htask', hid', -, hcancelled, -⟩ := cancelAll_mem hother task.id
    refine ⟨task', htask', hid'.trans hid, (hcancelled ?_).trans hwell⟩
    rw [hid]
    simpa using hne
  case readers =>
    intro s t ht
    obtain ⟨other, hother, hid, hpoint⟩ := inv.readers s t ht
    obtain ⟨task', htask', hid', hpoint', -⟩ := cancelAll_mem hother task.id
    exact ⟨task', htask', hid'.trans hid, hpoint'.trans hpoint⟩
  case queue => exact fun x hx => inv.alive_of_cancel hx
  case queued =>
    intro task' htask' hpoint
    obtain ⟨other, hother, hid, hpoint', -⟩ := mem_cancelAll htask'
    obtain ⟨x, hx⟩ := inv.queued other hother (hpoint' ▸ hpoint)
    rw [hid]
    exact (σ.lease.mem_ids_cancel other.id).mpr ⟨x, hx⟩
  case once =>
    intro task' htask' hwell
    obtain ⟨other, hother, -, -, ⟨-, hill⟩ | ⟨hne, rfl⟩⟩ := mem_cancelAll htask'
    · rw [hill] at hwell
      cases hwell
    · have honce := inv.once task' hother hwell
      have hgates := count_leaveGates σ.gates hne
      have hqueue := σ.lease.count_cancel task'.id hne
      simpa only [spots, hready _ hne, hgates, hqueue] using honce
  case runner => exact runner_of_idle hidle

/-! ## A run of a task comes to its end -/

/-- The running task comes back to wait in one place. -/
theorem put {σ' : Scene} {p : Point} (inv : σ.Seated) (hrun : σ.running = some (task, stage))
    (hhalt : stage.isDoomed = false)
    (htasks : σ'.tasks = σ.tasks ++ [{ task with point := p, cancelled := false }])
    (hnext : σ'.next = σ.next) (hready : σ'.ready = σ.ready) (hidle : σ'.running = none)
    (hgates : ∀ x ∈ σ'.gates, x ∈ σ.gates ∨ x.2 = task.id)
    (hreaders : ∀ s, ∀ t ∈ σ'.readers s, t ∈ σ.readers s ∨ t = task.id ∧ p = .receiving s)
    (hqueue : ∀ x ∈ σ'.lease.queue, x ∈ σ.lease.queue ∨
      x = (task.id, .pending) ∧ p.isQueued = true)
    (hkept : ∀ x ∈ σ.lease.queue, x ∈ σ'.lease.queue)
    (hqueued : p.isQueued = true → (task.id, .pending) ∈ σ'.lease.queue)
    (hspots : ∀ t q, t ≠ task.id → σ'.spots t q = σ.spots t q)
    (hspot : σ'.spots task.id p = σ.ready.count task.id + 1) : σ'.Seated := by
  obtain ⟨hknown, hothers, hrest⟩ := inv.runner _ _ hrun
  have hzero : σ.ready.count task.id = 0 := List.count_eq_zero.mpr (hrest hhalt)
  refine inv.joined htasks rfl hothers (Nat.le_of_eq hnext.symm) (hnext ▸ hknown) ?_ hidle hgates
    hreaders hqueue hkept hqueued hspots ?_
  · intro t ht
    rw [hnext]
    exact inv.ready t (hready ▸ ht)
  · rw [hspot, hzero]

/-- The running task stands nowhere but among those that are ready. -/
theorem runner_absent (inv : σ.Seated) (hrun : σ.running = some (task, stage)) :
    Absent σ task.id :=
  inv.absent (inv.runner _ _ hrun).2.1

theorem waitGate {g : GateId} {p : Point} (inv : σ.Seated)
    (hrun : σ.running = some (task, .halt (.gate g p))) (hp : p.isQueued = false) :
    Seated { σ.put task p with gates := σ.gates ++ [(g, task.id)] } := by
  have habsent := inv.runner_absent hrun
  refine inv.put hrun rfl rfl rfl rfl rfl ?_ (fun _ _ h => .inl h) (fun _ h => .inl h)
    (fun _ h => h) ?_ ?_ ?_
  · intro x hx
    rcases List.mem_append.mp hx with hx | hx
    · exact .inl hx
    · exact .inr (by rw [List.mem_singleton.mp hx])
  · intro hqueued
    rw [hp] at hqueued
    cases hqueued
  · intro t q ht
    simp [spots, Scene.put, List.count_append, ht.symm]
  · have hspots := habsent.spots p
    simp only [spots, Scene.put, List.map_append, List.count_append, List.map_cons, List.map_nil,
      List.count_singleton_self] at hspots ⊢
    omega

theorem waitQueue {purpose : Purpose} (inv : σ.Seated)
    (hrun : σ.running = some (task, .halt (.queue purpose))) :
    Seated { σ.put task (.queued purpose) with lease := σ.lease.enqueue task.id } := by
  have habsent := inv.runner_absent hrun
  refine inv.put hrun rfl rfl rfl rfl rfl (fun _ h => .inl h) (fun _ _ h => .inl h) ?_
    (fun _ h => List.mem_append_left _ h) (fun _ => List.mem_append_right _ (by simp)) ?_ ?_
  · intro x hx
    rcases List.mem_append.mp hx with hx | hx
    · exact .inl hx
    · exact .inr ⟨List.mem_singleton.mp hx, rfl⟩
  · intro t q ht
    have hcount := σ.lease.count_enqueue t task.id
    rw [if_neg ht.symm] at hcount
    simp only [spots, Scene.put, hcount, Nat.add_zero]
  · have hspots := habsent.spots (.queued purpose)
    have hcount := σ.lease.count_enqueue task.id task.id
    rw [if_pos rfl] at hcount
    simp only [spots, Scene.put, hcount] at hspots ⊢
    omega

theorem waitReader {s : SocketId} (inv : σ.Seated)
    (hrun : σ.running = some (task, .halt (.reader s))) :
    Seated { σ.put task (.receiving s) with
      readers := Function.update σ.readers s (σ.readers s ++ [task.id]) } := by
  have habsent := inv.runner_absent hrun
  refine inv.put hrun rfl rfl rfl rfl rfl (fun _ h => .inl h) ?_ (fun _ h => .inl h)
    (fun _ h => h) (fun h => by cases h) ?_ ?_
  · intro s' t ht
    by_cases hs : s' = s
    · subst hs
      have ht' : t ∈ σ.readers s' ++ [task.id] := by simpa using ht
      rcases List.mem_append.mp ht' with ht | ht
      · exact .inl ht
      · exact .inr ⟨List.mem_singleton.mp ht, rfl⟩
    · exact .inl (by simpa [hs] using ht)
  · intro t q ht
    have hreading : reading (Function.update σ.readers s (σ.readers s ++ [task.id])) t q =
        reading σ.readers t q := by
      cases q with
      | receiving s' =>
        by_cases hs : s' = s
        · subst hs
          simp [reading, List.count_append, ht.symm]
        · simp [reading, hs]
      | _ => rfl
    simp only [spots, Scene.put, hreading]
  · have hspots := habsent.spots (.receiving s)
    simp only [spots, Scene.put, reading, Function.update_self, List.count_append,
      List.count_singleton_self] at hspots ⊢
    omega

theorem ends {es : List Event} (inv : σ.Seated) :
    Seated { σ with running := none, events := es } := by
  refine inv.rearranged (.refl _) rfl inv.ready (fun _ h => h) (fun _ _ h => h) (fun _ h => .inl h)
    (fun _ _ h => h) (fun _ _ _ => rfl) (fun _ h h' => absurd h h') ?_
  intro task stage hrun
  cases hrun

end Seated

/-! ## Every step -/

/-- A task that is about to wait for a gate does not wait for the lease. -/
def HaltsWell (σ : Scene) : Prop :=
  ∀ task g p, σ.running = some (task, .halt (.gate g p)) → p.isQueued = false

variable {w : World} {σ σ' : Scene}

theorem stage_ne_gate (p : Point) (c : Option Connection) (name : String) (g : GateId) (q : Point) :
    p.stage c name ≠ .halt (.gate g q) := by
  cases p with
  | queued purpose => cases c <;> exact nofun
  | _ => exact nofun

theorem cancelledStage_ne_gate (p : Point) (g : GateId) (q : Point) :
    p.cancelledStage ≠ .halt (.gate g q) := by
  unfold Point.cancelledStage
  split <;> exact nofun

theorem gate_point {t : TaskId} {c : Option Connection} {stage stage' : Stage} {es : List Event}
    {g : GateId} {p : Point} (hact : stage.Acts w t c es stage') (hgate : stage' = .halt (.gate g p)) :
    p.isQueued = false := by
  cases hact with
  | take => exact absurd hgate (stage_ne_gate (.queued _) _ "" g p)
  | sendWaits | buildWaits | scriptSendWaits | scriptWaits | replyWaits =>
    cases hgate
    rfl
  | _ => cases hgate

theorem haltsWell_of_step (hstep : Step w σ σ') : σ'.HaltsWell := by
  intro task g p hrun'
  cases hstep with
  | outside hidle | start hidle | openGate hidle | cancel hidle | giveBack hidle | comeIn hidle
  | skip hidle =>
    rw [show σ.running = _ from hrun'] at hidle
    cases hidle
  | resume => exact absurd (congrArg Prod.snd (Option.some.inj hrun')) (stage_ne_gate _ _ _ g p)
  | grant =>
    exact absurd (congrArg Prod.snd (Option.some.inj hrun')) (stage_ne_gate (.queued _) _ "" g p)
  | giveUp | giveUpQueue | giveUpReader =>
    exact absurd (congrArg Prod.snd (Option.some.inj hrun')) (cancelledStage_ne_gate _ g p)
  | take => exact absurd (congrArg Prod.snd (Option.some.inj hrun')) (stage_ne_gate (.queued _) _ "" g p)
  | act hrun hact =>
    exact gate_point hact (congrArg Prod.snd (Option.some.inj hrun'))
  | release hrun hact hreleases =>
    obtain ⟨outcome, hdone⟩ := hact.done_of_releases hreleases
    have hstage := congrArg Prod.snd (Option.some.inj hrun')
    dsimp only at hstage
    rw [hdone] at hstage
    cases hstage
  | queue | lost => cases hrun'
  | waitGate | waitQueue | waitReader | ends => cases hrun'

theorem Seated.step (inv : σ.Seated) (hwell : σ.HaltsWell) (hstep : Step w σ σ') : σ'.Seated := by
  cases hstep with
  | outside => exact inv.same rfl rfl rfl rfl rfl rfl rfl
  | start hidle name job => exact inv.start hidle name job
  | openGate hidle g => exact inv.openGate hidle g
  | cancel hidle htask => exact inv.cancel hidle htask
  | giveBack => exact inv.grantTo_wake rfl
  | comeIn hidle s => exact inv.comeIn hidle s
  | skip hidle hready hdead => exact inv.skip hidle hready hdead
  | resume hidle hready htask hill hqueued =>
    obtain ⟨hrest, hgates, -, hreaders⟩ := inv.alone hready htask hill
    exact inv.pick hready htask ⟨hgates, hreaders, inv.not_queued htask hqueued⟩ fun _ => hrest
  | grant hidle hready htask hill hpoint => exact inv.grant hready htask hill
  | giveUp hidle hready htask hill hqueued hreader =>
    have hreaders := fun s => inv.not_reading htask (hreader s)
    refine inv.pick hready htask
      ⟨inv.not_at_gate htask hill, hreaders, inv.not_queued htask hqueued⟩ ?_
    rw [doomed_cancelledStage]
    exact nofun
  | giveUpQueue hidle hready htask hill hqueued => exact inv.giveUpQueue hready htask hill hqueued
  | giveUpReader hidle hready htask hill hpoint hnext =>
    exact inv.giveUpReader hready htask hill hpoint hnext
  | act hrun hact hasks hreleases => exact inv.go hrun _ (.inl (hact.not_doomed hreleases))
  | take hrun hopen =>
    rename_i task purpose
    have hgone : (σ.go task (purpose.stage σ.session) []).Seated := inv.go hrun [] (.inl rfl)
    exact hgone.same rfl rfl rfl rfl rfl rfl rfl
  | queue hrun hopen => exact inv.go hrun _ (.inl rfl)
  | release hrun hact hreleases hheld =>
    obtain ⟨outcome, rfl⟩ := hact.done_of_releases hreleases
    exact (inv.go hrun _ (.inr rfl)).grantTo_wake rfl
  | lost hrun => exact inv.go hrun _ (.inr rfl)
  | waitGate hrun => exact inv.waitGate hrun (hwell _ _ _ hrun)
  | waitQueue hrun => exact inv.waitQueue hrun
  | waitReader hrun => exact inv.waitReader hrun
  | ends => exact inv.ends

end Scene

end PlotStream
