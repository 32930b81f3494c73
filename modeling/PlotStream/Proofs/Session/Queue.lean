import PlotStream.Proofs.Session.Scenes

/-!
# The queue of the lease

What the operations on the lease do to its queue: who stands in it, who waits for a turn that has not
come (counted as entries that are pending), and who has been woken. Only the first in the queue is
ever woken, and only while the lease is free (`Lease.Fifo`).
-/

namespace PlotStream

namespace Lease

variable (l : Lease) (t : TaskId)

/-! ## Waking -/

theorem wake_cases : (l.wake = (none, l) ∧ ∀ u rest, l.queue ≠ (u, .pending) :: rest) ∨
    ∃ u rest, l.queue = (u, .pending) :: rest ∧
      l.wake = (some u, { l with queue := (u, .woken) :: rest }) := by
  unfold wake
  split
  · rename_i u rest hqueue
    exact .inr ⟨u, rest, hqueue, rfl⟩
  · rename_i hother
    exact .inl ⟨rfl, hother⟩

/-- Waking takes a pending turn away and lets its waiter go on. -/
theorem count_wake :
    l.wake.1.toList.count t + l.wake.2.queue.count (t, .pending) = l.queue.count (t, .pending) := by
  rcases l.wake_cases with ⟨hwake, -⟩ | ⟨u, rest, hqueue, hwake⟩
  · simp [hwake]
  · rw [hwake, hqueue]
    by_cases hu : u = t
    · subst hu
      simp
      omega
    · simp [hu]

theorem wake_held : l.wake.2.held = l.held := by
  rcases l.wake_cases with ⟨hwake, -⟩ | ⟨u, rest, hqueue, hwake⟩ <;> rw [hwake]

/-- Waking moves nobody. -/
theorem wake_ids : l.wake.2.queue.map Prod.fst = l.queue.map Prod.fst := by
  rcases l.wake_cases with ⟨hwake, -⟩ | ⟨u, rest, hqueue, hwake⟩
  · rw [hwake]
  · rw [hwake, hqueue]
    rfl

theorem mem_wake {x : TaskId × Waiting} (hx : x ∈ l.wake.2.queue) :
    x ∈ l.queue ∨ x.2 = .woken ∧ l.wake.1 = some x.1 ∧ (x.1, .pending) ∈ l.queue := by
  rcases l.wake_cases with ⟨hwake, -⟩ | ⟨u, rest, hqueue, hwake⟩
  · rw [hwake] at hx
    exact .inl hx
  · rw [hwake] at hx
    rcases List.mem_cons.mp hx with rfl | hx
    · exact .inr ⟨rfl, by rw [hwake], by simp [hqueue]⟩
    · exact .inl (by simp [hqueue, hx])

theorem mem_ids_wake : (∃ x, (t, x) ∈ l.wake.2.queue) ↔ ∃ x, (t, x) ∈ l.queue := by
  have hids := congrArg (t ∈ ·) l.wake_ids
  simpa using hids

/-! ## Joining and leaving -/

theorem count_enqueue (u : TaskId) : (l.enqueue u).queue.count (t, .pending) =
    l.queue.count (t, .pending) + if u = t then 1 else 0 := by
  by_cases hu : u = t <;> simp [enqueue, hu]

theorem count_dequeue {u : TaskId} (hu : t ≠ u) (x : Waiting) :
    (l.dequeue u).queue.count (t, x) = l.queue.count (t, x) :=
  List.count_filter (by simpa using hu)

theorem mem_dequeue {x : TaskId × Waiting} {u : TaskId} :
    x ∈ (l.dequeue u).queue ↔ x ∈ l.queue ∧ x.1 ≠ u := by
  simp [dequeue]

theorem mem_cancel {x : TaskId × Waiting} {u : TaskId} (hx : x ∈ (l.cancel u).queue) :
    (x ∈ l.queue ∧ x ≠ (u, .pending)) ∨ x = (u, .cancelled) ∧ (u, .pending) ∈ l.queue := by
  obtain ⟨y, hy, hyx⟩ := List.mem_map.mp hx
  by_cases hpending : y = (u, .pending)
  · rw [if_pos hpending] at hyx
    exact .inr ⟨hyx.symm, hpending ▸ hy⟩
  · rw [if_neg hpending] at hyx
    exact .inl ⟨hyx ▸ hy, hyx ▸ hpending⟩

theorem cancel_ids (u : TaskId) : (l.cancel u).queue.map Prod.fst = l.queue.map Prod.fst := by
  simp only [cancel, List.map_map]
  refine List.map_congr_left fun x _ => ?_
  by_cases hx : x = (u, .pending) <;> simp [hx]

theorem mem_ids_cancel {u : TaskId} : (∃ x, (t, x) ∈ (l.cancel u).queue) ↔ ∃ x, (t, x) ∈ l.queue := by
  have hids := congrArg (t ∈ ·) (l.cancel_ids u)
  simpa using hids

theorem count_cancel {u : TaskId} (hu : t ≠ u) :
    (l.cancel u).queue.count (t, .pending) = l.queue.count (t, .pending) := by
  unfold cancel
  induction l.queue with
  | nil => rfl
  | cons x xs ih =>
    rw [List.map_cons, List.count_cons, List.count_cons, ih]
    by_cases hx : x = (u, .pending)
    · subst hx
      simp [hu.symm]
    · rw [if_neg hx]

/-! ## Order -/

/-- Only the first in the queue has been woken, and only while the lease is free. -/
structure Fifo (l : Lease) : Prop where
  first : ∀ x ∈ l.queue.tail, x.2 ≠ .woken
  free : ∀ x ∈ l.queue, x.2 = .woken → l.held = false

namespace Fifo

variable {l} {t}

theorem wake (h : l.Fifo) (hfree : l.held = false) : l.wake.2.Fifo where
  first := by
    rcases l.wake_cases with ⟨hwake, -⟩ | ⟨u, rest, hqueue, hwake⟩
    · rw [hwake]
      exact h.first
    · have hfirst := h.first
      rw [hqueue] at hfirst
      rw [hwake]
      exact hfirst
  free _ _ _ := l.wake_held.trans hfree

theorem passOn (h : l.Fifo) : l.passOn.2.Fifo :=
  Fifo.wake ⟨h.first, fun _ _ _ => rfl⟩ rfl

theorem dequeue (h : l.Fifo) : (l.dequeue t).Fifo where
  first x hx := h.first x (List.filter_sublist.tail.subset hx)
  free x hx := h.free x (l.mem_dequeue.mp hx).1

theorem abandon (h : l.Fifo) : (l.abandon t).2.Fifo := by
  unfold Lease.abandon
  split
  · exact h.dequeue
  · rename_i hheld
    have hfree : l.held = false := by simpa using hheld
    exact h.dequeue.wake hfree

theorem enqueue (h : l.Fifo) : (l.enqueue t).Fifo where
  first := by
    intro x hx
    unfold Lease.enqueue at hx
    cases hqueue : l.queue with
    | nil => simp [hqueue] at hx
    | cons y ys =>
      have hfirst := h.first
      simp only [hqueue, List.cons_append, List.tail_cons, List.mem_append, List.mem_singleton] at hx
      rcases hx with hx | rfl
      · exact hfirst x (by simp [hqueue, hx])
      · simp
  free := by
    intro x hx hwoken
    rcases List.mem_append.mp hx with hx | hx
    · exact h.free x hx hwoken
    · rw [List.mem_singleton.mp hx] at hwoken
      cases hwoken

theorem cancel (h : l.Fifo) : (l.cancel t).Fifo where
  first := by
    intro x hx
    unfold Lease.cancel at hx
    rw [← List.map_tail] at hx
    obtain ⟨y, hy, rfl⟩ := List.mem_map.mp hx
    split
    · simp
    · exact h.first y hy
  free := by
    intro x hx hwoken
    rcases l.mem_cancel hx with ⟨hx, -⟩ | ⟨rfl, -⟩
    · exact h.free x hx hwoken
    · cases hwoken

/-- Whoever finds the lease open takes it. -/
theorem take (hopen : l.isOpen = true) (h : l.Fifo) : l.take.Fifo where
  first := h.first
  free := by
    intro x hx hwoken
    have hall : ∀ y ∈ l.queue, y.2 = .cancelled := by
      simpa using (Bool.and_eq_true_iff.mp hopen).2
    rw [hall x hx] at hwoken
    cases hwoken

/-- A waiter that has been woken is the first in the queue, and takes the lease. -/
theorem head_of_woken (h : l.Fifo) (hwoken : (t, .woken) ∈ l.queue) :
    l.queue.head? = some (t, .woken) := by
  cases hqueue : l.queue with
  | nil => simp [hqueue] at hwoken
  | cons y ys =>
    rw [hqueue] at hwoken
    rcases List.mem_cons.mp hwoken with hy | hy
    · rw [hy]
      rfl
    · exact absurd rfl (h.first (t, .woken) (by simpa [hqueue] using hy))

theorem grant (h : l.Fifo) (hwoken : (t, .woken) ∈ l.queue) : ((l.dequeue t).take).Fifo where
  first := h.dequeue.first
  free := by
    intro x hx hxwoken
    have hmem := l.mem_dequeue.mp hx
    have hhead := h.head_of_woken hwoken
    have hhead' := h.head_of_woken (t := x.1) (by rw [← hxwoken]; exact hmem.1)
    rw [hhead] at hhead'
    exact absurd (congrArg Prod.fst (Option.some.inj hhead')).symm hmem.2

end Fifo

/-! ## Who waits -/

/-- Those who wait for the lease and have not been cancelled in their turn, in order. -/
def waiting (l : Lease) : List TaskId :=
  (l.queue.filter (·.2 ≠ .cancelled)).map Prod.fst

theorem waiting_sublist {l l' : Lease} (h : l'.queue.Sublist l.queue) :
    l'.waiting.Sublist l.waiting :=
  (h.filter _).map _

theorem wake_waiting : l.wake.2.waiting = l.waiting := by
  rcases l.wake_cases with ⟨hwake, -⟩ | ⟨u, rest, hqueue, hwake⟩
  · rw [hwake]
  · rw [hwake, waiting, waiting, hqueue]
    rfl

theorem abandon_waiting : (l.abandon t).2.waiting.Sublist l.waiting := by
  have hdequeue : (l.dequeue t).waiting.Sublist l.waiting := waiting_sublist List.filter_sublist
  unfold abandon
  split
  · exact hdequeue
  · rw [wake_waiting]
    exact hdequeue

theorem cancel_waiting : (l.cancel t).waiting.Sublist l.waiting := by
  unfold waiting cancel
  induction l.queue with
  | nil => exact .slnil
  | cons x xs ih =>
    rw [List.map_cons]
    by_cases hx : x = (t, .pending)
    · subst hx
      rw [if_pos rfl]
      exact ih.cons t
    · rw [if_neg hx]
      by_cases hcancelled : x.2 = .cancelled
      · simpa [List.filter_cons, hcancelled] using ih
      · simpa [List.filter_cons, hcancelled] using ih

theorem enqueue_waiting : (l.enqueue t).waiting = l.waiting ++ [t] := by
  simp [waiting, enqueue]

theorem waiting_of_isOpen {l : Lease} (hopen : l.isOpen = true) : l.waiting = [] := by
  have hall : ∀ y ∈ l.queue, y.2 = .cancelled := by
    simpa using (Bool.and_eq_true_iff.mp hopen).2
  simp only [waiting, List.map_eq_nil_iff, List.filter_eq_nil_iff]
  intro x hx
  simp [hall x hx]

/-- Whoever is granted the lease was the first to wait. -/
theorem Fifo.waiting_grant {l : Lease} {t : TaskId} (h : l.Fifo) (hwoken : (t, .woken) ∈ l.queue) :
    (t :: (l.dequeue t).waiting).Sublist l.waiting := by
  obtain ⟨rest, hqueue⟩ := List.head?_eq_some_iff.mp (h.head_of_woken hwoken)
  have hrest : ((l.dequeue t).queue).Sublist rest := by
    rw [Lease.dequeue, hqueue, List.filter_cons_of_neg (by simp)]
    exact List.filter_sublist
  have hwaiting : l.waiting = t :: (⟨l.held, rest⟩ : Lease).waiting := by
    simp [waiting, hqueue]
  have hleft : ((l.dequeue t).waiting).Sublist (⟨l.held, rest⟩ : Lease).waiting :=
    waiting_sublist hrest
  rw [hwaiting]
  exact hleft.cons_cons t

end Lease

end PlotStream
