import PlotStream.Proofs.Session.Holding

/-!
# Nobody waits for a lease that is free

When no task can go on and the lease is free, nobody waits for it (`Scene.Reachable.none_waits`).
`Scene.Alert` is the invariant: whoever has been woken or cancelled can go on, and while the lease is
free the first in its queue has been woken or cancelled. The one delicate step is joining the queue: a
task does so some steps after it has found the lease closed, and the lease stays closed meanwhile.
-/

namespace PlotStream

namespace Lease

variable {l : Lease} {t : TaskId}

/-- While the lease is free, the first in the queue does not wait for its turn. -/
def Prompt (l : Lease) : Prop :=
  l.held = false → ∀ t, l.queue.head? ≠ some (t, .pending)

theorem prompt_of_held (h : l.held = true) : l.Prompt := by
  intro hfree
  rw [h] at hfree
  cases hfree

theorem prompt_wake (l : Lease) : l.wake.2.Prompt := by
  intro _ t hhead
  rcases l.wake_cases with ⟨hwake, hother⟩ | ⟨u, rest, -, hwake⟩
  · rw [hwake] at hhead
    obtain ⟨rest, hqueue⟩ := List.head?_eq_some_iff.mp hhead
    exact hother t rest hqueue
  · rw [hwake] at hhead
    cases hhead

theorem prompt_passOn (l : Lease) : l.passOn.2.Prompt :=
  prompt_wake _

theorem prompt_abandon (l : Lease) (t : TaskId) : (l.abandon t).2.Prompt := by
  unfold abandon
  split
  · rename_i hheld
    exact prompt_of_held hheld
  · exact prompt_wake _

/-- Whoever joins the queue of a closed lease is behind someone else, or the lease is held. -/
theorem Prompt.enqueue (h : l.Prompt) (hclosed : l.isOpen = false) : (l.enqueue t).Prompt := by
  intro hfree u hhead
  have hfree' : l.held = false := hfree
  cases hqueue : l.queue with
  | nil => simp [isOpen, hfree', hqueue] at hclosed
  | cons x rest =>
    simp only [Lease.enqueue, hqueue, List.cons_append, List.head?_cons] at hhead
    exact h hfree' u (by rw [hqueue, List.head?_cons, hhead])

theorem Prompt.cancel (h : l.Prompt) : (l.cancel t).Prompt := by
  intro hfree u hhead
  simp only [Lease.cancel, List.head?_map, Option.map_eq_some_iff] at hhead
  obtain ⟨x, hx, hxu⟩ := hhead
  split at hxu
  · cases hxu
  · exact h hfree u (hxu ▸ hx)

/-- Whoever has been woken after a turn was passed on had been woken before, or is let go on now. -/
theorem mem_wake_woken (h : (t, .woken) ∈ l.wake.2.queue) :
    (t, .woken) ∈ l.queue ∨ t ∈ l.wake.1.toList := by
  rcases l.mem_wake h with hold | ⟨-, hnew, -⟩
  · exact .inl hold
  · exact .inr (by rw [hnew]; exact List.mem_singleton_self _)

theorem mem_abandon_woken {u : TaskId} (h : (t, .woken) ∈ (l.abandon u).2.queue) :
    t ≠ u ∧ (t, .woken) ∈ l.queue ∨ t ∈ (l.abandon u).1.toList := by
  have hdequeued (h : (t, .woken) ∈ (l.dequeue u).queue) : t ≠ u ∧ (t, .woken) ∈ l.queue :=
    (l.mem_dequeue.mp h).symm
  unfold abandon at h ⊢
  split at h
  · rename_i hheld
    exact .inl (hdequeued h)
  · rename_i hheld
    rw [if_neg hheld]
    exact (mem_wake_woken h).imp_left hdequeued

end Lease

namespace Scene

variable {w : World} {σ σ' : Scene} {task : Task} {stage stage' : Stage} {rest : List TaskId}
  {es : List Event}

/-- Whoever has been woken or cancelled can go on, and the lease is not left free while the first in
its queue waits. -/
structure Alert (σ : Scene) : Prop where
  prompt : σ.lease.Prompt
  woken : ∀ t, (t, .woken) ∈ σ.lease.queue → t ∈ σ.ready
  ill : ∀ task ∈ σ.tasks, task.cancelled = true → task.id ∈ σ.ready
  joins : ∀ task purpose, σ.running = some (task, .halt (.queue purpose)) → σ.lease.isOpen = false

namespace Alert

theorem initial : Scene.initial.Alert where
  prompt := by simp [Lease.Prompt, Scene.initial, Lease.free]
  woken := by simp [Scene.initial, Lease.free]
  ill := by simp [Scene.initial]
  joins := by simp [Scene.initial]

theorem joins_of_stage (hrun : σ.running = some (task, stage))
    (hstage : ∀ purpose, stage ≠ .halt (.queue purpose)) (task' : Task) (purpose : Purpose)
    (hqueue : σ.running = some (task', .halt (.queue purpose))) : σ.lease.isOpen = false := by
  obtain ⟨-, rfl⟩ := Prod.mk.inj (Option.some.inj (hrun.symm.trans hqueue))
  exact absurd rfl (hstage purpose)

theorem joins_of_idle (hidle : σ.running = none) (task : Task) (purpose : Purpose)
    (hqueue : σ.running = some (task, .halt (.queue purpose))) : σ.lease.isOpen = false := by
  rw [hidle] at hqueue
  cases hqueue

/-- Nobody runs, and whoever could go on still can. -/
theorem idle (inv : σ.Alert) (hidle : σ'.running = none) (hprompt : σ'.lease.Prompt)
    (hready : ∀ t ∈ σ.ready, t ∈ σ'.ready)
    (hwoken : ∀ t, (t, .woken) ∈ σ'.lease.queue → (t, .woken) ∈ σ.lease.queue ∨ t ∈ σ'.ready)
    (hill : ∀ task ∈ σ'.tasks, task.cancelled = true → task ∈ σ.tasks ∨ task.id ∈ σ'.ready) :
    σ'.Alert where
  prompt := hprompt
  woken t ht := (hwoken t ht).elim (fun h => hready t (inv.woken t h)) id
  ill task htask hcancelled :=
    (hill task htask hcancelled).elim (fun h => hready _ (inv.ill task h hcancelled)) id
  joins := joins_of_idle hidle

/-- The first task that is ready runs, and has left the queue. -/
theorem picked (inv : σ.Alert) (hready : σ.ready = task.id :: rest)
    (htasks : σ'.tasks = σ.tasks.filter (·.id ≠ task.id)) (hrun : σ'.running = some (task, stage))
    (hstage : ∀ purpose, stage ≠ .halt (.queue purpose)) (hprompt : σ'.lease.Prompt)
    (hready' : ∀ t ∈ rest, t ∈ σ'.ready)
    (hwoken : ∀ t, (t, .woken) ∈ σ'.lease.queue →
      t ≠ task.id ∧ (t, .woken) ∈ σ.lease.queue ∨ t ∈ σ'.ready) : σ'.Alert := by
  have hstill {t : TaskId} (ht : t ∈ σ.ready) (hne : t ≠ task.id) : t ∈ σ'.ready := by
    rw [hready] at ht
    exact hready' t ((List.mem_cons.mp ht).resolve_left hne)
  constructor
  case prompt => exact hprompt
  case woken =>
    intro t ht
    rcases hwoken t ht with ⟨hne, hold⟩ | hnew
    · exact hstill (inv.woken t hold) hne
    · exact hnew
  case ill =>
    intro other hother hcancelled
    rw [htasks] at hother
    obtain ⟨hother, hne⟩ := List.mem_filter.mp hother
    exact hstill (inv.ill other hother hcancelled) (by simpa using hne)
  case joins => exact joins_of_stage hrun hstage

/-- The running task moves on. -/
theorem go (inv : σ.Alert) (hstage : ∀ purpose, stage' ≠ .halt (.queue purpose)) :
    (σ.go task stage' es).Alert :=
  ⟨inv.prompt, inv.woken, inv.ill, joins_of_stage rfl hstage⟩

/-- Someone is woken. -/
theorem grantTo_passOn (inv : σ.Alert)
    (hjoins : ∀ task purpose, σ.running ≠ some (task, .halt (.queue purpose))) :
    (σ.grantTo σ.lease.passOn).Alert where
  prompt := σ.lease.prompt_passOn
  woken t ht := by
    rcases Lease.mem_wake_woken ht with hold | hnew
    · exact List.mem_append_left _ (inv.woken t hold)
    · exact List.mem_append_right _ hnew
  ill task htask hcancelled := List.mem_append_left _ (inv.ill task htask hcancelled)
  joins task purpose hrun := absurd hrun (hjoins task purpose)

/-- The running task comes to wait. -/
theorem put (inv : σ.Alert) {p : Point} (hprompt : σ'.lease.Prompt)
    (htasks : σ'.tasks = σ.tasks ++ [{ task with point := p, cancelled := false }])
    (hready : σ'.ready = σ.ready) (hidle : σ'.running = none)
    (hwoken : ∀ t, (t, .woken) ∈ σ'.lease.queue → (t, .woken) ∈ σ.lease.queue) : σ'.Alert := by
  refine inv.idle hidle hprompt (fun t ht => hready ▸ ht) (fun t ht => .inl (hwoken t ht)) ?_
  intro other hother hcancelled
  rw [htasks] at hother
  rcases List.mem_append.mp hother with hother | hother
  · exact .inl hother
  · rw [List.mem_singleton.mp hother] at hcancelled
    cases hcancelled

theorem cancel (inv : σ.Alert) (hidle : σ.running = none) :
    Alert { σ with
      tasks := σ.tasks.map fun other =>
        if other.id = task.id then { other with cancelled := true } else other
      gates := σ.gates.filter (·.2 ≠ task.id)
      lease := σ.lease.cancel task.id
      ready := if σ.ready.contains task.id then σ.ready else σ.ready ++ [task.id] } := by
  have hready : ∀ t ∈ σ.ready,
      t ∈ if σ.ready.contains task.id then σ.ready else σ.ready ++ [task.id] := by
    intro t ht
    split
    · exact ht
    · exact List.mem_append_left _ ht
  have hself : task.id ∈ if σ.ready.contains task.id then σ.ready else σ.ready ++ [task.id] := by
    split
    · rename_i hcontains
      simpa using hcontains
    · exact List.mem_append_right _ (List.mem_singleton_self _)
  refine inv.idle hidle inv.prompt.cancel hready ?_ ?_
  · intro t ht
    rcases σ.lease.mem_cancel ht with ⟨hold, -⟩ | ⟨hnew, -⟩
    · exact .inl hold
    · cases hnew
  · intro task' htask' _
    obtain ⟨other, hother, rfl⟩ := List.mem_map.mp htask'
    by_cases hid : other.id = task.id
    · simp only [if_pos hid]
      exact .inr (hid ▸ hself)
    · simp only [if_neg hid]
      exact .inl hother

theorem step (inv : σ.Alert) (orderly : σ.Orderly) (hstep : Step w σ σ') : σ'.Alert := by
  have seats := orderly.seats
  have hleft (outcome : Except Fault TaskResult) (purpose : Purpose) :
      Stage.halt (.done outcome) ≠ .halt (.queue purpose) := fun h => by cases h
  -- a task that does not wait for the lease has no place in its queue
  have hnotQueued {task : Task} (htask : task ∈ σ.tasks) (hqueued : task.point.isQueued = false)
      (t : TaskId) (ht : (t, .woken) ∈ σ.lease.queue) : t ≠ task.id := by
    rintro rfl
    exact seats.not_queued htask hqueued _ ht
  cases hstep with
  | outside hidle =>
    exact inv.idle hidle inv.prompt (fun _ h => h) (fun _ h => .inl h) fun _ h _ => .inl h
  | start hidle =>
    refine inv.idle hidle inv.prompt (fun _ h => List.mem_append_left _ h) (fun _ h => .inl h) ?_
    intro other hother hcancelled
    rcases List.mem_append.mp hother with hother | hother
    · exact .inl hother
    · rw [List.mem_singleton.mp hother] at hcancelled
      cases hcancelled
  | openGate hidle | comeIn hidle =>
    exact inv.idle hidle inv.prompt (fun _ h => List.mem_append_left _ h) (fun _ h => .inl h)
      fun _ h _ => .inl h
  | cancel hidle => exact inv.cancel hidle
  | giveBack hidle => exact inv.grantTo_passOn (by simp [hidle])
  | @skip t rest hidle hready hdead =>
    have hrest {u : TaskId} (hu : u ∈ σ.ready) (hne : u ≠ t) : u ∈ rest := by
      rw [hready] at hu
      exact (List.mem_cons.mp hu).resolve_left hne
    refine ⟨inv.prompt, fun u hu => ?_, fun task htask hcancelled => ?_, joins_of_idle hidle⟩
    · obtain ⟨other, hother, hid, -⟩ := seats.queue _ hu
      exact hrest (inv.woken u hu) fun hu => hdead other hother (hid.trans hu)
    · exact hrest (inv.ill task htask hcancelled) (hdead task htask)
  | resume hidle hready htask hwell hqueued =>
    exact inv.picked hready rfl rfl (Point.stage_ne_queue hqueued _ _) inv.prompt (fun _ h => h)
      fun t ht => .inl ⟨hnotQueued htask hqueued t ht, ht⟩
  | grant hidle hready =>
    exact inv.picked hready rfl rfl (Purpose.stage_ne_queue _ _) (Lease.prompt_of_held rfl)
      (fun _ h => h) fun t ht => .inl (σ.lease.mem_dequeue.mp ht).symm
  | giveUp hidle hready htask hill hqueued =>
    exact inv.picked hready rfl rfl (Point.cancelledStage_ne_queue _) inv.prompt (fun _ h => h)
      fun t ht => .inl ⟨hnotQueued htask hqueued t ht, ht⟩
  | giveUpQueue hidle hready =>
    refine inv.picked hready rfl rfl (Point.cancelledStage_ne_queue _) (Lease.prompt_abandon _ _)
      (fun _ h => List.mem_append_left _ h) fun t ht => ?_
    exact (Lease.mem_abandon_woken ht).imp_right (List.mem_append_right _)
  | giveUpReader hidle hready htask hill hpoint =>
    refine inv.picked hready rfl rfl (Point.cancelledStage_ne_queue _) inv.prompt
      (fun _ h => List.mem_append_left _ h) fun t ht => .inl ⟨hnotQueued htask ?_ t ht, ht⟩
    rw [hpoint]
    rfl
  | act hrun hact hasks => exact inv.go (hact.not_queued hasks)
  | take hrun =>
    exact ⟨Lease.prompt_of_held rfl, inv.woken, inv.ill,
      joins_of_stage rfl (Purpose.stage_ne_queue _ _)⟩
  | queue hrun hopen => exact ⟨inv.prompt, inv.woken, inv.ill, fun _ _ _ => hopen⟩
  | @release task stage stage' es hrun hact hreleases =>
    obtain ⟨outcome, rfl⟩ := hact.done_of_releases hreleases
    have hgone : (σ.go task (.halt (.done outcome)) es).Alert := inv.go (hleft _)
    exact hgone.grantTo_passOn (by simp [Scene.go])
  | lost => exact inv.go (hleft _)
  | waitGate => exact inv.put inv.prompt rfl rfl rfl fun _ h => h
  | waitQueue hrun =>
    refine inv.put (inv.prompt.enqueue (inv.joins _ _ hrun)) rfl rfl rfl fun t ht => ?_
    rcases List.mem_append.mp ht with ht | ht
    · exact ht
    · cases List.mem_singleton.mp ht
  | waitReader => exact inv.put inv.prompt rfl rfl rfl fun _ h => h
  | ends => exact inv.idle rfl inv.prompt (fun _ h => h) (fun _ h => .inl h) fun _ h _ => .inl h

end Alert

theorem Reachable.alert (h : Reachable w σ) : σ.Alert := by
  induction h with
  | refl => exact .initial
  | tail hbefore hstep ih => exact ih.step (Reachable.orderly hbefore) hstep

/-- When no task can go on and the lease is free, nobody waits for it. -/
theorem Reachable.none_waits (h : Reachable w σ) (hready : σ.ready = [])
    (hfree : σ.lease.held = false) : ∀ task ∈ σ.tasks, task.point.isQueued = false := by
  have inv := h.alert
  have seats := h.orderly.seats
  have hempty : σ.lease.queue = [] := by
    cases hqueue : σ.lease.queue with
    | nil => rfl
    | cons x rest =>
      obtain ⟨t, waiting⟩ := x
      have hmem : (t, waiting) ∈ σ.lease.queue := by simp [hqueue]
      cases waiting with
      | pending => exact absurd (by rw [hqueue]; rfl) (inv.prompt hfree t)
      | woken =>
        have hgoes := inv.woken t hmem
        rw [hready] at hgoes
        cases hgoes
      | cancelled =>
        obtain ⟨task, htask, -, -, hill⟩ := seats.queue _ hmem
        have hgoes := inv.ill task htask (hill rfl)
        rw [hready] at hgoes
        cases hgoes
  intro task htask
  cases hqueued : task.point.isQueued with
  | false => rfl
  | true =>
    obtain ⟨x, hx⟩ := seats.queued task htask hqueued
    rw [hempty] at hx
    cases hx

end Scene

end PlotStream
