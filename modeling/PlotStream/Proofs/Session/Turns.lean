import PlotStream.Proofs.Session.Attendance

/-!
# Turns

A tick is the turn of one task, which goes on or finds itself cancelled until it waits or ends
(`Hub.tick_cases`). All that it changes is said by `Hub.Works`, and that it waits or ends is the last
thing that happens. So a turn of another task leaves a task where it is (`Hub.Spares`), and whatever is
done from outside does so too.
-/

namespace PlotStream

/-- The socket that a task attends to at a point, if it is an endpoint. -/
def Point.attended : Point → Option SocketId
  | .fresh (.endpoint s _) | .receiving s | .replying s _ => some s
  | _ => none

theorem Event.ne_ended_of_isInner {e : Event} (h : e.isInner) (t : TaskId) (name : String)
    (outcome : Except Fault TaskResult) : e ≠ .ended t name outcome := by
  rintro rfl
  cases h

/-- How a turn of a task comes to its end. -/
def Progress.last (task : Task) : Progress → Event
  | .waits _ => .paused task.id
  | .ends outcome => .ended task.id task.name outcome

theorem Progress.signer?_last (progress : Progress) (task : Task) :
    (progress.last task).signer? = none := by
  cases progress <;> rfl

/-- Where the tasks are that are alive. -/
def Hub.places (h : Hub) : List (TaskId × Point) :=
  h.tasks.map fun task => (task.id, task.point)

namespace Hub

variable {w : World} {h h' : Hub} {t : TaskId} {task : Task} {rest : List TaskId}

/-! ## What a task does in its turn -/

theorem works_receive (h : Hub) (t : TaskId) (s : SocketId) :
    Works t (some s) h (h.receive t s).2 :=
  (attendsTo_runEndpoint rfl rfl ⟨.nil, by simp⟩ (@Attended.receiving h.world t s [] [] rfl)).1

theorem works_startEndpoint (h : Hub) (t : TaskId) (s : SocketId) (client : Option String) :
    Works t (some s) h (h.startEndpoint t s client).2 := by
  have hconnect : Works t (some s) h (h.connect s client).2 := h.works_connectOn .running s client
  unfold startEndpoint
  split
  · rename_i heq
    exact (hconnect.of_eq heq).trans (works_receive _ t s)
  · rename_i heq
    exact hconnect.of_eq heq

theorem works_startJob (h : Hub) (t : TaskId) (name : String) (job : Job) :
    Works t (Point.fresh job).attended h (h.startJob t name job).2 := by
  cases job with
  | connect s client => exact works_endWith (h.works_connectOn .running s client)
  | disconnect s => exact h.works_disconnect s
  | acquire => exact h.works_requestLease _
  | send connection f => exact h.works_startSend connection f
  | lease script => exact h.works_requestLease _
  | handle text => exact h.works_handle text
  | plot call => exact h.works_startPlot call
  | endpoint s client => exact h.works_startEndpoint t s client

theorem works_goOn (h : Hub) (t : TaskId) (name : String) (p : Point) :
    Works t p.attended h (h.goOn t name p).2 := by
  cases p with
  | fresh job => exact h.works_startJob t name job
  | building call g rest => exact h.works_runBuild call g rest
  | queued purpose => exact (h.works_setLease _).trans (works_afterGrant _ purpose)
  | pausing holder rest => exact h.works_runScript holder rest
  | sending holder f rest => exact h.works_resumeSend holder f rest
  | sendingKept s f => exact works_endWith (h.works_deliverHandedOut false s f)
  | receiving s => exact h.works_receive t s
  | replying s f =>
    have hdeliver : Works t (some s) h (h.deliver t false s f).2 := h.works_deliver false s f
    unfold goOn
    dsimp only
    split
    · rename_i heq
      exact (hdeliver.of_eq heq).trans (works_receive _ t s)
    · rename_i heq
      exact (hdeliver.of_eq heq).trans (works_failEndpoint _ s _)

theorem works_giveUp (h : Hub) (t : TaskId) (p : Point) : Works t p.attended h (h.giveUp t p).2 := by
  cases p with
  | queued purpose => exact h.works_abandonLease t
  | pausing | sending => exact h.works_leave _
  | receiving s => exact h.works_abandonInbox s
  | fresh | building | sendingKept | replying => exact .refl h

/-- What a task comes to in its turn. -/
def turn (h : Hub) (task : Task) (rest : List TaskId) : Progress × Hub :=
  if task.cancelled then (h.picked task rest).giveUp task.id task.point
  else (h.picked task rest).goOn task.id task.name task.point

theorem works_turn (h : Hub) (task : Task) (rest : List TaskId) :
    Works task.id task.point.attended (h.picked task rest) (h.turn task rest).2 := by
  unfold turn
  split
  · exact works_giveUp _ _ _
  · exact works_goOn _ _ _ _

/-- A tick is the turn of the first task that is ready, if it is alive. -/
theorem tick_cases (h : Hub) :
    (∃ task rest, h.ready = task.id :: rest ∧ task ∈ h.tasks ∧
      h.tick = settleTask task (h.turn task rest)) ∨
    ((∀ t, h.ready.head? = some t → ∀ task ∈ h.tasks, task.id ≠ t) ∧
      h.tick = { h with ready := h.ready.tail }) := by
  unfold tick
  cases hready : h.ready with
  | nil =>
    have hsame : h = { h with ready := [] } := by rw [← hready]
    exact .inr ⟨nofun, hsame⟩
  | cons t rest =>
    dsimp only
    cases htask? : ({ h with ready := rest } : Hub).task? t with
    | none =>
      refine .inr ⟨fun u hu task htask hid => ?_, rfl⟩
      obtain rfl : t = u := Option.some.inj hu
      exact List.find?_eq_none.mp htask? task htask (decide_eq_true hid)
    | some task =>
      obtain rfl : task.id = t := by
        unfold task? at htask?
        simpa using List.find?_some htask?
      exact .inl ⟨task, rest, rfl, List.mem_of_find?_eq_some htask?, rfl⟩

/-! ## After a turn -/

theorem events_settleTask (task : Task) (out : Progress × Hub) :
    (settleTask task out).events = out.2.events ++ [out.1.last task] := by
  obtain ⟨progress, h⟩ := out
  cases progress <;> exact events_record _ _

theorem mem_places {p : Point} : (t, p) ∈ h.places ↔ ∃ task ∈ h.tasks, task.id = t ∧ task.point = p := by
  simp [places]

theorem mem_places_of_mem (htask : task ∈ h.tasks) : (task.id, task.point) ∈ h.places :=
  List.mem_map_of_mem htask

theorem places_settleTask (task : Task) (out : Progress × Hub) (u : TaskId) (p : Point) :
    (u, p) ∈ (settleTask task out).places ↔
      (u, p) ∈ out.2.places ∨ u = task.id ∧ out.1.place = .waits p := by
  obtain ⟨progress, h⟩ := out
  cases progress with
  | waits q =>
    have hplaces : (settleTask task (.waits q, h)).places = h.places ++ [(task.id, q)] :=
      List.map_append
    rw [hplaces, List.mem_append, List.mem_singleton, Prod.mk.injEq]
    simp [Progress.place, eq_comm]
  | ends outcome =>
    have hplaces : (settleTask task (.ends outcome, h)).places = h.places := rfl
    rw [hplaces]
    simp [Progress.place]

/-- What else a tick leaves to see. -/
theorem settleTask_keeps (task : Task) (out : Progress × Hub) :
    (settleTask task out).world = out.2.world ∧ (settleTask task out).nextTask = out.2.nextTask ∧
      (settleTask task out).clockReadings = out.2.clockReadings ∧
      (settleTask task out).ready = out.2.ready ∧ (settleTask task out).sockets = out.2.sockets := by
  obtain ⟨progress, h⟩ := out
  cases progress <;> exact ⟨rfl, rfl, rfl, rfl, rfl⟩

/-- Only the task whose turn it is has changed its place. -/
theorem mem_places_turn (h : Hub) (task : Task) (rest : List TaskId) (u : TaskId) (p : Point) :
    (u, p) ∈ (settleTask task (h.turn task rest)).places ↔
      u ≠ task.id ∧ (u, p) ∈ h.places ∨ u = task.id ∧ (h.turn task rest).1.place = .waits p := by
  have hkept : (u, p) ∈ (h.turn task rest).2.places ↔ u ≠ task.id ∧ (u, p) ∈ h.places := by
    have htasks : (h.turn task rest).2.tasks = h.tasks.filter (·.id ≠ task.id) :=
      (h.works_turn task rest).tasks
    rw [mem_places, mem_places, htasks]
    constructor
    · rintro ⟨other, hother, rfl, rfl⟩
      obtain ⟨hother, hne⟩ := List.mem_filter.mp hother
      exact ⟨by simpa using hne, other, hother, rfl, rfl⟩
    · rintro ⟨hne, other, hother, rfl, rfl⟩
      exact ⟨other, List.mem_filter.mpr ⟨hother, by simpa using hne⟩, rfl, rfl⟩
  rw [places_settleTask, hkept]

/-- A turn begins with the going on of the task and ends with its waiting or its end. -/
theorem events_turn (h : Hub) (task : Task) (rest : List TaskId) :
    ∃ es, (settleTask task (h.turn task rest)).events =
        h.events ++ .resumed task.id :: (es ++ [(h.turn task rest).1.last task]) ∧
      (h.turn task rest).2.events = h.events ++ .resumed task.id :: es ∧
      ∀ e ∈ es, e.IsOf task.id := by
  obtain ⟨es, hes, hof⟩ := (h.works_turn task rest).events
  have hturn : (h.turn task rest).2.events = h.events ++ .resumed task.id :: es := by
    rw [hes, picked, events_record, List.append_assoc]
    rfl
  refine ⟨es, ?_, hturn, hof⟩
  rw [events_settleTask, hturn, List.append_assoc, List.cons_append]

/-! ## Tasks that are left alone -/

/-- From one state to another a task has been left where it is, and has done nothing. -/
structure Spares (t : TaskId) (h h' : Hub) : Prop where
  world : h'.world = h.world
  next : t < h'.nextTask ↔ t < h.nextTask
  clock : h.clockReadings ≤ h'.clockReadings
  places : ∀ p, (t, p) ∈ h'.places ↔ (t, p) ∈ h.places
  events : ∃ es, h'.events = h.events ++ es ∧
    ∀ e ∈ es, e.signer? ≠ some t ∧ ∀ name outcome, e ≠ .ended t name outcome

namespace Spares

/-- A task that has been left alone has put its name to nothing. -/
theorem signedBy (e : Spares t h h') :
    PlotStream.signedBy t h'.events = PlotStream.signedBy t h.events := by
  obtain ⟨es, hes, hquiet⟩ := e.events
  rw [hes]
  exact signedBy_append_of_quiet fun e he => (hquiet e he).1

theorem of_works {u : TaskId} {s? : Option SocketId} (hne : u ≠ t) (e : Works u s? h h') :
    Spares t h h' where
  world := e.world
  next := by rw [e.next]
  clock := e.clock
  places p := by rw [Hub.places, Hub.places, e.tasks]
  events := by
    obtain ⟨es, hes, hof⟩ := e.events
    exact ⟨es, hes, fun e he => ⟨fun hsigner => hne ((hof e he).2 t hsigner).symm,
      Event.ne_ended_of_isInner (hof e he).1 t⟩⟩

/-- Nothing happens, and everyone stays where they are. -/
theorem of_same (hworld : h'.world = h.world) (hnext : h'.nextTask = h.nextTask)
    (hclock : h'.clockReadings = h.clockReadings) (hplaces : h'.places = h.places)
    (hhistory : h'.history = h.history) : Spares t h h' where
  world := hworld
  next := by rw [hnext]
  clock := hclock.ge
  places p := by rw [hplaces]
  events := ⟨[], by rw [List.append_nil, Hub.events, hhistory, Hub.events], by simp⟩

theorem turn (hne : task.id ≠ t) (rest : List TaskId) :
    Spares t h (settleTask task (h.turn task rest)) := by
  have hworks := h.works_turn task rest
  obtain ⟨hworld, hnext, hclock, -, -⟩ := settleTask_keeps task (h.turn task rest)
  obtain ⟨es, hes, -, hof⟩ := h.events_turn task rest
  refine ⟨hworld.trans hworks.world, ?_, ?_, fun p => ?_, _, hes, ?_⟩
  · rw [hnext, hworks.next]
    rfl
  · rw [hclock]
    exact hworks.clock
  · rw [mem_places_turn]
    simp [hne.symm]
  · intro e he
    rcases List.mem_cons.mp he with rfl | he
    · exact ⟨nofun, nofun⟩
    rcases List.mem_append.mp he with he | he
    · exact ⟨fun hsigner => hne ((hof e he).2 t hsigner).symm,
        Event.ne_ended_of_isInner (hof e he).1 t⟩
    · rw [List.mem_singleton.mp he]
      cases (h.turn task rest).1 with
      | waits p => exact ⟨nofun, nofun⟩
      | ends outcome =>
        refine ⟨nofun, fun name outcome' hended => ?_⟩
        cases hended
        exact hne rfl

end Spares

/-- A task that is started is fresh. -/
theorem start_keeps (h : Hub) (s : Start) :
    (h.start s).places = h.places ++ [(h.nextTask, .fresh s.job)] ∧
      (h.start s).nextTask = h.nextTask + 1 ∧ (h.start s).world = h.world ∧
      (h.start s).clockReadings = h.clockReadings ∧ (h.start s).sockets = h.sockets ∧
      (h.start s).ready = h.ready ++ [h.nextTask] ∧
      ∃ es, (h.start s).events = h.events ++ .started h.nextTask s.name s.job :: es ∧
        ∀ e ∈ es, e.isInner ∧ e.signer? = none := by
  let entered : Hub := { h with
    nextTask := h.nextTask + 1
    tasks := h.tasks ++ [Task.mk h.nextTask s.name (.fresh s.job) false]
    ready := h.ready ++ [h.nextTask]
    names := (s.name, h.nextTask) :: h.names }
  let started := entered.record (.started h.nextTask s.name s.job)
  have hplaces : started.places = h.places ++ [(h.nextTask, .fresh s.job)] := List.map_append
  have hevents : started.events = h.events ++ [.started h.nextTask s.name s.job] :=
    events_record entered _
  have hstart : h.start s = if s.refused then (started.askGate h.nextTask .cancel).2 else started :=
    rfl
  rw [hstart]
  split
  · refine ⟨hplaces, rfl, rfl, rfl, rfl, rfl,
      [.gateAnswered h.nextTask .cancel (started.askGate h.nextTask .cancel).1], ?_, ?_⟩
    · rw [(started.emits_askGate h.nextTask .cancel).events, hevents, List.append_assoc]
      rfl
    · simp [Event.isInner, Event.signer?]
  · exact ⟨hplaces, rfl, rfl, rfl, rfl, rfl, [], hevents, by simp⟩

theorem Spares.start (hne : h.nextTask ≠ t) (s : Start) : Spares t h (h.start s) := by
  obtain ⟨hplaces, hnext, hworld, hclock, -, -, es, hevents, hes⟩ := h.start_keeps s
  refine ⟨hworld, ?_, hclock.ge, fun p => ?_, _, hevents, ?_⟩
  · rw [hnext]
    exact ⟨fun hlt => Nat.lt_of_le_of_ne (Nat.le_of_lt_succ hlt) hne.symm, Nat.lt_succ_of_lt⟩
  · rw [hplaces, List.mem_append, List.mem_singleton, Prod.mk.injEq]
    simp [hne.symm]
  · intro e he
    rcases List.mem_cons.mp he with rfl | he
    · exact ⟨nofun, nofun⟩
    · obtain ⟨hinner, hsigner⟩ := hes e he
      exact ⟨by simp [hsigner], Event.ne_ended_of_isInner hinner t⟩

/-- Cancelling a task leaves everyone where they are. -/
theorem cancelTask_keeps (h : Hub) (u : TaskId) :
    (h.cancelTask u).2.places = h.places ∧ h.ready ⊆ (h.cancelTask u).2.ready ∧
      (h.cancelTask u).2.sockets = h.sockets ∧ (h.cancelTask u).2.world = h.world ∧
      (h.cancelTask u).2.nextTask = h.nextTask ∧
      (h.cancelTask u).2.clockReadings = h.clockReadings ∧
      (h.cancelTask u).2.history = h.history := by
  have hmap : (h.tasks.map fun task => if task.id = u then { task with cancelled := true } else task).map
      (fun task => (task.id, task.point)) = h.places := by
    rw [List.map_map]
    refine List.map_congr_left fun task _ => ?_
    dsimp only [Function.comp]
    split <;> rfl
  unfold cancelTask
  split
  · exact ⟨rfl, List.Subset.refl _, rfl, rfl, rfl, rfl, rfl⟩
  · dsimp only
    split
    · exact ⟨hmap, List.Subset.refl _, rfl, rfl, rfl, rfl, rfl⟩
    · exact ⟨hmap, List.subset_append_left _ _, rfl, rfl, rfl, rfl, rfl⟩

/-- What comes in on a socket wakes the first of those who read there, and leaves everyone where they
are. -/
theorem comeIn_keeps (h : Hub) (s : SocketId) (item : Incoming) :
    (h.comeIn s item).places = h.places ∧
      (h.comeIn s item).ready = h.ready ++ (h.socket s).readers.head?.toList ∧
      (∀ s', (h.comeIn s item).socket s' = if s' = s then
        { h.socket s with
          inbox := (h.socket s).inbox ++ [item], readers := (h.socket s).readers.drop 1 }
        else h.socket s') ∧
      (h.comeIn s item).world = h.world ∧ (h.comeIn s item).nextTask = h.nextTask ∧
      (h.comeIn s item).clockReadings = h.clockReadings ∧ (h.comeIn s item).history = h.history := by
  simp only [← socket_setSocket]
  unfold comeIn
  dsimp only
  cases (h.socket s).readers.head? with
  | none => exact ⟨rfl, (List.append_nil _).symm, fun _ => rfl, rfl, rfl, rfl, rfl⟩
  | some u => exact ⟨rfl, rfl, fun _ => rfl, rfl, rfl, rfl, rfl⟩

/-- What else is done from outside changes no more than a task without a socket might. -/
theorem works_move (h : Hub) (t : TaskId) {m : Move} (htick : m ≠ .tick) (hstart : ∀ s, m ≠ .start s)
    (hcancel : ∀ u, m ≠ .cancel u) (hcome : ∀ s item, m ≠ .comeIn s item) :
    Works t none h (h.move m) := by
  cases m with
  | tick => exact absurd rfl htick
  | start s => exact absurd rfl (hstart s)
  | cancel u => exact absurd rfl (hcancel u)
  | comeIn s item => exact absurd rfl (hcome s item)
  | openGate g =>
    exact .of_same rfl rfl rfl (Nat.le_refl _) (List.subset_append_left _ _) rfl rfl
  | cancelGate u => exact h.works_askGate u .cancel
  | release => exact h.works_releaseLease
  | connectElsewhere s client => exact h.works_connectOn .closed s client

/-- A move leaves a task alone unless it is the turn of the task or starts it. -/
theorem spares_move (m : Move)
    (hturn : m = .tick → h.ready.head? = some t → ∀ task ∈ h.tasks, task.id ≠ t)
    (hstart : ∀ s, m = .start s → h.nextTask ≠ t) : Spares t h (h.move m) := by
  cases m with
  | tick =>
    rw [move]
    rcases h.tick_cases with ⟨task, rest, hready, htask, htick⟩ | ⟨-, htick⟩
    · rw [htick]
      refine .turn (fun hid => ?_) rest
      exact hturn rfl (by rw [hready, hid]; rfl) task htask hid
    · rw [htick]
      exact .of_same rfl rfl rfl rfl rfl
  | start s => exact .start (hstart s rfl) s
  | cancel u =>
    obtain ⟨hplaces, -, -, hworld, hnext, hclock, hhistory⟩ := h.cancelTask_keeps u
    exact .of_same hworld hnext hclock hplaces hhistory
  | comeIn s item =>
    obtain ⟨hplaces, -, -, hworld, hnext, hclock, hhistory⟩ := h.comeIn_keeps s item
    exact .of_same hworld hnext hclock hplaces hhistory
  | openGate | cancelGate | release | connectElsewhere =>
    -- any other task might have done it
    exact .of_works (Nat.succ_ne_self t) (h.works_move (t + 1) nofun nofun nofun nofun)

end Hub

end PlotStream
