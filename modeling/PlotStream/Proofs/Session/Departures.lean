import PlotStream.Proofs.Session.KeepAlives

/-!
# The end of an endpoint

An endpoint that stops by itself has given up its socket just before, so that the session is not over
it, while a session over another socket is left as it was. An endpoint that is cancelled gives nothing
up and leaves the session as it is, also when it is over its socket (`session_after_endpoint`).

Of a history alone one sees that a task has ended, but not the state in which it has. Every end belongs
to one turn of the run (`Hub.exists_turn_of_ended`), which the state before it decides.
-/

namespace PlotStream

/-- A task that was started to attend to a socket is on its way to receive from it or to answer. -/
theorem Point.Befits.endpoint {mine : List Event} {s : SocketId} {client : Option String} {p : Point}
    (h : p.Befits mine (.endpoint s client)) :
    p = .fresh (.endpoint s client) ∨ p = .receiving s ∨ ∃ f, p = .replying s f := by
  cases p with
  | fresh job =>
    obtain rfl : job = .endpoint s client := h.1
    exact .inl rfl
  | receiving s' =>
    obtain ⟨client', hjob, -⟩ := h
    cases hjob
    exact .inr (.inl rfl)
  | replying s' f =>
    obtain ⟨client', hjob, -⟩ := h
    cases hjob
    exact .inr (.inr ⟨f, rfl⟩)
  | building => cases h.1
  | queued purpose =>
    cases purpose with
    | keep name => cases h
    | block script => cases h
    | plot g gated =>
      obtain ⟨call, hjob⟩ := h
      cases hjob
  | pausing | sending => rcases h with ⟨script, hjob⟩ | ⟨call, hjob⟩ <;> cases hjob
  | sendingKept =>
    obtain ⟨connection, f, hjob⟩ := h
    cases hjob

namespace Hub

variable {w : World} {h : Hub} {t : TaskId} {name : String} {outcome : Except Fault TaskResult}
  {before after mine : List Event} {s : SocketId} {fault : Fault}

/-! ## The turn in which a task ends -/

/-- The next tick is the turn of a task that ends in it, when some events have happened. -/
def EndsNext (h : Hub) (t : TaskId) (name : String) (outcome : Except Fault TaskResult)
    (before : List Event) : Prop :=
  ∃ task ∈ h.tasks, ∃ rest, task.id = t ∧ task.name = name ∧
    h.tick = settleTask task (h.turn task rest) ∧ (h.turn task rest).1 = .ends outcome ∧
    (h.turn task rest).2.events = before

theorem EndsNext.events_tick (hends : h.EndsNext t name outcome before) :
    h.tick.events = before ++ [.ended t name outcome] := by
  obtain ⟨task, -, rest, rfl, rfl, htick, houtcome, rfl⟩ := hends
  rw [htick, events_settleTask, houtcome]
  rfl

/-- If a task ends in its turn, this is the last that happens in it. -/
theorem endsNext_of_turn {task : Task} {rest : List TaskId} {es more : List Event}
    (htask : task ∈ h.tasks) (htick : h.tick = settleTask task (h.turn task rest))
    (hevents : h.tick.events = h.events ++ es)
    (hsplit : es = more ++ .ended task.id name outcome :: after) :
    h.EndsNext task.id name outcome (h.events ++ more) := by
  obtain ⟨es', hevents', hturn, hof⟩ := h.events_turn task rest
  rw [← htick] at hevents'
  obtain rfl := List.append_cancel_left (hevents.symm.trans hevents')
  -- all but the last event of a turn are inner ones
  have hinner : .ended task.id name outcome ∉ Event.resumed task.id :: es' := by
    rw [List.mem_cons, not_or]
    exact ⟨nofun, fun hended => Event.ne_ended_of_isInner (hof _ hended).1 _ _ _ rfl⟩
  rw [← List.cons_append] at hsplit
  rcases Scene.events_split hsplit with ⟨later, hes'⟩ | ⟨more', rfl, hlast⟩
  · exact absurd (hes' ▸ List.mem_append_right _ (List.mem_cons_self ..)) hinner
  obtain ⟨rfl, hlast⟩ : more' = [] ∧ (h.turn task rest).1.last task = .ended task.id name outcome := by
    cases more' with
    | nil => exact ⟨rfl, (List.cons.inj hlast).1⟩
    | cons e more' => cases more' <;> cases hlast
  rw [List.append_nil]
  cases hprogress : (h.turn task rest).1 with
  | waits p =>
    rw [hprogress] at hlast
    cases hlast
  | ends outcome' =>
    rw [hprogress] at hlast
    cases hlast
    exact ⟨task, htask, rest, rfl, rfl, htick, hprogress, hturn⟩

/-- Only in a turn of its own does a task end. -/
theorem endsNext_of_move {m : Move} {es more : List Event}
    (hevents : (h.move m).events = h.events ++ es)
    (hsplit : es = more ++ .ended t name outcome :: after) :
    m = .tick ∧ h.EndsNext t name outcome (h.events ++ more) := by
  have hmem : .ended t name outcome ∈ es := by simp [hsplit]
  by_cases hstart : ∃ start, m = .start start
  · obtain ⟨start, rfl⟩ := hstart
    obtain ⟨-, -, -, -, -, -, es', hevents', hes'⟩ := h.start_keeps start
    obtain rfl := List.append_cancel_left (hevents.symm.trans hevents')
    rcases List.mem_cons.mp hmem with hmem | hmem
    · cases hmem
    · cases (hes' _ hmem).1
  by_cases hturn : m = .tick ∧ ∃ task rest, task ∈ h.tasks ∧ task.id = t ∧
      h.tick = settleTask task (h.turn task rest)
  · obtain ⟨rfl, task, rest, htask, rfl, htick⟩ := hturn
    exact ⟨rfl, endsNext_of_turn htask htick hevents hsplit⟩
  · have hspares : Spares t h (h.move m) := by
      refine spares_move m (fun hm hhead task htask hid => ?_) fun start hm =>
        absurd ⟨start, hm⟩ hstart
      rcases h.tick_cases with ⟨task', rest, hready, htask', htick⟩ | ⟨hdead, -⟩
      · rw [hready] at hhead
        exact hturn ⟨hm, task', rest, htask', Option.some.inj hhead, htick⟩
      · exact hdead t hhead task htask hid
    obtain ⟨es', hevents', hquiet⟩ := hspares.events
    obtain rfl := List.append_cancel_left (hevents.symm.trans hevents')
    exact absurd rfl ((hquiet _ hmem).2 name outcome)

/-- What has happened in the beginning of a run has happened in the run. -/
theorem events_subset_run (h : Hub) (first later : List Move) :
    (h.run first).events ⊆ (h.run (first ++ later)).events := by
  obtain ⟨es, hes⟩ := (h.run first).events_append_run later
  have hrun : h.run (first ++ later) = (h.run first).run later := List.foldl_append
  rw [hrun, hes]
  exact List.subset_append_left _ _

/-- A task that ends in a run ends in one of its turns. -/
theorem exists_turn_of_ended {moves : List Move}
    (hsplit : (h.run moves).events = before ++ .ended t name outcome :: after) :
    (∃ more, h.events = before ++ .ended t name outcome :: more) ∨
      ∃ first later, moves = first ++ .tick :: later ∧ (h.run first).EndsNext t name outcome before := by
  induction moves generalizing h with
  | nil => exact .inl ⟨after, hsplit⟩
  | cons m moves ih =>
    rcases ih hsplit with ⟨more, hmore⟩ | ⟨first, later, rfl, hends⟩
    · obtain ⟨es, hes⟩ := h.events_append_run [m]
      have hmove : (h.move m).events = h.events ++ es := hes
      rcases Scene.events_split (hmove.symm.trans hmore) with hbefore | ⟨more', rfl, hes'⟩
      · exact .inl hbefore
      · obtain ⟨rfl, hends⟩ := endsNext_of_move hmove hes'
        exact .inr ⟨[], moves, rfl, hends⟩
    · exact .inr ⟨m :: first, later, rfl, hends⟩

/-! ## How an endpoint ends -/

theorem failEndpoint_ne_error (h : Hub) (s : SocketId) (reason : Fault) :
    (h.failEndpoint s reason).1 ≠ .ends (.error fault) := by
  simp [failEndpoint]

/-- An endpoint never fails by itself: whatever is wrong with its socket, it ends with nothing to
tell. -/
theorem runEndpoint_ne_error (h : Hub) (t : TaskId) (s : SocketId) (items : List Incoming) :
    (h.runEndpoint t s items).1 ≠ .ends (.error fault) := by
  induction items generalizing h with
  | nil => simp [runEndpoint, awaitIncoming]
  | cons item rest ih =>
    cases item with
    | closed => simp [runEndpoint]
    | failed => exact failEndpoint_ne_error _ s _
    | text text =>
      rw [runEndpoint]
      split
      · exact ih _
      · exact failEndpoint_ne_error _ s _
      · split
        · simp
        · split
          · exact ih _
          · exact failEndpoint_ne_error _ s _

/-- A task that was started to attend to a socket fails by itself only if it is refused the socket. -/
theorem goOn_ne_error {p : Point} {client : Option String}
    (hbefits : p.Befits mine (.endpoint s client)) :
    Refused s h (h.goOn t name p).2 ∨ (h.goOn t name p).1 ≠ .ends (.error fault) := by
  rcases hbefits.endpoint with rfl | rfl | ⟨f, rfl⟩
  · rw [goOn, startJob, startEndpoint]
    rcases h.connectOn_cases .running s client with
      ⟨fault, h', -, hconnect, hrefused⟩ | ⟨-, now, h', hconnect, -⟩
    · have hconnect' : h.connect s client = (.error fault, h') := hconnect
      rw [hconnect']
      exact .inl ⟨fault, hrefused.events⟩
    · have hconnect' : h.connect s client = (.ok (), h') := hconnect
      rw [hconnect']
      exact .inr (runEndpoint_ne_error h' t s _)
  · exact .inr (runEndpoint_ne_error h t s _)
  · refine .inr ?_
    rw [goOn]
    split
    · exact runEndpoint_ne_error _ t s _
    · exact failEndpoint_ne_error _ s _

/-- An endpoint that finds itself cancelled does nothing about it. -/
theorem events_giveUp {p : Point} {client : Option String} (h : Hub) (t : TaskId)
    (hbefits : p.Befits mine (.endpoint s client)) : (h.giveUp t p).2.events = h.events := by
  rcases hbefits.endpoint with rfl | rfl | ⟨f, rfl⟩
  · rfl
  · exact (h.abandonInbox_keeps t s).2
  · rfl

/-- If an endpoint that was not refused its socket ends with a fault, nothing has happened in its last
turn. -/
theorem EndsNext.events_of_error {client : Option String}
    (hends : h.EndsNext t name (.error fault) before)
    (hserved : ∀ fault, .refused s fault ∉ own t h.tick.events) (inv : (h.scene none).Accounted w)
    (hjob : ∀ name job, .started t name job ∈ h.events → job = .endpoint s client) :
    before = h.events ++ [.resumed t] := by
  obtain ⟨task, htask, rest, rfl, rfl, htick, houtcome, rfl⟩ := hends
  obtain ⟨job, hstarted, hbefits⟩ := inv.waits task htask
  obtain rfl := hjob _ _ hstarted
  have hpicked : (h.picked task rest).events = h.events ++ [.resumed task.id] := events_record _ _
  have hserved' : ¬ Refused s (h.picked task rest) (h.turn task rest).2 := fun hrefused => by
    obtain ⟨fault, hrefused⟩ := hrefused.own htick
    exact hserved fault hrefused
  unfold turn at houtcome hserved' ⊢
  split at houtcome
  · rename_i hcancelled
    rw [if_pos hcancelled, events_giveUp _ _ hbefits, hpicked]
  · rename_i hwell
    rw [if_neg hwell] at hserved'
    exact absurd houtcome ((goOn_ne_error hbefits).resolve_left hserved')

end Hub

/-- Giving up a socket leaves the session over any other one as it is. -/
theorem sessionAfter_dropped_iff {earlier : List Event} {s : SocketId} {records : List LogRecord}
    {c : Connection} :
    sessionAfter (earlier ++ .dropped s :: records.map .logged) = some c ↔
      sessionAfter earlier = some c ∧ c.socket ≠ s := by
  have hlost : .dropped c.socket ∉ Event.dropped s :: records.map Event.logged ↔ c.socket ≠ s := by
    simp
  rw [sessionAfter_append, sessionFrom_of_unconnected (by simp), hlost]

/-- What an endpoint leaves behind. The state of the session in which an endpoint that was not refused
its socket has ended, in whatever way, is the one after some tick of the run. Either the endpoint
ended by itself and with nothing to tell: then it has given up its socket just before, the session is
not over that, and a connection over any other socket is current if it was before, with its client and
its time. Or the endpoint was cancelled: then nothing has happened in this tick, and the session is as
it was. -/
theorem session_after_endpoint (w : World) (moves : List Move) {t : TaskId} {name name' : String}
    {s : SocketId} {client : Option String} {outcome : Except Fault TaskResult}
    {before after : List Event}
    (hserved : ∀ fault, .refused s fault ∉ own t ((Hub.initial w).run moves).events)
    (hstarted : .started t name (.endpoint s client) ∈ ((Hub.initial w).run moves).events)
    (hended : ((Hub.initial w).run moves).events = before ++ .ended t name' outcome :: after) :
    ∃ first later, moves = first ++ .tick :: later ∧
      let h := (Hub.initial w).run first
      let h' := (Hub.initial w).run (first ++ [.tick])
      h'.events = before ++ [.ended t name' outcome] ∧
      ((outcome = .ok .nothing ∧ (∀ c, h'.current = some c → c.socket ≠ s) ∧
          ∃ earlier, ∃ records : List LogRecord, before = earlier ++ .dropped s :: records.map .logged ∧
            ∀ c, c.socket ≠ s → (h'.current = some c ↔ sessionAfter earlier = some c)) ∨
        (outcome = .error .cancelled ∧ before = h.events ++ [.resumed t] ∧
          h'.current = h.current)) := by
  obtain ⟨first, later, rfl, hends⟩ : ∃ first later, moves = first ++ .tick :: later ∧
      ((Hub.initial w).run first).EndsNext t name' outcome before := by
    refine (Hub.exists_turn_of_ended hended).resolve_left ?_
    rintro ⟨more, hmore⟩
    cases before <;> cases hmore
  refine ⟨first, later, rfl, ?_⟩
  intro h h'
  have hbegin : (Hub.initial w).Tracks w := ⟨rfl, rfl⟩
  obtain ⟨-, hfinal⟩ := Hub.accounted_run hbegin .initial (first ++ .tick :: later)
  obtain ⟨htracks, inv⟩ := Hub.accounted_run hbegin .initial first
  obtain ⟨htracks', -⟩ := Hub.accounted_run hbegin .initial (first ++ [.tick])
  have htick : h' = h.tick := List.foldl_append
  have hevents : h'.events = before ++ [.ended t name' outcome] := htick ▸ hends.events_tick
  have hcurrent : h'.current = sessionAfter before := by
    have hsession : h'.current = sessionAfter h'.events := htracks'.session
    rw [hsession, hevents, sessionAfter, sessionFrom_append_singleton]
    rfl
  refine ⟨hevents, ?_⟩
  obtain ⟨job, hstarted', hconcludes⟩ := hfinal.events _ _ _ hended
  obtain ⟨-, rfl⟩ := hfinal.once t _ _ _ _ hstarted (hended ▸ List.mem_append_left _ hstarted')
  have hserved' (fault : Fault) : .refused s fault ∉ own t h'.events := fun hrefused => by
    have hlater : ((Hub.initial w).run (first ++ .tick :: later)).events = h'.events ++ after := by
      rw [hended, hevents, List.append_assoc, List.singleton_append]
    exact hserved fault (hlater ▸ own_subset_append t _ _ hrefused)
  rcases hconcludes with ⟨rfl, earlier, records, rfl⟩ | hcancelled | ⟨fault, hrefused, -⟩
  · refine .inl ⟨rfl, fun c hc => ?_, earlier, records, rfl, fun c hother => ?_⟩
    · rw [hcurrent, sessionAfter_dropped_iff] at hc
      exact hc.2
    · rw [hcurrent, sessionAfter_dropped_iff]
      exact and_iff_left hother
  · subst hcancelled
    have hjob (name'' : String) (job : Job) (hbegun : .started t name'' job ∈ h.events) :
        job = .endpoint s client :=
      (hfinal.once t _ _ _ _ (Hub.events_subset_run _ first _ hbegun) hstarted).2
    have hbefore : before = h.events ++ [.resumed t] :=
      hends.events_of_error (htick ▸ hserved') inv hjob
    refine .inr ⟨rfl, hbefore, ?_⟩
    have hsession : h.current = sessionAfter h.events := htracks.session
    rw [hcurrent, hbefore, hsession, sessionAfter, sessionFrom_append_singleton]
    rfl
  · exact absurd (hevents ▸ own_subset_append t before _ hrefused) (hserved' fault)

theorem session_after_endpoint_stale :
    let es := ((Hub.initial World.timed).run staleTab).events
    ((∀ fault, .refused "a" fault ∉ own 0 es) ∧
      .started 0 "first" (.endpoint "a" (some "ann")) ∈ es) ∧
    ∃ before after, es = before ++ .ended 0 "first" (.ok .nothing) :: after ∧
      ∃ first later, staleTab = first ++ .tick :: later ∧
        ((Hub.initial World.timed).run (first ++ [.tick])).events =
          before ++ [.ended 0 "first" (.ok .nothing)] ∧
        ∀ c, ((Hub.initial World.timed).run (first ++ [.tick])).current = some c → c.socket ≠ "a" := by
  intro es
  have hserved : ∀ fault, .refused "a" fault ∉ own 0 es := not_refused (by decide +kernel) "a"
  have hstarted : .started 0 "first" (.endpoint "a" (some "ann")) ∈ es :=
    Hub.started_first World.timed ⟨"first", .endpoint "a" (some "ann"), false⟩ _
  have hended : .ended 0 "first" (.ok .nothing) ∈ es := mem_of_any_endsIn (by decide +kernel)
  obtain ⟨before, after, hsplit⟩ := List.append_of_mem hended
  obtain ⟨first, later, hmoves, hevents, ⟨-, hlost, -⟩ | ⟨hcancelled, -⟩⟩ :=
    session_after_endpoint World.timed staleTab hserved hstarted hsplit
  · exact ⟨⟨hserved, hstarted⟩, before, after, hsplit, first, later, hmoves, hevents, hlost⟩
  · cases hcancelled

/-- A browser connects, and its endpoint is cancelled while it waits for something to come in. -/
def cancelledTab : List Move :=
  [.start ⟨"tab", .endpoint "s" none, false⟩, .tick, .cancel 0, .tick]

/-- When the endpoint of the current connection is cancelled, the session stays over a socket that
nobody attends to any more. -/
theorem session_kept_by_cancelled_endpoint :
    let h := (Hub.initial World.ideal).run cancelledTab
    (∀ n, (World.ideal.plan "s").refusal n = none) ∧
    .started 0 "tab" (.endpoint "s" none) ∈ h.events ∧
    (∃ before, h.events = before ++ [.ended 0 "tab" (.error .cancelled)]) ∧ h.tasks.length = 0 ∧
    h.current = some ⟨"s", none, ""⟩ ∧ h.isActive = true ∧ h.connection = .ok "s" := by
  intro h
  have hlast : h.history = .ended 0 "tab" (.error .cancelled) :: h.history.tail := rfl
  have hevents : h.events = h.history.tail.reverse ++ [.ended 0 "tab" (.error .cancelled)] := by
    rw [Hub.events, hlast, List.reverse_cons]
    rfl
  refine ⟨fun _ => rfl, ?_, ⟨_, hevents⟩, ?_, ?_, ?_, rfl⟩
  · exact Hub.started_first World.ideal ⟨"tab", .endpoint "s" none, false⟩ _
  · decide +kernel
  · decide +kernel
  · decide +kernel

end PlotStream
