import Mathlib.Data.List.Induction
import PlotStream.Proofs.Session.Congruence
import PlotStream.Proofs.Session.Connections

/-!
# The newest connection

The session is over the connection that was accepted last, as long as its socket has not been lost
since, and over none otherwise (`session_follows_history`). A socket is lost when it is given up, when
a send over a connection handed out by the session fails on it, and when its endpoint ends
(`Event.Loses`).

The state keeps one connection only and follows each event by itself (`Event.follow`). That the last
connection and what came after it decide is `sessionAfter_eq_some_iff`; that the failure of a send and
the end of an endpoint need no event of their own is read off `Accountable`.
-/

namespace PlotStream

/-- A socket is lost with an event, in a history that tells for what each task was started: it is
given up, a send fails that goes over a connection handed out by the session, or an endpoint ends
that attended to it. An endpoint that is refused or cancelled ends with a fault and loses nothing. -/
inductive Event.Loses (es : List Event) (s : SocketId) : Event → Prop
  | givenUp : Loses es s (.dropped s)
  | failedLeased (t : TaskId) : Loses es s (.sendFailed t true s)
  | failedKept {t : TaskId} {name connection : String} {f : Frame}
      (h : .started t name (.send connection f) ∈ es) : Loses es s (.sendFailed t false s)
  | left {t : TaskId} {name : String} {client : Option String}
      (h : .started t name (.endpoint s client) ∈ es) : Loses es s (.ended t name (.ok .nothing))

/-- A connection is the last one that was accepted, over all sockets, and its socket has not been
lost since. -/
def Newest (es : List Event) (c : Connection) : Prop :=
  ∃ before after, es = before ++ .connected c :: after ∧ (∀ new, .connected new ∉ after) ∧
    ∀ e ∈ after, ¬ e.Loses es c.socket

/-! ## Following events -/

theorem Event.follow_eq_some_iff {e : Event} {c : Option Connection} {cur : Connection} :
    e.follow c = some cur ↔
      e = .connected cur ∨ (∀ new, e ≠ .connected new) ∧ e ≠ .dropped cur.socket ∧ c = some cur := by
  cases e with
  | connected new => simp [Event.follow]
  | dropped s =>
    rw [Event.follow, Option.filter_eq_some_iff]
    simp [and_comm, @eq_comm _ s]
  | _ => simp [Event.follow]

theorem sessionFrom_append_singleton (c : Option Connection) (es : List Event) (e : Event) :
    sessionFrom c (es ++ [e]) = e.follow (sessionFrom c es) := by
  simp [sessionFrom]

/-- Without a new connection the session stays as it is until its own socket is given up, and never
goes back to another one. -/
theorem sessionFrom_of_unconnected {es : List Event} (h : ∀ new, .connected new ∉ es)
    (c : Option Connection) (cur : Connection) :
    sessionFrom c es = some cur ↔ c = some cur ∧ .dropped cur.socket ∉ es := by
  induction es generalizing c with
  | nil => simp
  | cons e es ih =>
    have he : ∀ new, e ≠ .connected new := fun new hnew => h new (hnew ▸ List.mem_cons_self ..)
    rw [sessionFrom_cons, ih fun new hnew => h new (List.mem_cons_of_mem _ hnew),
      Event.follow_eq_some_iff, List.mem_cons, not_or]
    constructor
    · rintro ⟨hnew | ⟨-, hdropped, hc⟩, hrest⟩
      · exact absurd hnew (he cur)
      · exact ⟨hc, fun hlost => hdropped hlost.symm, hrest⟩
    · rintro ⟨hc, hdropped, hrest⟩
      exact ⟨.inr ⟨he, fun hlost => hdropped hlost.symm, hc⟩, hrest⟩

/-- The last connection that was accepted is current unless its socket has been given up since. -/
theorem sessionAfter_eq_some_iff {es : List Event} {c : Connection} :
    sessionAfter es = some c ↔ ∃ before after, es = before ++ .connected c :: after ∧
      (∀ new, .connected new ∉ after) ∧ .dropped c.socket ∉ after := by
  constructor
  · induction es using List.reverseRecOn with
    | nil => nofun
    | append_singleton es e ih =>
      rw [sessionAfter, sessionFrom_append_singleton, Event.follow_eq_some_iff]
      rintro (rfl | ⟨hnew, hdropped, hc⟩)
      · exact ⟨es, [], rfl, by simp, by simp⟩
      · obtain ⟨before, after, rfl, hlast, hkept⟩ := ih hc
        refine ⟨before, after ++ [e], by simp, fun new hmem => ?_, fun hmem => ?_⟩
        · rcases List.mem_append.mp hmem with hmem | hmem
          · exact hlast new hmem
          · exact hnew new (List.mem_singleton.mp hmem).symm
        · rcases List.mem_append.mp hmem with hmem | hmem
          · exact hkept hmem
          · exact hdropped (List.mem_singleton.mp hmem).symm
  · rintro ⟨before, after, rfl, hlast, hkept⟩
    rw [sessionAfter_append, sessionFrom_cons]
    exact (sessionFrom_of_unconnected hlast _ c).mpr ⟨rfl, hkept⟩

/-! ## Losing a socket -/

section Loses

variable {w : World} {es before after : List Event} {c : Connection}

/-- Whatever loses the socket of a connection later on, the socket is given up later on. -/
theorem Accountable.dropped_of_loses (h : Accountable w es)
    (honce : StartedOnce es) (hsplit : es = before ++ .connected c :: after) {e : Event}
    (he : e ∈ after) (hloses : e.Loses es c.socket) : .dropped c.socket ∈ after := by
  obtain ⟨more, later, rfl⟩ := List.append_of_mem he
  have haccounted := h (before ++ .connected c :: more) e later (by simp [hsplit])
  cases hloses with
  | givenUp => exact he
  | failedLeased | failedKept =>
    obtain ⟨-, r, rest, rfl⟩ := haccounted
    simp
  | @left t name client hstarted =>
    obtain ⟨job, hstarted', hconcludes⟩ := haccounted
    have hin : .started t name job ∈ es := by
      rw [hsplit, ← List.cons_append, ← List.append_assoc]
      exact List.mem_append_left _ hstarted'
    obtain ⟨-, rfl⟩ := honce t name _ name _ hin hstarted
    obtain ⟨-, rest, records, hrest⟩ : _ ∧ JustDropped c.socket _ :=
      hconcludes.resolve_right (by simp [Excused])
    -- The socket is given up just before the end, and that is not before it was connected.
    rcases Scene.events_split hrest.symm with ⟨more', rfl⟩ | ⟨more', -, hrecords⟩
    · rw [List.append_assoc, List.cons_append] at hrest
      obtain rfl := (List.cons.inj (List.append_cancel_left hrest)).2
      simp
    · have hmem : .connected c ∈ Event.dropped c.socket :: records.map Event.logged := by
        rw [hrecords]
        simp
      simp at hmem

/-- The connection that is current is the newest one. -/
theorem Accountable.newest_iff (h : Accountable w es) (honce : StartedOnce es) :
    Newest es c ↔ sessionAfter es = some c := by
  rw [sessionAfter_eq_some_iff]
  constructor
  · rintro ⟨before, after, hsplit, hlast, hkept⟩
    exact ⟨before, after, hsplit, hlast, fun hdropped => hkept _ hdropped .givenUp⟩
  · rintro ⟨before, after, hsplit, hlast, hkept⟩
    exact ⟨before, after, hsplit, hlast, fun e he hloses =>
      hkept (h.dropped_of_loses honce hsplit he hloses)⟩

/-- Once a connection is current, its socket is given up later on if anything loses it. -/
theorem Accountable.kept_iff {es' later : List Event} (h : Accountable w es')
    (honce : StartedOnce es') (hlater : es' = es ++ later) (hc : sessionAfter es = some c) :
    .dropped c.socket ∉ later ↔ ∀ e ∈ later, ¬ e.Loses es' c.socket := by
  constructor
  · intro hkept e he hloses
    obtain ⟨before, after, rfl, -, hkept'⟩ := sessionAfter_eq_some_iff.mp hc
    have hsplit : es' = before ++ .connected c :: (after ++ later) := by
      rw [hlater, List.append_assoc, List.cons_append]
    have hdropped := h.dropped_of_loses honce hsplit (List.mem_append_right after he) hloses
    exact (List.mem_append.mp hdropped).elim hkept' hkept
  · exact fun hkept hdropped => hkept _ hdropped .givenUp

end Loses

/-! ## Tasks that leave the session alone -/

/-- A task that was started for this and has done `mine` leaves the session as it is: it answers a
text, or acquires the lease, or was refused its socket, or has not connected any. -/
def Job.IsIdle (mine : List Event) : Job → Prop
  | .acquire | .handle _ => True
  | .connect s _ | .endpoint s _ => (∃ fault, .refused s fault ∈ mine) ∨ ∀ c, .connected c ∉ mine
  | _ => False

theorem Job.IsIdle.not_givesUp {job : Job} {mine mine' : List Event} (h : job.IsIdle mine)
    (hnever : ∀ c, .connected c ∉ mine') (s : SocketId) : ¬ job.GivesUp s mine' := by
  intro hjob
  cases job with
  | endpoint =>
    obtain ⟨-, since, hconnected⟩ := hjob
    exact hnever _ hconnected
  | disconnect | plot => exact h
  | _ => exact hjob

theorem Job.IsIdle.not_sends {job : Job} {mine mine' : List Event} (h : job.IsIdle mine)
    (hnever : ∀ c, .connected c ∉ mine') (s : SocketId) (leased : Bool) :
    ¬ job.Sends s leased mine' := by
  intro hjob
  cases job with
  | endpoint =>
    cases leased with
    | true => exact hjob
    | false =>
      obtain ⟨-, since, hconnected⟩ := hjob
      exact hnever _ hconnected
  | lease | plot | send => exact h
  | _ => exact hjob

/-- What is the doing of a task has its moment, when this task runs. -/
theorem exists_of_mem_ownFrom {t : TaskId} {r : Option TaskId} {es : List Event} {e : Event}
    (h : e ∈ ownFrom t r es) :
    ∃ before after, es = before ++ e :: after ∧ e.doer (runnerFrom r before) = some t := by
  induction es generalizing r with
  | nil => cases h
  | cons e' es ih =>
    have hlater (h : e ∈ ownFrom t (e'.runnerAfter r) es) : ∃ before after,
        e' :: es = before ++ e :: after ∧ e.doer (runnerFrom r before) = some t := by
      obtain ⟨before, after, rfl, hdoer⟩ := ih h
      exact ⟨e' :: before, after, rfl, hdoer⟩
    rw [ownFrom] at h
    split at h
    · rename_i hdoer
      rcases List.mem_cons.mp h with rfl | h
      · exact ⟨[], es, rfl, hdoer⟩
      · exact hlater h
    · exact hlater h

/-- What has been the doing of a task stays so. -/
theorem own_subset_append (t : TaskId) (es es' : List Event) : own t es ⊆ own t (es ++ es') := by
  rw [own, own, ownFrom_append]
  exact List.subset_append_left _ _

theorem mem_own_of_doer {t : TaskId} {before after : List Event} {e : Event}
    (hdoer : e.doer (runnerFrom none before) = some t) : e ∈ own t (before ++ e :: after) := by
  rw [own, ownFrom_append, ownFrom, if_pos hdoer]
  exact List.mem_append_right _ (List.mem_cons_self ..)

section Idle

variable {w : World} {es : List Event} (h : Accountable w es) (honce : StartedOnce es) {t : TaskId}
  {name : String} {job : Job} (hstarted : .started t name job ∈ es)

include honce hstarted

/-- What is said of a task by what it was started for is said of the job. -/
theorem DoneBy.of_started {before : List Event} {p : List Event → Job → Prop} {u : TaskId}
    (hdone : DoneBy p u before) (hbefore : before ⊆ es) (hu : u = t) : p (own t before) job := by
  subst hu
  obtain ⟨-, name', job', hstarted', hp⟩ := hdone
  obtain ⟨-, rfl⟩ := honce u name job name' job' hstarted (hbefore hstarted')
  exact hp

include h

/-- Before its attempt to connect a socket, a task that tries only once has not tried. -/
theorem Accountable.untried (hjob : ∀ s client mine, job.Connects s client mine → Untried mine)
    {before after : List Event} {e : Event} (hsplit : es = before ++ e :: after)
    (hattempt : e.isAttempt = true) (hdoer : e.doer (runnerFrom none before) = some t) :
    Untried (own t before) := by
  have haccounted := h before e after hsplit
  have hsubset : before ⊆ es := hsplit ▸ List.subset_append_left _ _
  cases e with
  | connected new =>
    obtain ⟨-, hnone | ⟨u, hdone⟩⟩ := haccounted
    · cases hnone.symm.trans hdoer
    · have hu : u = t := Option.some.inj (hdone.1.symm.trans hdoer)
      exact hjob _ _ _ (hdone.of_started honce hstarted hsubset hu)
  | refused s fault =>
    obtain ⟨-, hnone | ⟨u, client, hdone⟩⟩ := haccounted
    · cases hnone.symm.trans hdoer
    · have hu : u = t := Option.some.inj (hdone.1.symm.trans hdoer)
      exact hjob _ _ _ (hdone.of_started honce hstarted hsubset hu)
  | _ => cases hattempt

/-- A task that tries only once to connect a socket connects none when it is refused. -/
theorem Accountable.not_connected_of_refused
    (hjob : ∀ s client mine, job.Connects s client mine → Untried mine) {s : SocketId} {fault : Fault}
    (hrefused : .refused s fault ∈ own t es) (c : Connection) : .connected c ∉ own t es := by
  intro hconnected
  obtain ⟨before, after, hsplit, hdoer⟩ := exists_of_mem_ownFrom hrefused
  obtain ⟨before', after', hsplit', hdoer'⟩ := exists_of_mem_ownFrom hconnected
  have huntried := h.untried honce hstarted hjob hsplit rfl hdoer
  have huntried' := h.untried honce hstarted hjob hsplit' rfl hdoer'
  -- Whichever of the two attempts was the later one, the task had tried before.
  rcases Scene.events_split (hsplit.symm.trans hsplit') with ⟨more, rfl⟩ | ⟨more, rfl, hrest⟩
  · cases huntried _ (mem_own_of_doer hdoer')
  · cases more with
    | nil => cases (List.cons.inj hrest).1
    | cons e more =>
      obtain ⟨rfl, -⟩ := List.cons.inj hrest
      cases huntried' _ (mem_own_of_doer hdoer)

/-- A task that leaves the session as it is connects no socket. -/
theorem Accountable.not_connected_of_idle (hidle : job.IsIdle (own t es)) (c : Connection) :
    .connected c ∉ own t es := by
  cases job with
  | connect | endpoint =>
    rcases hidle with ⟨fault, hrefused⟩ | hnever
    · exact h.not_connected_of_refused honce hstarted (fun _ _ _ hjob => hjob.2.2) hrefused c
    · exact hnever c
  | acquire | handle =>
    intro hconnected
    obtain ⟨before, after, hsplit, hdoer⟩ := exists_of_mem_ownFrom hconnected
    obtain ⟨-, hnone | ⟨u, hdone⟩⟩ := h before _ after hsplit
    · cases hnone.symm.trans hdoer
    · have hu : u = t := Option.some.inj (hdone.1.symm.trans hdoer)
      exact hdone.of_started honce hstarted (hsplit ▸ List.subset_append_left _ _) hu
  | _ => exact absurd hidle id

/-- A task that may neither connect a socket nor lose one leaves the session as it is. -/
theorem Accountable.follow_of_idle (hidle : job.IsIdle (own t es)) {e : Event} (he : e ∈ own t es)
    (c : Option Connection) : e.follow c = c := by
  have hnever := h.not_connected_of_idle honce hstarted hidle
  have hbefore {before more : List Event} (hsplit : es = before ++ more) (c : Connection) :
      .connected c ∉ own t before := fun hconnected =>
    hnever c (hsplit ▸ own_subset_append t before more hconnected)
  obtain ⟨before, after, hsplit, hdoer⟩ := exists_of_mem_ownFrom he
  have haccounted := h before e after hsplit
  have hsubset : before ⊆ es := hsplit ▸ List.subset_append_left _ _
  cases e with
  | connected new => exact absurd he (hnever new)
  | dropped s =>
    rcases haccounted with ⟨u, hdone⟩ | ⟨earlier, u, leased, r, rfl⟩
    · have hu : u = t := Option.some.inj (hdone.1.symm.trans hdoer)
      exact absurd (hdone.of_started honce hstarted hsubset hu) (hidle.not_givesUp (hbefore hsplit) s)
    · -- The send that failed just before was the doing of the same task.
      have hsplit' : es = earlier ++ .sendFailed u leased s :: .logged r :: .dropped s :: after := by
        simp [hsplit]
      obtain ⟨hdone, -⟩ := h earlier _ _ hsplit'
      have hinner : ∀ e ∈ [Event.sendFailed u leased s, .logged r], e.isInner := by
        simp [Event.isInner]
      have hrunner := runner_append_inner hinner hdone.1
      have hu : u = t := Option.some.inj (hrunner.symm.trans hdoer)
      have hearlier : earlier ⊆ es := List.Subset.trans (List.subset_append_left _ _) hsubset
      exact absurd (hdone.of_started honce hstarted hearlier hu)
        (hidle.not_sends (hbefore hsplit') s leased)
  | _ => rfl

end Idle

/-! ## The session and its history -/

/-- What has happened stays in its order, whatever the moves. -/
theorem Hub.events_append_run (h : Hub) (moves : List Move) :
    ∃ es, (h.run moves).events = h.events ++ es := by
  have hsuffix : h.history <:+ (h.run moves).history :=
    Hub.memory_run (P := fun m => h.history <:+ m.history)
      (fun _ _ _ hm => hm.trans (List.suffix_cons _ _))
      (fun _ _ _ hm => hm.trans (List.suffix_cons _ _)) (List.suffix_refl _) moves
  obtain ⟨later, hlater⟩ := hsuffix
  exact ⟨later.reverse, by rw [events, events, ← hlater, List.reverse_append]⟩

/-- The session is a function of its history. In every run, the current connection is the newest one:
the connection accepted last, over all sockets, unless its socket has been lost since. Then the session
shows the client and the time of that connection, and otherwise it shows that nobody is connected.

The history tells what was done (`Accountable`): who connects, who is refused and who gives up which
sockets, that connects are accepted unless they are refused or cancelled, that each send that fails over
a connection handed out by the session gives its socket up, and that endpoints have given up theirs when
they end. Tasks that answer a text, acquire the lease or are refused their socket leave the session
alone, also when the socket is current or has been accepted before. While no connection
is accepted, the session stays as it is until its own socket is lost, and then there is none: an older
one is never current again. -/
theorem session_follows_history (w : World) (moves : List Move) :
    let h := (Hub.initial w).run moves
    (∀ c, h.current = some c ↔ Newest h.events c) ∧
    (∀ c, Newest h.events c → h.isActive = true ∧ h.connection = .ok c.socket ∧
      h.status = ⟨true, c.client, some c.since, h.lease.held⟩) ∧
    ((∀ c, ¬ Newest h.events c) → h.isActive = false ∧ h.connection = .error .noActiveSession ∧
      h.status = ⟨false, none, none, h.lease.held⟩) ∧
    Accountable w h.events ∧
    (∀ t name job, .started t name job ∈ h.events → job.IsIdle (own t h.events) →
      ∀ e ∈ own t h.events, ∀ c, e.follow c = c) ∧
    ∀ more, ∃ es, (h.run more).events = h.events ++ es ∧ ((∀ new, .connected new ∉ es) →
      ∀ c, (h.run more).current = some c ↔
        h.current = some c ∧ ∀ e ∈ es, ¬ e.Loses (h.run more).events c.socket) := by
  intro h
  have haccount (moves : List Move) := Hub.accounted_run (h := .initial w) ⟨rfl, rfl⟩ .initial moves
  have hnewest (moves : List Move) (c : Connection) :
      ((Hub.initial w).run moves).current = some c ↔
        Newest ((Hub.initial w).run moves).events c := by
    obtain ⟨htracks, inv⟩ := haccount moves
    rw [htracks.session]
    exact (inv.events.newest_iff inv.once).symm
  obtain ⟨htracks, inv⟩ := haccount moves
  refine ⟨hnewest moves, ?_, ?_, inv.events, ?_, ?_⟩
  · intro c hc
    have hcurrent : h.current = some c := (hnewest moves c).mpr hc
    simp [Hub.isActive, Hub.connection, Hub.status, hcurrent]
  · intro hnone
    have hcurrent : h.current = none :=
      Option.eq_none_iff_forall_ne_some.mpr fun c hc => hnone c ((hnewest moves c).mp hc)
    simp [Hub.isActive, Hub.connection, Hub.status, hcurrent]
  · intro t name job hstarted hidle e he c
    exact inv.events.follow_of_idle inv.once hstarted hidle he c
  · intro more
    obtain ⟨es, hes⟩ := h.events_append_run more
    obtain ⟨htracks', inv'⟩ := Hub.accounted_run htracks inv more
    refine ⟨es, hes, fun hlast c => ?_⟩
    have hfollow : (h.run more).current = sessionFrom h.current es := by
      rw [htracks'.session, hes, sessionAfter_append, ← htracks.session]
    rw [hfollow, sessionFrom_of_unconnected hlast]
    exact and_congr_right fun hc =>
      inv'.events.kept_iff inv'.once hes (htracks.session.symm.trans hc)

/-- A world in which the first connection is made at nine and every other one later. -/
def World.timed : World :=
  { World.ideal with clock := fun n => if n = 0 then "9:00" else "9:05" }

/-- A browser takes the place of another one, whose endpoint then ends. -/
def staleTab : List Move :=
  [.start ⟨"first", .endpoint "a" (some "ann"), false⟩, .tick,
    .start ⟨"second", .endpoint "b" (some "bob"), false⟩, .tick, .comeIn "a" .closed, .tick]

/-- A browser connects once more and is lost, while the one it took the place of is still there. -/
def lostTab : List Move :=
  [.start ⟨"third", .endpoint "a" (some "eve"), false⟩, .tick, .comeIn "a" .closed, .tick]

theorem session_follows_history_tabs :
    let h := (Hub.initial World.timed).run staleTab
    let h' := (Hub.initial World.timed).run (staleTab ++ lostTab)
    Newest h.events ⟨"b", some "bob", "9:05"⟩ ∧
      h.status = ⟨true, some "bob", some "9:05", false⟩ ∧
      (∀ c, ¬ Newest h'.events c) ∧ h'.status = ⟨false, none, none, false⟩ ∧
      h'.tasks.map (·.name) = ["second"] := by
  intro h h'
  obtain ⟨hcurrent, hshown, -⟩ := session_follows_history World.timed staleTab
  obtain ⟨hcurrent', -, hhidden, -⟩ := session_follows_history World.timed (staleTab ++ lostTab)
  have hnewest : Newest h.events ⟨"b", some "bob", "9:05"⟩ := (hcurrent _).mp (by decide +kernel)
  have hnone : h'.current = none := by decide +kernel
  have hlost (c : Connection) : ¬ Newest h'.events c := fun hc => by
    cases hnone.symm.trans ((hcurrent' c).mpr hc)
  have hfree : h.lease.held = false := by decide +kernel
  have hfree' : h'.lease.held = false := by decide +kernel
  refine ⟨hnewest, ?_, hlost, ?_, by decide +kernel⟩
  · rw [(hshown _ hnewest).2.2, hfree]
  · rw [(hhidden hlost).2.2, hfree']

/-- A world in which every socket lets itself be connected once. -/
def World.once : World :=
  { World.ideal with
    plan := fun _ =>
      { SocketPlan.ideal with
        refusal := fun n => if n = 0 then none else some (.raised .runtime "accepted before") } }

/-- The current socket is to be connected for another client, and refuses. -/
example : ((Hub.initial World.once).run
    [.start ⟨"first", .connect "s" (some "ann"), false⟩, .tick,
      .start ⟨"second", .connect "s" (some "bob"), false⟩, .tick]).current =
    some ⟨"s", some "ann", ""⟩ := by
  decide +kernel

end PlotStream
