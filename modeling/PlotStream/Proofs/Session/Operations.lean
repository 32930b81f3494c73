import PlotStream.Proofs.Session.Scenes
import PlotStream.Session.Moves

/-!
# Operations as events

What each operation on a session leaves behind. `Hub.Emits` says that nothing of what a scene shows
has changed but the events, and that the current connection is the one the events tell. Every
operation that neither touches the lease nor lets a task wait has a lemma of this form.
-/

namespace PlotStream

namespace Hub

/-- The scene of a session, with the task that runs. -/
def scene (h : Hub) (running : Option (Task × Stage)) : Scene :=
  ⟨h.tasks, h.ready, h.atGates, h.lease, fun s => (h.socket s).readers, h.nextTask, running,
    h.events⟩

/-- The world is `w`, and the current connection is the one the events tell. -/
structure Tracks (w : World) (h : Hub) : Prop where
  world : h.world = w
  session : h.current = sessionAfter h.events

/-- From one state to another there are some events and no other change that a scene shows. -/
structure Emits (h h' : Hub) (es : List Event) : Prop where
  world : h'.world = h.world
  tasks : h'.tasks = h.tasks
  ready : h'.ready = h.ready
  gates : h'.atGates = h.atGates
  lease : h'.lease = h.lease
  next : h'.nextTask = h.nextTask
  readers : ∀ s, (h'.socket s).readers = (h.socket s).readers
  events : h'.events = h.events ++ es
  current : h'.current = sessionFrom h.current es

variable {w : World} {h h' h'' : Hub} {es es' : List Event}

namespace Emits

theorem refl (h : Hub) : Emits h h [] :=
  ⟨rfl, rfl, rfl, rfl, rfl, rfl, fun _ => rfl, (List.append_nil _).symm, rfl⟩

theorem trans (e : Emits h h' es) (e' : Emits h' h'' es') : Emits h h'' (es ++ es') where
  world := e'.world.trans e.world
  tasks := e'.tasks.trans e.tasks
  ready := e'.ready.trans e.ready
  gates := e'.gates.trans e.gates
  lease := e'.lease.trans e.lease
  next := e'.next.trans e.next
  readers s := (e'.readers s).trans (e.readers s)
  events := by rw [e'.events, e.events, List.append_assoc]
  current := by simp [e'.current, e.current, sessionFrom]

theorem scene (e : Emits h h' es) (running : Option (Task × Stage)) :
    h'.scene running = { h.scene running with events := h.events ++ es } := by
  simp [Hub.scene, e.tasks, e.ready, e.gates, e.lease, e.next, e.events, e.readers]

theorem tracks (e : Emits h h' es) (htracks : h.Tracks w) : h'.Tracks w where
  world := e.world.trans htracks.world
  session := by rw [e.current, htracks.session, e.events, sessionAfter_append]

end Emits

theorem Tracks.session_eq (htracks : h.Tracks w) (running : Option (Task × Stage)) :
    (h.scene running).session = h.current :=
  htracks.session.symm

@[simp] theorem events_record (h : Hub) (e : Event) : (h.record e).events = h.events ++ [e] := by
  simp [events, record]

/-! ## Records -/

theorem emits_record (h : Hub) {e : Event} (he : ∀ c, e.follow c = c) : Emits h (h.record e) [e] where
  world := rfl
  tasks := rfl
  ready := rfl
  gates := rfl
  lease := rfl
  next := rfl
  readers _ := rfl
  events := events_record h e
  current := (he h.current).symm

theorem emits_log (h : Hub) (r : LogRecord) : Emits h (h.log r) [.logged r] :=
  h.emits_record fun _ => rfl

theorem emits_logAll (h : Hub) (rs : List LogRecord) : Emits h (h.logAll rs) (rs.map .logged) := by
  induction rs generalizing h with
  | nil => exact .refl h
  | cons r rs ih => exact (h.emits_log r).trans (ih (h.log r))

/-! ## Sockets -/

theorem lookup_filter_ne {κ α : Type} [DecidableEq κ] (xs : List (κ × α)) {k₁ k₂ : κ}
    (hne : k₂ ≠ k₁) : (xs.filter (·.1 ≠ k₁)).lookup k₂ = xs.lookup k₂ := by
  induction xs with
  | nil => rfl
  | cons x xs ih =>
    obtain ⟨k, v⟩ := x
    by_cases hk : k = k₁
    · subst hk
      have hother : (k₂ == k) = false := by simpa using hne
      rw [List.filter_cons_of_neg (by simp), ih, List.lookup_cons, hother]
    · rw [List.filter_cons_of_pos (by simpa using hk), List.lookup_cons, List.lookup_cons, ih]

theorem socket_setSocket (h : Hub) (s s' : SocketId) (x : Socket) :
    (h.setSocket s x).socket s' = if s' = s then x else h.socket s' := by
  unfold socket setSocket
  by_cases hs : s' = s
  · simp [hs]
  · have hother : (s' == s) = false := by simpa using hs
    rw [if_neg hs, List.lookup_cons, hother]
    exact congrArg (·.getD Socket.quiet) (lookup_filter_ne _ hs)

theorem emits_setSocket (h : Hub) (s : SocketId) {x : Socket}
    (hx : x.readers = (h.socket s).readers) : Emits h (h.setSocket s x) [] where
  world := rfl
  tasks := rfl
  ready := rfl
  gates := rfl
  lease := rfl
  next := rfl
  readers s' := by
    rw [socket_setSocket]
    split
    · rename_i hs
      rw [hx, hs]
    · rfl
  events := (List.append_nil _).symm
  current := rfl

theorem emits_beginSend (h : Hub) (s : SocketId) : Emits h (h.beginSend s).2 [] :=
  h.emits_setSocket s rfl

theorem emits_setInbox (h : Hub) (s : SocketId) (rest : List Incoming) :
    Emits h (h.setInbox s rest) [] :=
  h.emits_setSocket s rfl

/-! ## Connections -/

theorem emits_disconnect (h : Hub) (s : SocketId) :
    Emits h (h.disconnect s) (dropEvents h.current s) := by
  have hdropped : ∀ c, h.current = c → c.filter (·.socket ≠ s) = c →
      Emits h (h.record (.dropped s)) [.dropped s] := by
    intro c hc hfilter
    exact ⟨rfl, rfl, rfl, rfl, rfl, rfl, fun _ => rfl, events_record h _,
      by rw [sessionFrom_cons, sessionFrom_nil, Event.follow, hc, hfilter, ← hc]; rfl⟩
  unfold disconnect dropEvents
  cases hc : h.current with
  | none =>
    have hnone : (h.record (.dropped s)).current = none := hc
    simp only [hnone]
    exact hdropped none hc rfl
  | some c =>
    have hsome : (h.record (.dropped s)).current = some c := hc
    simp only [hsome]
    by_cases hs : c.socket = s
    · simp only [if_pos hs]
      have hgone : Emits h { h.record (.dropped s) with current := none } [.dropped s] :=
        ⟨rfl, rfl, rfl, rfl, rfl, rfl, fun _ => rfl, events_record h _,
          by simp [Event.follow, hc, Option.filter, hs]⟩
      exact hgone.trans (emits_log _ _)
    · simp only [if_neg hs]
      exact hdropped (some c) hc (by simp [hs])

/-- Make a socket the current connection and log that. -/
def establish (h : Hub) (loop : LoopState) (s : SocketId) (client : Option String) : Hub :=
  let new : Connection := ⟨s, client, h.readClock.1⟩
  (({ h.readClock.2 with current := some new, loop } : Hub).record (.connected new)).log
    (.connected client)

theorem emits_establish (h : Hub) (loop : LoopState) (s : SocketId) (client : Option String) :
    Emits h (h.establish loop s client)
      [.connected ⟨s, client, h.readClock.1⟩, .logged (.connected client)] := by
  let new : Connection := ⟨s, client, h.readClock.1⟩
  let current : Hub := { h.readClock.2 with current := some new, loop }
  have hconnected : Emits h (current.record (.connected new)) [.connected new] :=
    ⟨rfl, rfl, rfl, rfl, rfl, rfl, fun _ => rfl, events_record _ _, rfl⟩
  exact hconnected.trans (emits_log _ (.connected client))

/-- A connect is refused, which changes nothing, or it is accepted. -/
theorem connectOn_cases (h : Hub) (loop : LoopState) (s : SocketId) (client : Option String) :
    (∃ fault h', (h.world.plan s).refusal (h.socket s).accepted = some fault ∧
      h.connectOn loop s client = (.error fault, h') ∧ Emits h h' [.refused s fault]) ∨
    ((h.world.plan s).refusal (h.socket s).accepted = none ∧
      ∃ now h', h.connectOn loop s client = (.ok (), h') ∧
        Emits h h' (connectEvents h.current ⟨s, client, now⟩)) := by
  unfold connectOn
  cases hrefusal : (h.world.plan s).refusal (h.socket s).accepted with
  | some fault => exact .inl ⟨fault, _, rfl, rfl, h.emits_record fun _ => rfl⟩
  | none =>
    let accepted := h.setSocket s { h.socket s with accepted := (h.socket s).accepted + 1 }
    have haccepted : Emits h accepted [] := h.emits_setSocket s rfl
    have hcurrent : accepted.current = h.current := rfl
    refine .inr ⟨rfl, ?_⟩
    dsimp only
    rw [hcurrent]
    cases h.current with
    | none => exact ⟨_, _, rfl, haccepted.trans (accepted.emits_establish loop s client)⟩
    | some c =>
      have hreplaced := accepted.emits_log (.replacing c.client client)
      dsimp only [connectEvents]
      by_cases hsame : c.socket = s
      · have hkept : ¬ c.socket ≠ s := not_not_intro hsame
        simp only [if_neg hkept]
        exact ⟨_, _, rfl, haccepted.trans (accepted.emits_establish loop s client)⟩
      · simp only [if_pos hsame]
        exact ⟨_, _, rfl, (haccepted.trans hreplaced).trans (emits_establish _ loop s client)⟩

/-! ## Sends -/

theorem deliver_cases (h : Hub) (t : TaskId) (leased : Bool) (s : SocketId) (f : Frame) :
    (∃ h', h.deliver t leased s f = (.ok (), h') ∧ Emits h h' [.delivered t leased s f]) ∨
    ∃ fault h', h.deliver t leased s f = (.error fault, h') ∧
      Emits h h' [.sendFailed t leased s] := by
  unfold deliver
  dsimp only
  split
  · exact .inr ⟨_, _, rfl, h.emits_record fun _ => rfl⟩
  · refine .inl ⟨_, rfl, ?_⟩
    have hcounted : Emits h
        (h.setSocket s { h.socket s with delivered := (h.socket s).delivered + 1 }) [] :=
      h.emits_setSocket s rfl
    exact hcounted.trans (emits_record _ fun _ => rfl)

theorem deliverHandedOut_cases (h : Hub) (t : TaskId) (leased : Bool) (s : SocketId) (f : Frame) :
    (∃ h', h.deliverHandedOut t leased s f = (.ok (), h') ∧
      Emits h h' [.delivered t leased s f]) ∨
    ∃ fault h', h.deliverHandedOut t leased s f =
        (.error (.sendFailed f.kindName fault.message), h') ∧
      Emits h h' (failEvents h.current t leased s f fault) := by
  unfold deliverHandedOut
  rcases h.deliver_cases t leased s f with ⟨h', hdeliver, hsent⟩ | ⟨fault, h', hdeliver, hfailed⟩
  · rw [hdeliver]
    exact .inl ⟨h', rfl, hsent⟩
  · rw [hdeliver]
    have hlogged := hfailed.trans (h'.emits_log (.sendError f fault))
    have hdropped := hlogged.trans (emits_disconnect _ s)
    rw [hlogged.current] at hdropped
    exact .inr ⟨fault, _, rfl, hdropped⟩

/-! ## Questions -/

theorem emits_askGate (h : Hub) (t : TaskId) (r : StreamGate.Request) :
    Emits h (h.askGate t r).2 [.gateAnswered t r (h.askGate t r).1] where
  world := rfl
  tasks := rfl
  ready := rfl
  gates := rfl
  lease := rfl
  next := rfl
  readers _ := rfl
  events := events_record _ _
  current := rfl

theorem emits_check (h : Hub) (g : Group) : Emits h (h.validate g).2 (checkEvents g) := by
  have hrecords := h.emits_logAll (g.validate.emptySources.map LogRecord.emptySource)
  rw [List.map_map] at hrecords
  unfold validate
  dsimp only
  split <;> exact hrecords

theorem validate_fst (h : Hub) (g : Group) :
    (h.validate g).1 =
      match g.validate.fault? with
      | some fault => .error fault
      | none => .ok () := by
  unfold validate
  dsimp only
  cases g.validate.fault? <;> rfl

theorem emits_replyFrame (h : Hub) (text : String) : Emits h (h.replyFrame text).2 [] := by
  unfold replyFrame
  split
  · exact .refl h
  · dsimp only
    split
    · exact ⟨rfl, rfl, rfl, rfl, rfl, rfl, fun _ => rfl, (List.append_nil _).symm, rfl⟩
    · exact .refl h

/-- A frame that answers a text holds the reply to it at some time. -/
theorem replyFrame_ok {h : Hub} {text : String} {f : Frame}
    (hframe : (h.replyFrame text).1 = some (.ok f)) :
    ∃ time m x, Message.reply time text = some m ∧ m.toJson h.world.room.calls = .ok x ∧
      f = .text x := by
  unfold replyFrame at hframe
  split at hframe
  · cases hframe
  · rename_i m hreply
    have hjson : (m.toJson h.world.room.calls).map Frame.text = .ok f := Option.some.inj hframe
    cases hx : m.toJson h.world.room.calls with
    | error fault =>
      rw [hx] at hjson
      cases hjson
    | ok x =>
      rw [hx] at hjson
      cases hjson
      exact ⟨_, m, x, hreply, hx, rfl⟩

end Hub

end PlotStream
