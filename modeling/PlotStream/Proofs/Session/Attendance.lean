import PlotStream.Proofs.Session.Traces
import PlotStream.Proofs.Session.Work
import PlotStream.Proofs.Wire.Replies

/-!
# Endpoints

An endpoint takes what comes in on its socket, one after the other, and sends the answers to the texts
(`World.answer`) on this socket, each before it takes the next item. `Attended` says how an endpoint
stands that has received some items: where it is, which of the items are texts it has looked at, and
what it has signed, which are its sends. It stops at the first item that is no text and at the first
send that fails.

`Hub.AttendsTo` is what holds of an endpoint from the moment it looks at the inbox until it waits or
ends: what it takes comes from the front of the inbox, and it stands as it should afterwards. It is
proved by the recursion over the inbox (`attendsTo_runEndpoint`).
-/

namespace PlotStream

/-- The frame that answers a text which is looked at when the clock has been read `x.1` times, if the
text has an answer. -/
def World.answer (w : World) (x : Nat × String) : Option (Except Fault Frame) :=
  (Message.reply (w.clock x.1) x.2).map fun m => (m.toJson w.room.calls).map Frame.text

/-- The frames that answer some texts. -/
def World.answers (w : World) (heard : List (Nat × String)) : List (Except Fault Frame) :=
  heard.filterMap w.answer

/-- Something that comes in and lets an endpoint stop. -/
def Incoming.isLast : Incoming → Bool
  | .text _ => false
  | _ => true

/-- What a task has put its name to: the frames it has sent or failed to send, and whatever it had to do
with plots and the lease. -/
def signedBy (t : TaskId) (es : List Event) : List Event :=
  es.filter (·.signer? = some t)

/-- Texts were looked at one after the other, the last one when the clock had been read at most `n`
times. -/
def InOrder (n : Nat) (heard : List (Nat × String)) : Prop :=
  heard.Pairwise (·.1 ≤ ·.1) ∧ ∀ x ∈ heard, x.1 ≤ n

/-- The texts as they came in. -/
def texts (heard : List (Nat × String)) : List Incoming :=
  heard.map fun x => .text x.2

/-- How an endpoint on a socket stands that has looked at some texts: where it is, what it has received
and what it has signed, which are sends on this socket only. All frames have gone out that answer the
texts, but for the last one if its send waits, fails or is cancelled. -/
inductive Attended (w : World) (t : TaskId) (s : SocketId) (heard : List (Nat × String)) :
    Whereabouts → List Incoming → List Event → Prop
  | fresh {client : Option String} (h : heard = []) :
      Attended w t s heard (.waits (.fresh (.endpoint s client))) [] []
  | receiving {sent : List Frame} (h : w.answers heard = sent.map .ok) :
      Attended w t s heard (.waits (.receiving s)) (texts heard) (sent.map (.delivered t false s))
  | replying {sent : List Frame} {f : Frame} (h : w.answers heard = (sent ++ [f]).map .ok) :
      Attended w t s heard (.waits (.replying s f)) (texts heard) (sent.map (.delivered t false s))
  | stopped {sent : List Frame} {item : Incoming} (h : w.answers heard = sent.map .ok)
      (hitem : item.isLast = true) :
      Attended w t s heard (.finished (.ok .nothing)) (texts heard ++ [item])
        (sent.map (.delivered t false s))
  | unsent {sent : List Frame} {f : Frame} (h : w.answers heard = (sent ++ [f]).map .ok) :
      Attended w t s heard (.finished (.ok .nothing)) (texts heard)
        (sent.map (.delivered t false s) ++ [.sendFailed t false s])
  | cancelled (sent pending : List Frame) (hpending : pending.length ≤ 1)
      (h : w.answers heard = (sent ++ pending).map .ok) :
      Attended w t s heard (.finished (.error .cancelled)) (texts heard)
        (sent.map (.delivered t false s))

/-! ## Answers -/

section Answers

variable {w : World} {heard : List (Nat × String)} {n : Nat} {text : String}

theorem World.answers_append (w : World) (heard heard' : List (Nat × String)) :
    w.answers (heard ++ heard') = w.answers heard ++ w.answers heard' :=
  List.filterMap_append

/-- Every answer can be written. -/
theorem World.answer_ne_error (w : World) (x : Nat × String) (fault : Fault) :
    w.answer x ≠ some (.error fault) := by
  unfold answer
  cases hreply : Message.reply (w.clock x.1) x.2 with
  | none => exact nofun
  | some m =>
    obtain ⟨text, htext⟩ := Message.exists_toJson_of_reply hreply w.room
    rw [Option.map_some, htext]
    exact nofun

/-- The answer to a text depends on the clock only. -/
theorem Hub.replyFrame_fst (h : Hub) (text : String) :
    (h.replyFrame text).1 = h.world.answer (h.clockReadings, text) := by
  unfold replyFrame World.answer
  dsimp only
  cases Message.reply (h.world.clock h.clockReadings) text <;> rfl

theorem InOrder.mono {m : Nat} (h : InOrder n heard) (hle : n ≤ m) : InOrder m heard :=
  ⟨h.1, fun x hx => Nat.le_trans (h.2 x hx) hle⟩

theorem InOrder.snoc (h : InOrder n heard) (text : String) : InOrder n (heard ++ [(n, text)]) := by
  refine ⟨List.pairwise_append.mpr ⟨h.1, List.pairwise_singleton _ _, ?_⟩, ?_⟩
  · intro x hx y hy
    rw [List.mem_singleton.mp hy]
    exact h.2 x hx
  · intro x hx
    rcases List.mem_append.mp hx with hx | hx
    · exact h.2 x hx
    · rw [List.mem_singleton.mp hx]

theorem texts_snoc (heard : List (Nat × String)) (x : Nat × String) :
    texts (heard ++ [x]) = texts heard ++ [.text x.2] :=
  List.map_append

theorem signedBy_append (t : TaskId) (es es' : List Event) :
    signedBy t (es ++ es') = signedBy t es ++ signedBy t es' :=
  List.filter_append ..

theorem signedBy_append_of_quiet {t : TaskId} {es es' : List Event}
    (h : ∀ e ∈ es', e.signer? ≠ some t) : signedBy t (es ++ es') = signedBy t es := by
  have hnone : signedBy t es' = [] := List.filter_eq_nil_iff.mpr fun e he => by simpa using h e he
  rw [signedBy_append, hnone, List.append_nil]

theorem signedBy_append_singleton {t : TaskId} {es : List Event} {e : Event}
    (he : e.signer? = some t) : signedBy t (es ++ [e]) = signedBy t es ++ [e] := by
  rw [signedBy_append, signedBy, signedBy, List.filter_cons_of_pos (by simpa using he), List.filter_nil]

theorem signedBy_append_unsigned {t : TaskId} {es : List Event} {e : Event}
    (he : e.signer? = none) : signedBy t (es ++ [e]) = signedBy t es :=
  signedBy_append_of_quiet (by simp [he])

end Answers

namespace Attended

variable {w : World} {t : TaskId} {s : SocketId} {heard : List (Nat × String)}
  {got : List Incoming} {signed : List Event} {n : Nat} {text : String} {f : Frame}

/-- A text without an answer is passed over. -/
theorem ignore (h : Attended w t s heard (.waits (.receiving s)) got signed)
    (hanswer : w.answer (n, text) = none) :
    Attended w t s (heard ++ [(n, text)]) (.waits (.receiving s)) (got ++ [.text text]) signed := by
  cases h with
  | receiving h =>
    rw [← texts_snoc heard (n, text)]
    refine .receiving ?_
    rw [World.answers_append, h, World.answers, List.filterMap_cons_none hanswer]
    exact List.append_nil _

/-- A text with an answer is answered next. -/
theorem hear (h : Attended w t s heard (.waits (.receiving s)) got signed)
    (hanswer : w.answer (n, text) = some (.ok f)) :
    Attended w t s (heard ++ [(n, text)]) (.waits (.replying s f)) (got ++ [.text text]) signed := by
  cases h with
  | receiving h =>
    rw [← texts_snoc heard (n, text)]
    refine .replying ?_
    rw [World.answers_append, h, World.answers, List.filterMap_cons_some hanswer, List.map_append]
    rfl

theorem send (h : Attended w t s heard (.waits (.replying s f)) got signed) :
    Attended w t s heard (.waits (.receiving s)) got (signed ++ [.delivered t false s f]) := by
  cases h with
  | @replying sent f h =>
    have hreceiving := Attended.receiving (t := t) (s := s) h
    rwa [List.map_append] at hreceiving

theorem fail (h : Attended w t s heard (.waits (.replying s f)) got signed) :
    Attended w t s heard (.finished (.ok .nothing)) got (signed ++ [.sendFailed t false s]) := by
  cases h with
  | replying h => exact .unsent h

theorem stop (h : Attended w t s heard (.waits (.receiving s)) got signed) (item : Incoming)
    (hitem : item.isLast = true) :
    Attended w t s heard (.finished (.ok .nothing)) (got ++ [item]) signed := by
  cases h with
  | receiving h => exact .stopped h hitem

/-- An endpoint may be cancelled wherever it waits. -/
theorem cancel {p : Point} (h : Attended w t s heard (.waits p) got signed) :
    Attended w t s heard (.finished (.error .cancelled)) got signed := by
  cases h with
  | fresh hheard =>
    subst hheard
    exact .cancelled [] [] (Nat.zero_le 1) rfl
  | receiving h => exact .cancelled _ [] (Nat.zero_le 1) (by rw [h, List.append_nil])
  | @replying sent f h => exact .cancelled sent [f] (Nat.le_refl 1) h

end Attended

/-! ## Looking at the inbox -/

/-- Where a task is after a turn. -/
def Progress.place : Progress → Whereabouts
  | .waits p => .waits p
  | .ends outcome => .finished outcome

namespace Hub

/-- An endpoint that had received some items and signed some events goes on until it waits or ends: it
takes items from the front of its inbox and stands as it should afterwards. It comes to wait for more
among the readers of its socket, and only when the inbox is empty. -/
def AttendsTo (w : World) (t : TaskId) (s : SocketId) (got : List Incoming) (signed : List Event)
    (h : Hub) (out : Progress × Hub) : Prop :=
  Works t (some s) h out.2 ∧
  (out.1 = .waits (.receiving s) → (out.2.socket s).inbox = [] ∧ t ∈ (out.2.socket s).readers) ∧
  ∃ heard taken more, InOrder out.2.clockReadings heard ∧
    (h.socket s).inbox = taken ++ (out.2.socket s).inbox ∧
    signedBy t out.2.events = signedBy t h.events ++ more ∧
    Attended w t s heard out.1.place (got ++ taken) (signed ++ more)

variable {w : World} {t : TaskId} {s : SocketId} {heard : List (Nat × String)}
  {got : List Incoming} {signed : List Event} {h h' : Hub} {f : Frame} {out : Progress × Hub}

/-- An endpoint has taken some items and signed some events, and then goes on. -/
theorem AttendsTo.after (taken : List Incoming) (more : List Event) (hworks : Works t (some s) h h')
    (hinbox : (h.socket s).inbox = taken ++ (h'.socket s).inbox)
    (hsigned : signedBy t h'.events = signedBy t h.events ++ more)
    (hrest : AttendsTo w t s (got ++ taken) (signed ++ more) h' out) :
    AttendsTo w t s got signed h out := by
  obtain ⟨hworks', hdry, heard, taken', more', horder, hinbox', hsigned', hattended⟩ := hrest
  rw [List.append_assoc, List.append_assoc] at hattended
  refine ⟨hworks.trans hworks', hdry, heard, _, _, horder, ?_, ?_, hattended⟩
  · rw [hinbox, hinbox', List.append_assoc]
  · rw [hsigned', hsigned, List.append_assoc]

/-- An endpoint stands as it should and does nothing more. -/
theorem AttendsTo.stand {progress : Progress}
    (hdry : progress = .waits (.receiving s) → (h.socket s).inbox = [] ∧ t ∈ (h.socket s).readers)
    (horder : InOrder h.clockReadings heard)
    (hattended : Attended w t s heard progress.place got signed) :
    AttendsTo w t s got signed h (progress, h) := by
  refine ⟨.refl h, hdry, heard, [], [], horder, rfl, (List.append_nil _).symm, ?_⟩
  rwa [List.append_nil, List.append_nil]

theorem inbox_of_works (e : Works t none h h') (s : SocketId) :
    (h'.socket s).inbox = (h.socket s).inbox :=
  (e.others s nofun).1

/-- An endpoint has taken and signed nothing, and then goes on. -/
theorem AttendsTo.silent (hworks : Works t none h h')
    (hsigned : signedBy t h'.events = signedBy t h.events) (hrest : AttendsTo w t s got signed h' out) :
    AttendsTo w t s got signed h out := by
  refine .after [] [] hworks.widen (inbox_of_works hworks s).symm ?_ ?_
  · rw [hsigned, List.append_nil]
  · rwa [List.append_nil, List.append_nil]

/-- A task has put its name to nothing that happened meanwhile. -/
theorem Emits.signedBy {es : List Event} (e : Emits h h' es) (hes : ∀ e ∈ es, e.signer? = none) :
    PlotStream.signedBy t h'.events = PlotStream.signedBy t h.events := by
  rw [e.events]
  exact signedBy_append_of_quiet fun e he => by simp [hes e he]

theorem signedBy_disconnect (h : Hub) (t : TaskId) (s : SocketId) :
    PlotStream.signedBy t (h.disconnect s).events = PlotStream.signedBy t h.events :=
  (h.emits_disconnect s).signedBy (unsigned_of_asides (aside_dropEvents _ _))

theorem attendsTo_disconnect (horder : InOrder h.clockReadings heard)
    (hattended : Attended w t s heard (.finished (.ok .nothing)) got signed) :
    AttendsTo w t s got signed h (.ends (.ok .nothing), h.disconnect s) := by
  have hworks : Works t none h (h.disconnect s) := h.works_disconnect s
  exact .silent hworks (h.signedBy_disconnect t s) (.stand nofun (horder.mono hworks.clock) hattended)

theorem attendsTo_failEndpoint (horder : InOrder h.clockReadings heard)
    (hattended : Attended w t s heard (.finished (.ok .nothing)) got signed) (fault : Fault) :
    AttendsTo w t s got signed h (h.failEndpoint s fault) := by
  have hlogged : Works t none h (h.log (.endpointError fault)) := h.works_log _
  have hsigned : signedBy t (h.log (.endpointError fault)).events = signedBy t h.events :=
    (h.emits_log _).signedBy (by simp [Event.signer?])
  exact .silent hlogged hsigned (attendsTo_disconnect (horder.mono hlogged.clock) hattended)

/-- A frame goes out, or its send fails. -/
theorem deliver_signs (h : Hub) (t : TaskId) (s : SocketId) (f : Frame) :
    (∃ h', h.deliver t false s f = (.ok (), h') ∧
      signedBy t h'.events = signedBy t h.events ++ [.delivered t false s f]) ∨
    ∃ fault h', h.deliver t false s f = (.error fault, h') ∧
      signedBy t h'.events = signedBy t h.events ++ [.sendFailed t false s] := by
  rcases h.deliver_cases t false s f with ⟨h', hdeliver, hsent⟩ | ⟨fault, h', hdeliver, hfailed⟩
  · refine .inl ⟨h', hdeliver, ?_⟩
    rw [hsent.events]
    exact signedBy_append_singleton rfl
  · refine .inr ⟨fault, h', hdeliver, ?_⟩
    rw [hfailed.events]
    exact signedBy_append_singleton rfl

/-- The send of an answer is completed: the endpoint goes on as `rest` says, or stops. -/
theorem attendsTo_answer (horder : InOrder h.clockReadings heard)
    (hattended : Attended w t s heard (.waits (.replying s f)) got signed)
    {rest : Hub → Progress × Hub}
    (hrest : ∀ {h' : Hub} {signed' : List Event}, Works t none h h' →
      InOrder h'.clockReadings heard → Attended w t s heard (.waits (.receiving s)) got signed' →
      AttendsTo w t s got signed' h' (rest h')) :
    AttendsTo w t s got signed h
      (match h.deliver t false s f with
        | (.ok (), h) => rest h
        | (.error fault, h) => h.failEndpoint s fault) := by
  rcases h.deliver_signs t s f with ⟨h', hdeliver, hsigned⟩ | ⟨fault, h', hdeliver, hsigned⟩
  · have hworks : Works t none h h' := (h.works_deliver false s f).of_eq hdeliver
    rw [hdeliver]
    refine .after [] _ hworks.widen (inbox_of_works hworks s).symm hsigned ?_
    rw [List.append_nil]
    exact hrest hworks (horder.mono hworks.clock) hattended.send
  · have hworks : Works t none h h' := (h.works_deliver false s f).of_eq hdeliver
    rw [hdeliver]
    refine .after [] _ hworks.widen (inbox_of_works hworks s).symm hsigned ?_
    rw [List.append_nil]
    exact attendsTo_failEndpoint (horder.mono hworks.clock) hattended.fail fault

/-- An endpoint looks at a text and answers it; it goes on with the items behind it as `hrest` says. -/
theorem attendsTo_text {text : String} {items : List Incoming} (hworld : h.world = w)
    (hitems : (h.socket s).inbox = items) (horder : InOrder h.clockReadings heard)
    (hattended : Attended w t s heard (.waits (.receiving s)) got signed)
    (hrest : ∀ {heard : List (Nat × String)} {got : List Incoming} {signed : List Event} {h : Hub},
      h.world = w → (h.socket s).inbox = items → InOrder h.clockReadings heard →
      Attended w t s heard (.waits (.receiving s)) got signed →
      AttendsTo w t s got signed h (h.runEndpoint t s items)) :
    AttendsTo w t s (got ++ [.text text]) signed h
      (match h.replyFrame text with
        | (none, h) => h.runEndpoint t s items
        | (some (.error fault), h) => h.failEndpoint s fault
        | (some (.ok f), h) =>
          match h.beginSend s with
          | (some gate, h) => (.waits (.replying s f), h.waitAt gate t)
          | (none, h) =>
            match h.deliver t false s f with
            | (.ok (), h) => h.runEndpoint t s items
            | (.error fault, h) => h.failEndpoint s fault) := by
  have hanswer := h.replyFrame_fst text
  have hlooked : Works t none h (h.replyFrame text).2 := h.works_replyFrame text
  have hsigned : signedBy t (h.replyFrame text).2.events = signedBy t h.events :=
    (h.emits_replyFrame text).signedBy (by simp)
  rw [hworld] at hanswer
  generalize h.replyFrame text = answered at hanswer hlooked hsigned ⊢
  obtain ⟨frame?, h₁⟩ := answered
  have horder₁ : InOrder h₁.clockReadings _ := (horder.snoc text).mono hlooked.clock
  refine .silent hlooked hsigned ?_
  rcases frame? with - | fault | f
  · exact hrest (hlooked.world.trans hworld) ((inbox_of_works hlooked s).trans hitems) horder₁
      (hattended.ignore hanswer.symm)
  · exact absurd hanswer.symm (World.answer_ne_error w _ fault)
  · have hheard := hattended.hear hanswer.symm
    have hbegun : Works t none h₁ (h₁.beginSend s).2 := h₁.works_beginSend s
    have hsigned₁ : signedBy t (h₁.beginSend s).2.events = signedBy t h₁.events := rfl
    dsimp only
    generalize h₁.beginSend s = begun at hbegun hsigned₁ ⊢
    obtain ⟨gate?, h₂⟩ := begun
    have horder₂ : InOrder h₂.clockReadings _ := horder₁.mono hbegun.clock
    refine .silent hbegun hsigned₁ ?_
    cases gate? with
    | some gate => exact .silent (h₂.works_waitAt gate t) rfl (.stand nofun horder₂ hheard)
    | none =>
      refine attendsTo_answer horder₂ hheard fun hsent horder hattended => ?_
      have hworks := hlooked.trans (hbegun.trans hsent)
      exact hrest (hworks.world.trans hworld) ((inbox_of_works hworks s).trans hitems) horder hattended

/-- An endpoint looks at what has come in. -/
theorem attendsTo_runEndpoint (hworld : h.world = w) {items : List Incoming}
    (hitems : (h.socket s).inbox = items) (horder : InOrder h.clockReadings heard)
    (hattended : Attended w t s heard (.waits (.receiving s)) got signed) :
    AttendsTo w t s got signed h (h.runEndpoint t s items) := by
  induction items generalizing h heard got signed with
  | nil =>
    have hwaits : (h.awaitIncoming t s).2.socket s =
        { h.socket s with readers := (h.socket s).readers ++ [t] } := by
      rw [awaitIncoming, socket_setSocket, if_pos rfl]
    rw [runEndpoint]
    refine .after [] [] (h.works_awaitIncoming s) (by rw [hwaits, List.nil_append])
      (List.append_nil _).symm ?_
    rw [List.append_nil, List.append_nil]
    refine .stand (fun _ => ?_) horder hattended
    rw [hwaits]
    exact ⟨hitems, List.mem_append_right _ (List.mem_singleton_self t)⟩
  | cons item rest ih =>
    -- the item is taken out of the inbox before it is looked at
    have hworks : Works t (some s) h (h.setInbox s rest) :=
      h.works_setInbox s (hitems ▸ List.suffix_cons item rest)
    have hinbox : ((h.setInbox s rest).socket s).inbox = rest := h.inbox_setInbox s rest
    have htaken : (h.socket s).inbox = [item] ++ ((h.setInbox s rest).socket s).inbox := by
      rw [hinbox, hitems, List.singleton_append]
    refine .after _ [] hworks htaken (List.append_nil _).symm ?_
    rw [List.append_nil]
    have hworld' : (h.setInbox s rest).world = w := hworld
    have horder' : InOrder (h.setInbox s rest).clockReadings heard := horder
    cases item with
    | closed =>
      rw [runEndpoint]
      exact attendsTo_disconnect horder' (hattended.stop .closed rfl)
    | failed fault =>
      rw [runEndpoint]
      exact attendsTo_failEndpoint horder' (hattended.stop (.failed fault) rfl) fault
    | text text =>
      rw [runEndpoint]
      exact attendsTo_text hworld' hinbox horder' hattended ih

/-- All that happens is that a socket does not let itself be connected. -/
def Refused (s : SocketId) (h h' : Hub) : Prop :=
  ∃ fault, h'.events = h.events ++ [.refused s fault]

/-- An endpoint begins, unless its socket is refused. -/
theorem attendsTo_startEndpoint (hworld : h.world = w) (client : Option String) :
    Refused s h (h.startEndpoint t s client).2 ∨
      AttendsTo w t s [] [] h (h.startEndpoint t s client) := by
  have hworks : Works t none h (h.connect s client).2 := h.works_connectOn .running s client
  unfold startEndpoint
  rcases h.connectOn_cases .running s client with
    ⟨fault, h', -, hconnect, hrefused⟩ | ⟨-, now, h', hconnect, hconnected⟩
  · have hconnect' : h.connect s client = (.error fault, h') := hconnect
    rw [hconnect']
    exact .inl ⟨fault, hrefused.events⟩
  · have hconnect' : h.connect s client = (.ok (), h') := hconnect
    have hsigned := hconnected.signedBy (t := t) (unsigned_of_asides (aside_connectEvents _ _))
    have hbegins : Attended w t s [] (.waits (.receiving s)) [] [] := @Attended.receiving w t s [] [] rfl
    rw [hconnect'] at hworks ⊢
    refine .inr (.silent hworks hsigned ?_)
    exact attendsTo_runEndpoint (hworks.world.trans hworld) rfl ⟨.nil, by simp⟩ hbegins

/-- An endpoint goes on, unless its socket is refused. -/
theorem attendsTo_goOn (hworld : h.world = w) (name : String) {p : Point}
    (horder : InOrder h.clockReadings heard) (hattended : Attended w t s heard (.waits p) got signed) :
    Refused s h (h.goOn t name p).2 ∨ AttendsTo w t s got signed h (h.goOn t name p) := by
  cases hattended with
  | fresh => exact attendsTo_startEndpoint hworld _
  | receiving hanswers => exact .inr (attendsTo_runEndpoint hworld rfl horder (.receiving hanswers))
  | replying hanswers =>
    refine .inr (attendsTo_answer horder (.replying hanswers) fun hworks horder hattended => ?_)
    exact attendsTo_runEndpoint (hworks.world.trans hworld) rfl horder hattended

/-- An endpoint finds itself cancelled. -/
theorem attendsTo_giveUp {p : Point} (horder : InOrder h.clockReadings heard)
    (hattended : Attended w t s heard (.waits p) got signed) :
    AttendsTo w t s got signed h (h.giveUp t p) := by
  have hcancelled := hattended.cancel
  cases hattended with
  | fresh | replying => exact .stand nofun horder hcancelled
  | receiving =>
    have hworks : Works t (some s) h (h.abandonInbox t s) := h.works_abandonInbox s
    obtain ⟨hinbox, hevents⟩ := h.abandonInbox_keeps t s
    refine .after [] [] hworks hinbox.symm (by rw [hevents, List.append_nil]) ?_
    rw [List.append_nil, List.append_nil]
    exact .stand nofun (horder.mono hworks.clock) hcancelled

end Hub

end PlotStream
