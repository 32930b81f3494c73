import PlotStream.Session.Hub

/-!
# Histories

What can be read off the events of a session: the connection that is current (`sessionAfter`), what
a single task did (`own`), and who asked for the lease, was granted it and sent frames under it.
Events stand in the order in which they happened (`Hub.events`). The doing of a task is what stands
between its going on and its next waiting or end.
-/

namespace PlotStream

/-- What happened, in order. -/
def Hub.events (h : Hub) : List Event :=
  h.history.reverse

/-! ## The current connection -/

/-- The connection that is current after an event. -/
def Event.follow (c : Option Connection) : Event → Option Connection
  | .connected new => some new
  | .dropped s => c.filter (·.socket ≠ s)
  | _ => c

/-- The connection that is current after some events. -/
def sessionFrom (c : Option Connection) (es : List Event) : Option Connection :=
  es.foldl Event.follow c

/-- The connection that is current after everything that happened. -/
def sessionAfter (es : List Event) : Option Connection :=
  sessionFrom none es

@[simp] theorem sessionFrom_nil (c : Option Connection) : sessionFrom c [] = c :=
  rfl

@[simp] theorem sessionFrom_cons (c : Option Connection) (e : Event) (es : List Event) :
    sessionFrom c (e :: es) = sessionFrom (e.follow c) es :=
  rfl

theorem sessionAfter_append (es es' : List Event) :
    sessionAfter (es ++ es') = sessionFrom (sessionAfter es) es' := by
  simp [sessionAfter, sessionFrom]

/-- An event that tells the current socket tells the truth. -/
def Event.Agrees (c : Option Connection) : Event → Prop
  | .began _ s | .granted _ s => s = c.map (·.socket)
  | _ => True

/-- Events that tell the current socket tell the truth. -/
def Truthful : Option Connection → List Event → Prop
  | _, [] => True
  | c, e :: es => e.Agrees c ∧ Truthful (e.follow c) es

theorem truthful_append {c : Option Connection} {es es' : List Event} :
    Truthful c (es ++ es') ↔ Truthful c es ∧ Truthful (sessionFrom c es) es' := by
  induction es generalizing c with
  | nil => simp [Truthful]
  | cons e es ih => simp [Truthful, ih, and_assoc]

theorem Truthful.agrees {before after : List Event} {e : Event}
    (h : Truthful none (before ++ e :: after)) : e.Agrees (sessionAfter before) :=
  (truthful_append.mp h).2.1

/-- Every event has its moment, and what it tells of the current socket is true then. -/
theorem Truthful.moment {es : List Event} {e : Event} (h : Truthful none es) (he : e ∈ es) :
    ∃ before after, es = before ++ e :: after ∧ e.Agrees (sessionAfter before) := by
  obtain ⟨before, after, hsplit⟩ := List.append_of_mem he
  refine ⟨before, after, hsplit, ?_⟩
  rw [hsplit] at h
  exact h.agrees

/-! ## What a task did -/

namespace Event

/-- Whose doing an event is; `runner` is the task that runs before it. -/
def doer (runner : Option TaskId) : Event → Option TaskId
  | .resumed t => some t
  | _ => runner

/-- The task that runs after an event. -/
def runnerAfter (runner : Option TaskId) : Event → Option TaskId
  | .resumed t => some t
  | .paused _ | .ended _ _ _ => none
  | _ => runner

/-- The task that an event names as the one whose doing it is. -/
def signer? : Event → Option TaskId
  | .began t _ | .called t | .asked t | .granted t _ | .delivered t _ _ _ | .sendFailed t _ _ =>
    some t
  | _ => none

/-- An event that neither starts a task nor lets one go on nor stops it. -/
def isInner : Event → Bool
  | .started _ _ _ | .resumed _ | .paused _ | .ended _ _ _ => false
  | _ => true

/-- An event that is no part of a stream, and no error either. -/
def isAside : Event → Bool
  | .connected _ | .refused _ _ | .dropped _ | .noted _ | .gateAnswered _ _ _ => true
  | .logged r => r.level ≠ .error
  | _ => false

theorem isInner_of_isAside {e : Event} (h : e.isAside) : e.isInner := by
  cases e <;> first | rfl | cases h

theorem signer?_of_isAside {e : Event} (h : e.isAside) : e.signer? = none := by
  cases e <;> first | rfl | cases h

theorem agrees_of_isAside {e : Event} (h : e.isAside) (c : Option Connection) : e.Agrees c := by
  cases e <;> trivial

theorem doer_of_isInner {e : Event} (h : e.isInner) (r : Option TaskId) : e.doer r = r := by
  cases e <;> first | rfl | cases h

theorem runnerAfter_of_isInner {e : Event} (h : e.isInner) (r : Option TaskId) :
    e.runnerAfter r = r := by
  cases e <;> first | rfl | cases h

end Event

/-- The task that runs after some events. -/
def runnerFrom (r : Option TaskId) (es : List Event) : Option TaskId :=
  es.foldl Event.runnerAfter r

/-- The events that are the doing of a task, when `r` runs before them. -/
def ownFrom (t : TaskId) (r : Option TaskId) : List Event → List Event
  | [] => []
  | e :: es =>
    if e.doer r = some t then e :: ownFrom t (e.runnerAfter r) es
    else ownFrom t (e.runnerAfter r) es

/-- The doing of a task. -/
def own (t : TaskId) (es : List Event) : List Event :=
  ownFrom t none es

theorem ownFrom_append (t : TaskId) (r : Option TaskId) (es es' : List Event) :
    ownFrom t r (es ++ es') = ownFrom t r es ++ ownFrom t (runnerFrom r es) es' := by
  induction es generalizing r with
  | nil => rfl
  | cons e es ih =>
    simp only [List.cons_append, ownFrom, ih, runnerFrom, List.foldl_cons]
    split <;> rfl

theorem runnerFrom_of_inner {es : List Event} (h : ∀ e ∈ es, e.isInner) (r : Option TaskId) :
    runnerFrom r es = r := by
  induction es with
  | nil => rfl
  | cons e es ih =>
    rw [runnerFrom, List.foldl_cons, Event.runnerAfter_of_isInner (h e (List.mem_cons_self ..))]
    exact ih fun e he => h e (List.mem_cons_of_mem _ he)

theorem ownFrom_of_inner {es : List Event} (h : ∀ e ∈ es, e.isInner) (t : TaskId)
    (r : Option TaskId) : ownFrom t r es = if r = some t then es else [] := by
  induction es with
  | nil => simp [ownFrom]
  | cons e es ih =>
    have he := h e (List.mem_cons_self ..)
    rw [ownFrom, Event.doer_of_isInner he, Event.runnerAfter_of_isInner he,
      ih fun e he => h e (List.mem_cons_of_mem _ he)]
    split <;> rfl

/-- Every event that names a task is the doing of this task, when `r` runs before them. -/
def Signed : Option TaskId → List Event → Prop
  | _, [] => True
  | r, e :: es => (∀ t, e.signer? = some t → e.doer r = some t) ∧ Signed (e.runnerAfter r) es

theorem signed_append {r : Option TaskId} {es es' : List Event} :
    Signed r (es ++ es') ↔ Signed r es ∧ Signed (runnerFrom r es) es' := by
  induction es generalizing r with
  | nil => simp [Signed, runnerFrom]
  | cons e es ih => simp [Signed, ih, runnerFrom, and_assoc]

theorem ownFrom_sublist (t : TaskId) (r : Option TaskId) (es : List Event) :
    (ownFrom t r es).Sublist es := by
  induction es generalizing r with
  | nil => exact .slnil
  | cons e es ih =>
    rw [ownFrom]
    split
    · exact (ih _).cons_cons _
    · exact (ih _).cons _

/-- Leaving out events that neither start a task nor let one go on nor stop it leaves the rest of its
doing. -/
theorem ownFrom_filter {p : Event → Bool} (hp : ∀ e, p e = false → e.isInner) (t : TaskId)
    (r : Option TaskId) (es : List Event) :
    ownFrom t r (es.filter p) = (ownFrom t r es).filter p := by
  induction es generalizing r with
  | nil => rfl
  | cons e es ih =>
    rw [ownFrom]
    cases hkept : p e with
    | true =>
      rw [List.filter_cons_of_pos hkept, ownFrom, ih]
      split
      · rw [List.filter_cons_of_pos hkept]
      · rfl
    | false =>
      have hleft : ¬ p e = true := by simp [hkept]
      rw [List.filter_cons_of_neg hleft, Event.runnerAfter_of_isInner (hp e hkept), ih]
      split
      · rw [List.filter_cons_of_neg hleft]
      · rfl

theorem Signed.mem_ownFrom {t : TaskId} {r : Option TaskId} {es : List Event} {e : Event}
    (h : Signed r es) (he : e ∈ es) (ht : e.signer? = some t) : e ∈ ownFrom t r es := by
  induction es generalizing r with
  | nil => cases he
  | cons e' es ih =>
    rw [ownFrom]
    rcases List.mem_cons.mp he with rfl | he
    · rw [if_pos (h.1 t ht)]
      exact List.mem_cons_self ..
    · split
      · exact List.mem_cons_of_mem _ (ih h.2 he)
      · exact ih h.2 he

/-- What is read off events that name a task is, for one task, read off its doing. -/
theorem Signed.filterMap_ownFrom {α : Type} {f : Event → Option α} {signer : α → TaskId}
    (hf : ∀ e x, f e = some x → e.signer? = some (signer x)) (t : TaskId) {r : Option TaskId}
    {es : List Event} (h : Signed r es) :
    (ownFrom t r es).filterMap f = (es.filterMap f).filter (signer · = t) := by
  induction es generalizing r with
  | nil => rfl
  | cons e es ih =>
    have hrest := ih h.2
    cases hfe : f e with
    | none =>
      rw [List.filterMap_cons_none hfe, ← hrest, ownFrom]
      split
      · rw [List.filterMap_cons_none hfe]
      · rfl
    | some x =>
      have hdoer := h.1 _ (hf e x hfe)
      rw [List.filterMap_cons_some hfe, List.filter_cons, ← hrest, ownFrom, hdoer]
      by_cases hx : signer x = t
      · simp [hx, List.filterMap_cons_some hfe]
      · simp [hx]

/-! ## Sending and the lease -/

/-- The frames that went out, with their sockets. -/
def deliveries (es : List Event) : List (SocketId × Frame) :=
  es.filterMap fun
    | .delivered _ _ s f => some (s, f)
    | _ => none

/-- The errors that were logged. -/
def errorRecords (es : List Event) : List LogRecord :=
  es.filterMap fun
    | .logged r => if r.level = .error then some r else none
    | _ => none

/-- The tasks that asked for the lease, in order. -/
def askOrder (es : List Event) : List TaskId :=
  es.filterMap fun
    | .asked t => some t
    | _ => none

/-- The tasks that were granted the lease, in order, each with the socket that was current. -/
def grants (es : List Event) : List (TaskId × Option SocketId) :=
  es.filterMap fun
    | .granted t s => some (t, s)
    | _ => none

/-- The sockets that did not let themselves be connected, in order, each with the fault. -/
def refusals (es : List Event) : List (SocketId × Fault) :=
  es.filterMap fun
    | .refused s fault => some (s, fault)
    | _ => none

/-- The frames that were sent under the lease, in order, each with its sender and its socket. -/
def leasedFrames (es : List Event) : List (TaskId × SocketId × Frame) :=
  es.filterMap fun
    | .delivered t true s f => some (t, s, f)
    | _ => none

theorem mem_askOrder {es : List Event} {t : TaskId} : t ∈ askOrder es ↔ .asked t ∈ es := by
  rw [askOrder, List.mem_filterMap]
  constructor
  · rintro ⟨e, he, hask⟩
    cases e <;> cases hask
    exact he
  · exact fun h => ⟨_, h, rfl⟩

theorem mem_grants {es : List Event} {t : TaskId} {s : Option SocketId} :
    (t, s) ∈ grants es ↔ .granted t s ∈ es := by
  rw [grants, List.mem_filterMap]
  constructor
  · rintro ⟨e, he, hgrant⟩
    cases e <;> cases hgrant
    exact he
  · exact fun h => ⟨_, h, rfl⟩

theorem mem_refusals {es : List Event} {s : SocketId} {fault : Fault} :
    (s, fault) ∈ refusals es ↔ .refused s fault ∈ es := by
  rw [refusals, List.mem_filterMap]
  constructor
  · rintro ⟨e, he, hrefused⟩
    cases e <;> cases hrefused
    exact he
  · exact fun h => ⟨_, h, rfl⟩

theorem not_refused {es : List Event} (h : refusals es = []) (s : SocketId) (fault : Fault) :
    .refused s fault ∉ es := by
  rw [← mem_refusals, h]
  exact List.not_mem_nil

section Append

variable (es es' : List Event)

@[simp] theorem deliveries_append :
    deliveries (es ++ es') = deliveries es ++ deliveries es' :=
  List.filterMap_append

@[simp] theorem errorRecords_append :
    errorRecords (es ++ es') = errorRecords es ++ errorRecords es' :=
  List.filterMap_append

@[simp] theorem askOrder_append : askOrder (es ++ es') = askOrder es ++ askOrder es' :=
  List.filterMap_append

@[simp] theorem grants_append : grants (es ++ es') = grants es ++ grants es' :=
  List.filterMap_append

@[simp] theorem refusals_append : refusals (es ++ es') = refusals es ++ refusals es' :=
  List.filterMap_append

@[simp] theorem leasedFrames_append :
    leasedFrames (es ++ es') = leasedFrames es ++ leasedFrames es' :=
  List.filterMap_append

end Append

section Asides

variable {es : List Event} (h : ∀ e ∈ es, e.isAside)

include h

theorem deliveries_of_asides : deliveries es = [] := by
  refine List.filterMap_eq_nil_iff.mpr fun e he => ?_
  have haside := h e he
  cases e <;> first | rfl | cases haside

theorem errorRecords_of_asides : errorRecords es = [] := by
  refine List.filterMap_eq_nil_iff.mpr fun e he => ?_
  have haside := h e he
  cases e with
  | logged r => simpa [Event.isAside] using haside
  | _ => rfl

theorem askOrder_of_asides : askOrder es = [] := by
  refine List.filterMap_eq_nil_iff.mpr fun e he => ?_
  have haside := h e he
  cases e <;> first | rfl | cases haside

theorem grants_of_asides : grants es = [] := by
  refine List.filterMap_eq_nil_iff.mpr fun e he => ?_
  have haside := h e he
  cases e <;> first | rfl | cases haside

theorem leasedFrames_of_asides : leasedFrames es = [] := by
  refine List.filterMap_eq_nil_iff.mpr fun e he => ?_
  have haside := h e he
  cases e <;> first | rfl | cases haside

end Asides

section OfOne

variable {es : List Event} (h : Signed none es) (t : TaskId)

include h

theorem askOrder_own : askOrder (own t es) = (askOrder es).filter (· = t) := by
  refine h.filterMap_ownFrom (fun e x hx => ?_) t
  cases e <;> cases hx
  rfl

theorem grants_own : grants (own t es) = (grants es).filter (·.1 = t) := by
  refine h.filterMap_ownFrom (fun e x hx => ?_) t
  cases e <;> cases hx
  rfl

theorem leasedFrames_own : leasedFrames (own t es) = (leasedFrames es).filter (·.1 = t) := by
  refine h.filterMap_ownFrom (fun e x hx => ?_) t
  cases e with
  | delivered task leased s f =>
    cases leased <;> cases hx
    rfl
  | _ => cases hx

end OfOne

/-! ## Finding an event -/

/-- Whether an event is the start of a plot of some kind. -/
def Event.startsPlot (t : TaskId) (name : String) (kind : PlotCall → Bool) : Event → Bool
  | .started u name' (.plot call) => (u, name') = (t, name) && kind call
  | _ => false

/-- Whether an event is the end of a task with an outcome. -/
def Event.endsIn (t : TaskId) (name : String) : Except Fault TaskResult → Event → Bool
  | .ok result, .ended u name' (.ok result') => (u, name', result') = (t, name, result)
  | .error fault, .ended u name' (.error fault') => (u, name', fault') = (t, name, fault)
  | _, _ => false

theorem mem_of_any_startsPlot {es : List Event} {t : TaskId} {name : String}
    {kind : PlotCall → Bool} {call : PlotCall} (hkind : ∀ call', kind call' = true → call' = call)
    (h : es.any (Event.startsPlot t name kind) = true) : .started t name (.plot call) ∈ es := by
  obtain ⟨e, he, hstarts⟩ := List.any_eq_true.mp h
  unfold Event.startsPlot at hstarts
  split at hstarts
  · simp only [Bool.and_eq_true, decide_eq_true_eq, Prod.mk.injEq] at hstarts
    obtain ⟨⟨rfl, rfl⟩, hcall⟩ := hstarts
    rwa [hkind _ hcall] at he
  · cases hstarts

theorem mem_of_any_endsIn {es : List Event} {t : TaskId} {name : String}
    {outcome : Except Fault TaskResult} (h : es.any (Event.endsIn t name outcome) = true) :
    .ended t name outcome ∈ es := by
  obtain ⟨e, he, hends⟩ := List.any_eq_true.mp h
  unfold Event.endsIn at hends
  split at hends
  · cases of_decide_eq_true hends
    exact he
  · cases of_decide_eq_true hends
    exact he
  · cases hends

end PlotStream
