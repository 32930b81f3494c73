import PlotStream.Session.Moves

/-!
# Sessions that differ in what they remember

The states of the stream gates and the history are the memory of a session: no move reads the history,
and a gate is read only when it is asked. So two sessions that are alike but for their memories stay
alike under the same moves (`Alike.run`), as long as their gates give the same answers. What is said of
the memories is left open (`Lasting`); for a single run, it is a property that is kept
(`Hub.memory_run`). There is one lemma for each operation of the session, and the operations that run
a script, a procedure or an endpoint follow their recursion.
-/

namespace PlotStream

/-- What a session remembers: the states of the stream gates, and everything that happened, the latest
event first. -/
structure Memory where
  gates : List (TaskId × StreamGate)
  history : List Event

namespace Memory

variable (m : Memory)

/-- The stream gate of a task. -/
def gate (t : TaskId) : StreamGate :=
  (m.gates.lookup t).getD .fresh

/-- Remember an event. -/
def record (e : Event) : Memory :=
  { m with history := e :: m.history }

/-- Ask the stream gate of a task. -/
def ask (t : TaskId) (q : StreamGate.Request) : Bool × Memory :=
  let (answer, g) := (m.gate t).ask q
  (answer, { m with gates := (t, g) :: m.gates.filter (·.1 ≠ t) }.record (.gateAnswered t q answer))

theorem gates_ask (t : TaskId) (q : StreamGate.Request) :
    (m.ask t q).2.gates = (t, ((m.gate t).ask q).2) :: m.gates.filter (·.1 ≠ t) :=
  rfl

theorem history_ask (t : TaskId) (q : StreamGate.Request) :
    (m.ask t q).2.history = .gateAnswered t q ((m.gate t).ask q).1 :: m.history :=
  rfl

end Memory

/-- An event that is no answer of a stream gate. -/
def Event.isNoAnswer : Event → Bool
  | .gateAnswered _ _ _ => false
  | _ => true

/-- A relation between memories that lasts when the same is remembered and the same gates are asked.
`asked` tells which gates may be asked whether their calls can still be cancelled. -/
structure Lasting (asked : TaskId → Prop) (r : Memory → Memory → Prop) : Prop where
  record : ∀ {m m' : Memory} {e : Event}, e.isNoAnswer → r m m' → r (m.record e) (m'.record e)
  ask : ∀ {m m' : Memory} (t : TaskId) (q : StreamGate.Request), (q = .cancel → asked t) → r m m' →
    (m'.ask t q).1 = (m.ask t q).1 ∧ r (m.ask t q).2 (m'.ask t q).2

namespace Hub

/-- What a session remembers. -/
def memory (h : Hub) : Memory :=
  ⟨h.streamGates, h.history⟩

theorem memory_askGate (h : Hub) (t : TaskId) (q : StreamGate.Request) :
    (h.askGate t q).2.memory = (h.memory.ask t q).2 :=
  rfl

/-- The session with another memory. -/
def remember (h : Hub) (m : Memory) : Hub :=
  { h with streamGates := m.gates, history := m.history }

/-- The task whose gate a move asks whether it can still be cancelled. -/
def asked? (h : Hub) : Move → Option TaskId
  | .start s => if s.refused then some h.nextTask else none
  | .cancelGate t => some t
  | _ => none

end Hub

/-- Two sessions are alike but for their memories, which are related. -/
def Alike (r : Memory → Memory → Prop) (a b : Hub) : Prop :=
  ∃ m, b = a.remember m ∧ r a.memory m

/-- Two answers are the same, and so are the sessions behind them but for their memories. -/
def AlikeOut {α : Type} (r : Memory → Memory → Prop) (x y : α × Hub) : Prop :=
  y.1 = x.1 ∧ Alike r x.2 y.2

variable {asked : TaskId → Prop} {r : Memory → Memory → Prop} {a b : Hub}

theorem AlikeOut.cases {α : Type} {x y : α × Hub} (h : AlikeOut r x y) :
    ∃ answer a b, x = (answer, a) ∧ y = (answer, b) ∧ Alike r a b := by
  obtain ⟨answer, a⟩ := x
  obtain ⟨answer', b⟩ := y
  obtain ⟨rfl, halike⟩ := h
  exact ⟨_, a, b, rfl, rfl, halike⟩

namespace Alike

/-! ## What does not depend on the memory -/

section Fields

variable (h : Alike r a b)

include h

theorem world : b.world = a.world := by
  obtain ⟨m, rfl, -⟩ := h
  rfl

theorem current : b.current = a.current := by
  obtain ⟨m, rfl, -⟩ := h
  rfl

theorem lease : b.lease = a.lease := by
  obtain ⟨m, rfl, -⟩ := h
  rfl

theorem socket (s : SocketId) : b.socket s = a.socket s := by
  obtain ⟨m, rfl, -⟩ := h
  rfl

theorem isOpen (g : GateId) : b.isOpen g = a.isOpen g := by
  obtain ⟨m, rfl, -⟩ := h
  rfl

theorem tasks : b.tasks = a.tasks := by
  obtain ⟨m, rfl, -⟩ := h
  rfl

theorem task? (t : TaskId) : b.task? t = a.task? t := by
  obtain ⟨m, rfl, -⟩ := h
  rfl

theorem ready : b.ready = a.ready := by
  obtain ⟨m, rfl, -⟩ := h
  rfl

theorem kept : b.kept = a.kept := by
  obtain ⟨m, rfl, -⟩ := h
  rfl

theorem nextTask : b.nextTask = a.nextTask := by
  obtain ⟨m, rfl, -⟩ := h
  rfl

theorem clock : b.world.clock b.clockReadings = a.world.clock a.clockReadings := by
  obtain ⟨m, rfl, -⟩ := h
  rfl

/-! ## Single changes -/

theorem setSocket (s : SocketId) (x : Socket) : Alike r (a.setSocket s x) (b.setSocket s x) := by
  obtain ⟨m, rfl, hm⟩ := h
  exact ⟨m, rfl, hm⟩

theorem endSession : Alike r { a with current := none } { b with current := none } := by
  obtain ⟨m, rfl, hm⟩ := h
  exact ⟨m, rfl, hm⟩

theorem setLease (l : Lease) : Alike r { a with lease := l } { b with lease := l } := by
  obtain ⟨m, rfl, hm⟩ := h
  exact ⟨m, rfl, hm⟩

theorem setTasks (tasks : List Task) : Alike r { a with tasks } { b with tasks } := by
  obtain ⟨m, rfl, hm⟩ := h
  exact ⟨m, rfl, hm⟩

theorem setReady (ready : List TaskId) : Alike r { a with ready } { b with ready } := by
  obtain ⟨m, rfl, hm⟩ := h
  exact ⟨m, rfl, hm⟩

theorem setKept (kept : List (String × SocketId)) : Alike r { a with kept } { b with kept } := by
  obtain ⟨m, rfl, hm⟩ := h
  exact ⟨m, rfl, hm⟩

theorem readClock : Alike r a.readClock.2 b.readClock.2 := by
  obtain ⟨m, rfl, hm⟩ := h
  exact ⟨m, rfl, hm⟩

theorem makeReady (t : TaskId) : Alike r (a.makeReady t) (b.makeReady t) := by
  obtain ⟨m, rfl, hm⟩ := h
  exact ⟨m, rfl, hm⟩

theorem makeReady? (t? : Option TaskId) : Alike r (a.makeReady? t?) (b.makeReady? t?) := by
  cases t? with
  | none => exact h
  | some t => exact h.makeReady t

theorem waitAt (g : GateId) (t : TaskId) : Alike r (a.waitAt g t) (b.waitAt g t) := by
  obtain ⟨m, rfl, hm⟩ := h
  exact ⟨m, rfl, hm⟩

theorem openGate (g : GateId) : Alike r (a.openGate g) (b.openGate g) := by
  obtain ⟨m, rfl, hm⟩ := h
  exact ⟨m, rfl, hm⟩

theorem abandonLease (t : TaskId) : Alike r (a.abandonLease t) (b.abandonLease t) := by
  unfold Hub.abandonLease
  rw [h.lease]
  exact (h.setLease _).makeReady? _

theorem releaseLease : AlikeOut r a.releaseLease b.releaseLease := by
  unfold Hub.releaseLease
  rw [h.lease]
  cases a.lease.release with
  | ok next => exact ⟨rfl, (h.setLease _).makeReady? _⟩
  | error fault => exact ⟨rfl, h⟩

theorem beginSend (s : SocketId) : AlikeOut r (a.beginSend s) (b.beginSend s) := by
  obtain ⟨m, rfl, hm⟩ := h
  exact ⟨rfl, m, rfl, hm⟩

theorem setInbox (s : SocketId) (rest : List Incoming) :
    Alike r (a.setInbox s rest) (b.setInbox s rest) := by
  unfold Hub.setInbox
  rw [h.socket]
  exact h.setSocket s _

theorem awaitIncoming (t : TaskId) (s : SocketId) :
    AlikeOut r (a.awaitIncoming t s) (b.awaitIncoming t s) := by
  unfold Hub.awaitIncoming
  rw [h.socket]
  exact ⟨rfl, h.setSocket s _⟩

theorem replyFrame (text : String) : AlikeOut r (a.replyFrame text) (b.replyFrame text) := by
  unfold Hub.replyFrame
  rw [h.clock, h.world]
  split
  · exact ⟨rfl, h⟩
  · refine ⟨rfl, ?_⟩
    dsimp only
    split
    · exact h.readClock
    · exact h

theorem abandonInbox (t : TaskId) (s : SocketId) :
    Alike r (a.abandonInbox t s) (b.abandonInbox t s) := by
  unfold Hub.abandonInbox
  rw [h.socket]
  dsimp only
  split
  · exact h.setSocket s _
  · split
    · exact (h.setSocket s _).makeReady _
    · exact h

theorem comeIn (s : SocketId) (item : Incoming) : Alike r (a.comeIn s item) (b.comeIn s item) := by
  unfold Hub.comeIn
  rw [h.socket]
  exact (h.setSocket s _).makeReady? _

theorem leave (outcome : Except Fault TaskResult) : AlikeOut r (a.leave outcome) (b.leave outcome) := by
  obtain ⟨released, a₁, b₁, ha, hb, h₁⟩ := h.releaseLease.cases
  unfold Hub.leave
  rw [ha, hb]
  cases released <;> exact ⟨rfl, h₁⟩

theorem giveUp (t : TaskId) (p : Point) : AlikeOut r (a.giveUp t p) (b.giveUp t p) := by
  cases p with
  | queued purpose => exact ⟨rfl, h.abandonLease t⟩
  | pausing | sending => exact h.leave _
  | receiving s => exact ⟨rfl, h.abandonInbox t s⟩
  | _ => exact ⟨rfl, h⟩

theorem handle (text : String) : AlikeOut r (a.handle text) (b.handle text) := by
  obtain ⟨frame?, a₁, b₁, ha, hb, h₁⟩ := (h.replyFrame text).cases
  unfold Hub.handle
  rw [ha, hb]
  rcases frame? with - | fault | f
  · exact ⟨rfl, h₁⟩
  · exact ⟨rfl, h₁⟩
  · cases f <;> exact ⟨rfl, h₁⟩

theorem cancelTask (t : TaskId) : Alike r (a.cancelTask t).2 (b.cancelTask t).2 := by
  obtain ⟨m, rfl, hm⟩ := h
  have htask : (a.remember m).task? t = a.task? t := rfl
  have hready : (a.remember m).ready = a.ready := rfl
  unfold Hub.cancelTask
  rw [htask]
  cases a.task? t with
  | none => exact ⟨m, rfl, hm⟩
  | some task =>
    dsimp only
    rw [hready]
    split <;> exact ⟨m, rfl, hm⟩

end Fields

/-! ## What is remembered -/

section Memories

variable (h : Alike r a b) (hr : Lasting asked r)

include h hr

theorem record {e : Event} (he : e.isNoAnswer) : Alike r (a.record e) (b.record e) := by
  obtain ⟨m, rfl, hm⟩ := h
  exact ⟨m.record e, rfl, hr.record he hm⟩

theorem askGate (t : TaskId) (q : StreamGate.Request) (hq : q = .cancel → asked t) :
    AlikeOut r (a.askGate t q) (b.askGate t q) := by
  obtain ⟨m, rfl, hm⟩ := h
  obtain ⟨hsame, hasked⟩ := hr.ask t q hq hm
  exact ⟨hsame, (m.ask t q).2, rfl, hasked⟩

theorem log (x : LogRecord) : Alike r (a.log x) (b.log x) :=
  h.record hr rfl

theorem logAll (xs : List LogRecord) : Alike r (a.logAll xs) (b.logAll xs) := by
  induction xs generalizing a b with
  | nil => exact h
  | cons x xs ih => exact ih (h.log hr x)

theorem connectOn (loop : LoopState) (s : SocketId) (client : Option String) :
    AlikeOut r (a.connectOn loop s client) (b.connectOn loop s client) := by
  obtain ⟨m, rfl, hm⟩ := h
  have hworld : (a.remember m).world = a.world := rfl
  have hsocket : (a.remember m).socket s = a.socket s := rfl
  unfold Hub.connectOn
  rw [hworld]
  rw [hsocket]
  cases (a.world.plan s).refusal (a.socket s).accepted with
  | some fault => exact ⟨rfl, m.record _, rfl, hr.record rfl hm⟩
  | none =>
    cases hc : a.current with
    | none =>
      simp only [Hub.setSocket, Hub.remember, hc]
      exact ⟨rfl, (m.record _).record _, rfl, hr.record rfl (hr.record rfl hm)⟩
    | some c =>
      by_cases hs : c.socket ≠ s
      · simp only [Hub.setSocket, Hub.remember, hc, if_pos hs]
        exact ⟨rfl, ((m.record _).record _).record _, rfl,
          hr.record rfl (hr.record rfl (hr.record rfl hm))⟩
      · simp only [Hub.setSocket, Hub.remember, hc, if_neg hs]
        exact ⟨rfl, (m.record _).record _, rfl, hr.record rfl (hr.record rfl hm)⟩

theorem disconnect (s : SocketId) : Alike r (a.disconnect s) (b.disconnect s) := by
  have hdropped := h.record hr rfl (e := .dropped s)
  unfold Hub.disconnect
  dsimp only
  rw [hdropped.current]
  cases (a.record (.dropped s)).current with
  | none => exact hdropped
  | some c =>
    dsimp only
    split
    · exact hdropped.endSession.log hr _
    · exact hdropped

/-! ### Sends -/

theorem deliver (t : TaskId) (leased : Bool) (s : SocketId) (f : Frame) :
    AlikeOut r (a.deliver t leased s f) (b.deliver t leased s f) := by
  unfold Hub.deliver
  rw [h.world, h.socket]
  dsimp only
  cases (a.world.plan s).failure (a.socket s).begun (a.socket s).delivered with
  | some fault => exact ⟨rfl, h.record hr rfl⟩
  | none => exact ⟨rfl, (h.setSocket s _).record hr rfl⟩

theorem deliverHandedOut (t : TaskId) (leased : Bool) (s : SocketId) (f : Frame) :
    AlikeOut r (a.deliverHandedOut t leased s f) (b.deliverHandedOut t leased s f) := by
  obtain ⟨sent, a₁, b₁, ha, hb, h₁⟩ := (h.deliver hr t leased s f).cases
  unfold Hub.deliverHandedOut
  rw [ha, hb]
  cases sent with
  | ok => exact ⟨rfl, h₁⟩
  | error fault => exact ⟨rfl, (h₁.log hr _).disconnect hr s⟩

/-! ### Under the lease -/

theorem finish (holder : Holder) : AlikeOut r (a.finish holder) (b.finish holder) := by
  obtain ⟨released, a₁, b₁, ha, hb, h₁⟩ := h.releaseLease.cases
  unfold Hub.finish
  rw [ha, hb]
  cases released with
  | error fault => cases holder.purpose <;> exact ⟨rfl, h₁⟩
  | ok =>
    cases holder.purpose with
    | plot g gated => exact ⟨rfl, h₁.log hr _⟩
    | _ => exact ⟨rfl, h₁⟩

theorem runScript (t : TaskId) (holder : Holder) (rest : List Action) :
    AlikeOut r (a.runScript t holder rest) (b.runScript t holder rest) := by
  induction rest generalizing a b with
  | nil =>
    rw [Hub.runScript, Hub.runScript]
    exact h.finish hr holder
  | cons action rest ih =>
    cases action with
    | send f =>
      rw [Hub.runScript, Hub.runScript]
      obtain ⟨gate?, a₁, b₁, ha, hb, h₁⟩ := (h.beginSend holder.socket).cases
      rw [ha, hb]
      cases gate? with
      | some gate => exact ⟨rfl, h₁.waitAt gate t⟩
      | none =>
        obtain ⟨sent, a₂, b₂, ha, hb, h₂⟩ := (h₁.deliverHandedOut hr t true holder.socket f).cases
        dsimp only
        rw [ha, hb]
        cases sent with
        | ok => exact ih h₂
        | error fault => exact h₂.leave _
    | await g =>
      rw [Hub.runScript, Hub.runScript, h.isOpen]
      split
      · exact ih h
      · exact ⟨rfl, h.waitAt g t⟩
    | log x =>
      rw [Hub.runScript, Hub.runScript]
      exact ih (h.log hr x)
    | fail fault =>
      rw [Hub.runScript, Hub.runScript]
      exact h.leave _

theorem resumeSend (t : TaskId) (holder : Holder) (f : Frame) (rest : List Action) :
    AlikeOut r (a.resumeSend t holder f rest) (b.resumeSend t holder f rest) := by
  obtain ⟨sent, a₁, b₁, ha, hb, h₁⟩ := (h.deliverHandedOut hr t true holder.socket f).cases
  unfold Hub.resumeSend
  rw [ha, hb]
  cases sent with
  | ok => exact h₁.runScript hr t holder rest
  | error fault => exact h₁.leave _

theorem withoutSession (purpose : Purpose) :
    AlikeOut r (a.withoutSession purpose) (b.withoutSession purpose) := by
  cases purpose with
  | plot g gated => exact ⟨rfl, h.log hr _⟩
  | _ => exact ⟨rfl, h⟩

theorem begin (t : TaskId) (holder : Holder) : AlikeOut r (a.begin t holder) (b.begin t holder) := by
  obtain ⟨s, purpose⟩ := holder
  cases purpose with
  | keep name =>
    unfold Hub.begin
    dsimp only
    rw [h.kept]
    exact ⟨rfl, h.setKept _⟩
  | block script => exact h.runScript hr t _ script
  | plot g gated =>
    unfold Hub.begin
    dsimp only
    split
    · obtain ⟨answer, a₁, b₁, ha, hb, h₁⟩ := (h.askGate hr t .start nofun).cases
      rw [ha, hb]
      cases answer with
      | true =>
        dsimp only
        rw [h₁.world]
        exact h₁.runScript hr t _ _
      | false => exact h₁.leave _
    · rw [h.world]
      exact h.runScript hr t _ _

theorem afterGrant (t : TaskId) (purpose : Purpose) :
    AlikeOut r (a.afterGrant t purpose) (b.afterGrant t purpose) := by
  unfold Hub.afterGrant Hub.connection
  dsimp only
  rw [h.current]
  have hgranted := h.record hr rfl (e := .granted t (a.current.map (·.socket)))
  rw [hgranted.current]
  cases (a.record (.granted t (a.current.map (·.socket)))).current with
  | some c => exact hgranted.begin hr t _
  | none =>
    obtain ⟨released, a₁, b₁, ha, hb, h₁⟩ := hgranted.releaseLease.cases
    dsimp only
    rw [ha, hb]
    cases released with
    | ok => exact h₁.withoutSession hr purpose
    | error fault => exact ⟨rfl, h₁⟩

theorem requestLease (t : TaskId) (purpose : Purpose) :
    AlikeOut r (a.requestLease t purpose) (b.requestLease t purpose) := by
  have hasked := h.record hr rfl (e := .asked t)
  unfold Hub.requestLease
  dsimp only
  rw [hasked.lease]
  split
  · exact (hasked.setLease _).afterGrant hr t purpose
  · exact ⟨rfl, hasked.setLease _⟩

/-! ### Plotting procedures -/

theorem validate (g : Group) : AlikeOut r (a.validate g) (b.validate g) := by
  have hlogged := h.logAll hr (g.validate.emptySources.map LogRecord.emptySource)
  unfold Hub.validate
  dsimp only
  cases g.validate.fault? <;> exact ⟨rfl, hlogged⟩

theorem inspect (g : Group) (q : Inspection) : AlikeOut r (a.inspect g q) (b.inspect g q) := by
  unfold Hub.inspect
  rw [h.world]
  split
  · exact h.validate hr g
  · split <;> exact ⟨rfl, h⟩

theorem runBuild (t : TaskId) (call : PlotCall) (g : Group) (rest : List BuildStep) :
    AlikeOut r (a.runBuild t call g rest) (b.runBuild t call g rest) := by
  induction rest generalizing a b g with
  | nil =>
    rw [Hub.runBuild, Hub.runBuild]
    obtain ⟨checked, a₁, b₁, ha, hb, h₁⟩ := (h.validate hr g).cases
    rw [ha, hb]
    cases checked with
    | ok => exact h₁.requestLease hr t _
    | error fault => exact ⟨rfl, h₁⟩
  | cons step rest ih =>
    cases step with
    | call c =>
      rw [Hub.runBuild, Hub.runBuild]
      cases g.call c with
      | ok x => exact ih h _
      | error fault => exact ⟨rfl, h⟩
    | inspect q =>
      rw [Hub.runBuild, Hub.runBuild]
      obtain ⟨answer, a₁, b₁, ha, hb, h₁⟩ := (h.inspect hr g q).cases
      rw [ha, hb]
      cases answer with
      | ok => exact ih h₁ _
      | error fault => exact ⟨rfl, h₁⟩
    | fail fault =>
      rw [Hub.runBuild, Hub.runBuild]
      exact ⟨rfl, h⟩
    | noteLeased =>
      rw [Hub.runBuild, Hub.runBuild, h.lease]
      exact ih (h.record hr rfl) _
    | await gate =>
      rw [Hub.runBuild, Hub.runBuild, h.isOpen]
      split
      · exact ih h _
      · exact ⟨rfl, h.waitAt gate t⟩
    | connect s client =>
      rw [Hub.runBuild, Hub.runBuild, Hub.connect, Hub.connect]
      obtain ⟨answer, a₁, b₁, ha, hb, h₁⟩ := (h.connectOn hr .running s client).cases
      rw [ha, hb]
      cases answer with
      | ok => exact ih h₁ _
      | error fault => exact ⟨rfl, h₁⟩
    | disconnect s =>
      rw [Hub.runBuild, Hub.runBuild]
      exact ih (h.disconnect hr s) _

theorem startPlot (t : TaskId) (call : PlotCall) :
    AlikeOut r (a.startPlot t call) (b.startPlot t call) := by
  unfold Hub.startPlot Hub.isActive
  dsimp only
  rw [h.current]
  have hbegan := h.record hr rfl (e := .began t (a.current.map (·.socket)))
  rw [hbegan.current]
  split
  · exact (hbegan.record hr rfl).runBuild hr t call _ _
  · exact ⟨rfl, hbegan.log hr _⟩

/-! ### Endpoints -/

theorem failEndpoint (s : SocketId) (fault : Fault) :
    AlikeOut r (a.failEndpoint s fault) (b.failEndpoint s fault) :=
  ⟨rfl, (h.log hr _).disconnect hr s⟩

theorem runEndpoint (t : TaskId) (s : SocketId) (items : List Incoming) :
    AlikeOut r (a.runEndpoint t s items) (b.runEndpoint t s items) := by
  induction items generalizing a b with
  | nil =>
    rw [Hub.runEndpoint, Hub.runEndpoint]
    exact h.awaitIncoming t s
  | cons item rest ih =>
    have hinbox := h.setInbox s rest
    cases item with
    | closed =>
      rw [Hub.runEndpoint, Hub.runEndpoint]
      exact ⟨rfl, hinbox.disconnect hr s⟩
    | failed fault =>
      rw [Hub.runEndpoint, Hub.runEndpoint]
      exact hinbox.failEndpoint hr s fault
    | text text =>
      rw [Hub.runEndpoint, Hub.runEndpoint]
      obtain ⟨frame?, a₁, b₁, ha, hb, h₁⟩ := (hinbox.replyFrame text).cases
      rw [ha, hb]
      rcases frame? with - | fault | f
      · exact ih h₁
      · exact h₁.failEndpoint hr s fault
      · obtain ⟨gate?, a₂, b₂, ha, hb, h₂⟩ := (h₁.beginSend s).cases
        dsimp only
        rw [ha, hb]
        cases gate? with
        | some gate => exact ⟨rfl, h₂.waitAt gate t⟩
        | none =>
          obtain ⟨sent, a₃, b₃, ha, hb, h₃⟩ := (h₂.deliver hr t false s f).cases
          dsimp only
          rw [ha, hb]
          cases sent with
          | ok => exact ih h₃
          | error fault => exact h₃.failEndpoint hr s fault

theorem receive (t : TaskId) (s : SocketId) : AlikeOut r (a.receive t s) (b.receive t s) := by
  unfold Hub.receive
  rw [h.socket]
  exact h.runEndpoint hr t s _

theorem startEndpoint (t : TaskId) (s : SocketId) (client : Option String) :
    AlikeOut r (a.startEndpoint t s client) (b.startEndpoint t s client) := by
  obtain ⟨answer, a₁, b₁, ha, hb, h₁⟩ := (h.connectOn hr .running s client).cases
  unfold Hub.startEndpoint Hub.connect
  rw [ha, hb]
  cases answer with
  | ok => exact h₁.receive hr t s
  | error fault => exact ⟨rfl, h₁⟩

/-! ### Tasks -/

omit h hr in
theorem endWith {x y : Except Fault Unit × Hub} (hout : AlikeOut r x y) :
    AlikeOut r (Hub.endWith x) (Hub.endWith y) := by
  obtain ⟨answer, a₁, b₁, rfl, rfl, h₁⟩ := hout.cases
  cases answer <;> exact ⟨rfl, h₁⟩

theorem startSend (t : TaskId) (connection : String) (f : Frame) :
    AlikeOut r (a.startSend t connection f) (b.startSend t connection f) := by
  unfold Hub.startSend
  rw [h.kept]
  cases a.kept.lookup connection with
  | none => exact ⟨rfl, h⟩
  | some s =>
    obtain ⟨gate?, a₁, b₁, ha, hb, h₁⟩ := (h.beginSend s).cases
    dsimp only
    rw [ha, hb]
    cases gate? with
    | some gate => exact ⟨rfl, h₁.waitAt gate t⟩
    | none => exact endWith (h₁.deliverHandedOut hr t false s f)

theorem startJob (t : TaskId) (name : String) (job : Job) :
    AlikeOut r (a.startJob t name job) (b.startJob t name job) := by
  cases job with
  | connect s client => exact endWith (h.connectOn hr .running s client)
  | disconnect s => exact ⟨rfl, h.disconnect hr s⟩
  | acquire => exact h.requestLease hr t _
  | send connection f => exact h.startSend hr t connection f
  | lease script => exact h.requestLease hr t _
  | handle text => exact h.handle text
  | plot call => exact h.startPlot hr t call
  | endpoint s client => exact h.startEndpoint hr t s client

theorem goOn (t : TaskId) (name : String) (p : Point) :
    AlikeOut r (a.goOn t name p) (b.goOn t name p) := by
  cases p with
  | fresh job => exact h.startJob hr t name job
  | building call g rest => exact h.runBuild hr t call g rest
  | queued purpose =>
    unfold Hub.goOn
    rw [h.lease]
    exact (h.setLease _).afterGrant hr t purpose
  | pausing holder rest => exact h.runScript hr t holder rest
  | sending holder f rest => exact h.resumeSend hr t holder f rest
  | sendingKept s f => exact endWith (h.deliverHandedOut hr t false s f)
  | receiving s => exact h.receive hr t s
  | replying s f =>
    obtain ⟨sent, a₁, b₁, ha, hb, h₁⟩ := (h.deliver hr t false s f).cases
    unfold Hub.goOn
    dsimp only
    rw [ha, hb]
    cases sent with
    | ok => exact h₁.receive hr t s
    | error fault => exact h₁.failEndpoint hr s fault

omit h in
theorem settleTask (task : Task) {x y : Progress × Hub} (hout : AlikeOut r x y) :
    Alike r (Hub.settleTask task x) (Hub.settleTask task y) := by
  obtain ⟨progress, a₁, b₁, rfl, rfl, h₁⟩ := hout.cases
  cases progress with
  | waits point =>
    unfold Hub.settleTask
    dsimp only
    rw [h₁.tasks]
    exact (h₁.setTasks _).record hr rfl
  | ends outcome => exact h₁.record hr rfl

theorem resume (task : Task) : Alike r (a.resume task) (b.resume task) := by
  unfold Hub.resume
  dsimp only
  rw [h.tasks]
  have hresumed := (h.setTasks (a.tasks.filter (·.id ≠ task.id))).record hr rfl (e := .resumed task.id)
  refine settleTask hr task ?_
  split
  · exact hresumed.giveUp task.id task.point
  · exact hresumed.goOn hr task.id task.name task.point

/-! ### Moves -/

theorem tick : Alike r a.tick b.tick := by
  unfold Hub.tick
  rw [h.ready]
  cases a.ready with
  | nil => exact h
  | cons t rest =>
    have hpopped := h.setReady rest
    dsimp only
    rw [hpopped.task?]
    cases ({ a with ready := rest } : Hub).task? t with
    | none => exact hpopped
    | some task => exact hpopped.resume hr task

theorem start (s : Start) (hs : s.refused = true → asked a.nextTask) :
    Alike r (a.start s) (b.start s) := by
  obtain ⟨m, rfl, hm⟩ := h
  have hstarted : Alike r
      (({ a with
        nextTask := a.nextTask + 1
        tasks := a.tasks ++ [Task.mk a.nextTask s.name (.fresh s.job) false]
        ready := a.ready ++ [a.nextTask]
        names := (s.name, a.nextTask) :: a.names } : Hub).record (.started a.nextTask s.name s.job))
      (({ a.remember m with
        nextTask := a.nextTask + 1
        tasks := a.tasks ++ [Task.mk a.nextTask s.name (.fresh s.job) false]
        ready := a.ready ++ [a.nextTask]
        names := (s.name, a.nextTask) :: a.names } : Hub).record (.started a.nextTask s.name s.job)) :=
    ⟨m.record (.started a.nextTask s.name s.job), rfl, hr.record rfl hm⟩
  unfold Hub.start
  dsimp only
  split
  · rename_i hrefused
    exact (hstarted.askGate hr _ .cancel fun _ => hs hrefused).2
  · exact hstarted

/-- The same move keeps two sessions alike. -/
theorem move (m : Move) (hasks : ∀ t, a.asked? m = some t → asked t) :
    Alike r (a.move m) (b.move m) := by
  cases m with
  | tick => exact h.tick hr
  | start s => exact h.start hr s fun hrefused => hasks _ (if_pos hrefused)
  | openGate g => exact h.openGate g
  | cancel t => exact h.cancelTask t
  | cancelGate t => exact (h.askGate hr t .cancel fun _ => hasks t rfl).2
  | release => exact h.releaseLease.2
  | comeIn s item => exact h.comeIn s item
  | connectElsewhere s client => exact (h.connectOn hr .closed s client).2

/-- The same moves keep two sessions alike, if any gate may be asked. -/
theorem run (moves : List Move) (hasks : ∀ t, asked t) : Alike r (a.run moves) (b.run moves) := by
  induction moves generalizing a b with
  | nil => exact h
  | cons m moves ih => exact ih (h.move hr m fun t _ => hasks t)

end Memories

end Alike

/-! ## One run -/

/-- A property of the memory that is kept by what is remembered and asked holds after a run. -/
theorem Hub.memory_run {P : Memory → Prop}
    (hrecord : ∀ m e, e.isNoAnswer → P m → P (m.record e))
    (hask : ∀ m t q, P m → P (m.ask t q).2) {h : Hub} (hstart : P h.memory) (moves : List Move) :
    P (h.run moves).memory := by
  have hlasts : Lasting (fun _ => True) fun m m' => m' = m ∧ P m := by
    constructor
    · rintro m m' e he ⟨rfl, hm⟩
      exact ⟨rfl, hrecord m' e he hm⟩
    · rintro m m' t q - ⟨rfl, hm⟩
      exact ⟨rfl, rfl, hask m' t q hm⟩
  have halike : Alike (fun m m' => m' = m ∧ P m) h h := ⟨h.memory, rfl, rfl, hstart⟩
  obtain ⟨-, -, -, hend⟩ := halike.run hlasts moves fun _ => trivial
  exact hend

/-- What has happened stays, whatever the moves. -/
theorem Hub.mem_history_run {h : Hub} {e : Event} (he : e ∈ h.history) (moves : List Move) :
    e ∈ (h.run moves).history :=
  Hub.memory_run (P := fun m => e ∈ m.history) (fun _ _ _ hm => List.mem_cons_of_mem _ hm)
    (fun _ _ _ hm => List.mem_cons_of_mem _ hm) he moves

end PlotStream
