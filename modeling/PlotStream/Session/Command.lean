import PlotStream.Session.Run

/-!
# Commands

What can be done to a session from outside: start tasks, open gates, cancel tasks, let something
come in on a socket, give back a lease, look at the state, and stream from a thread of its own.
`Hub.perform` carries out one command and lets no task run; `Hub.command` lets them run afterwards
until none can go on.
-/

namespace PlotStream

/-- What the session looks like from outside. -/
structure Status where
  active : Bool
  client : Option String
  since : Option String
  streaming : Bool
deriving DecidableEq, Repr

/-- A task to start. -/
structure Start where
  name : String
  job : Job
  /-- Whether its stream gate refuses it from the start. -/
  refused : Bool

/-- Something done from outside. -/
inductive Command
  | start (tasks : List Start)
  | openGate (gate : GateId)
  | cancel (name : String)
  | release
  | isActive
  | isLeased
  | connection
  | status
  | loop
  | accepted (socket : SocketId)
  | incoming (socket : SocketId) (item : Incoming)
  /-- Connect on an event loop that is closed afterwards. -/
  | connectOnClosedLoop (socket : SocketId) (client : Option String)
  /-- Stream from a thread of its own, or from the thread of the event loop. -/
  | plotBlocking (call : PlotCall) (timed : Bool) (onLoop : Bool)

/-- What a command answers. -/
inductive CommandAnswer
  | nothing
  | truth (b : Bool)
  | count (n : Nat)
  | socket (s : SocketId)
  | status (s : Status)
  | loop (l : LoopState)
  | outcome (r : Except Fault Bool)

namespace Hub

variable (h : Hub)

/-- What the session looks like from outside. -/
def status : Status :=
  ⟨h.isActive, h.current.bind (·.client), h.current.map (·.since), h.lease.held⟩

/-- Start a task; it does not run yet. -/
def start (s : Start) : Hub :=
  let t := h.nextTask
  let h := { h with
    nextTask := t + 1
    tasks := h.tasks ++ [Task.mk t s.name (.fresh s.job) false]
    ready := h.ready ++ [t]
    names := (s.name, t) :: h.names }
  let h := h.record (.started t s.name s.job)
  if s.refused then (h.askGate t .cancel).2 else h

/-- Cancel a task: it stops waiting and finds itself cancelled when it next runs. -/
def cancelTask (t : TaskId) : Bool × Hub :=
  match h.task? t with
  | none => (false, h)
  | some _ =>
    let h := { h with
      tasks := h.tasks.map fun task => if task.id = t then { task with cancelled := true } else task
      atGates := h.atGates.filter (·.2 ≠ t)
      lease := h.lease.cancel t }
    (true, if h.ready.contains t then h else h.makeReady t)

/-- Cancel the latest task of a name. -/
def cancelNamed (name : String) : Bool × Hub :=
  match h.names.lookup name with
  | some t => h.cancelTask t
  | none => (false, h)

/-- Let something come in on a socket, and let the first reader go on. -/
def comeIn (s : SocketId) (item : Incoming) : Hub :=
  let x := h.socket s
  let h := h.setSocket s { x with inbox := x.inbox ++ [item], readers := x.readers.drop 1 }
  h.makeReady? x.readers.head?

/-- The settings, which are read once. -/
def readSettings : Except Fault Settings × Hub :=
  let (answer, settings) := Settings.cached h.settings h.world.environment
  (answer, { h with settings })

/-- How a task ended, if it did. -/
def outcome? (t : TaskId) : Option (Except Fault TaskResult) :=
  h.history.findSome? fun
    | .ended t' _ outcome => if t' = t then some outcome else none
    | _ => none

/-- The answer of a streaming call that ended. -/
def plotOutcome : Except Fault TaskResult → Except Fault Bool
  | .ok (.truth b) => .ok b
  | .ok _ => .ok false
  | .error fault => .error fault

/-- The time for a streaming call is over: it is cancelled if it has not begun to stream, and goes on
otherwise. -/
def giveUpWaiting (t : TaskId) (group : Value) : Hub :=
  match h.askGate t .cancel with
  | (true, h) => ((h.cancelTask t).2.settle).log (.timedOutBefore group)
  | (false, h) => h.log (.timedOutWhile group)

/-- Stream from a thread of its own and wait for the end. A call that cannot go on by itself runs
out of time. -/
def plotFromThread (call : PlotCall) : Except Fault Bool × Hub :=
  let t := h.nextTask
  let h := (h.start ⟨"", .plot call, false⟩).settle
  match h.outcome? t with
  | some outcome => (plotOutcome outcome, h)
  | none => (.error .timedOut, h.giveUpWaiting t call.groupId)

/-- Stream and wait for the end. Without an event loop there is no browser; on the thread of the
event loop waiting is refused; without a time limit the settings have to give one. -/
def plotBlocking (call : PlotCall) (timed onLoop : Bool) : Except Fault Bool × Hub :=
  match h.loop with
  | .running =>
    if onLoop then (.error .wouldBlock, h)
    else if timed then h.plotFromThread call
    else
      match h.readSettings with
      | (.ok _, h) => h.plotFromThread call
      | (.error fault, h) => (.error fault, h)
  | _ => (.ok false, h.log (.noSession call.groupId))

/-- Carry out a command. -/
def perform : Command → Except Fault CommandAnswer × Hub
  | .start tasks => (.ok .nothing, tasks.foldl Hub.start h)
  | .openGate g => (.ok .nothing, h.openGate g)
  | .cancel name => let (b, h) := h.cancelNamed name; (.ok (.truth b), h)
  | .release =>
    match h.releaseLease with
    | (.ok (), h) => (.ok .nothing, h)
    | (.error fault, h) => (.error fault, h)
  | .isActive => (.ok (.truth h.isActive), h)
  | .isLeased => (.ok (.truth h.lease.held), h)
  | .connection => (h.connection.map CommandAnswer.socket, h)
  | .status => (.ok (.status h.status), h)
  | .loop => (.ok (.loop h.loop), h)
  | .accepted s => (.ok (.count (h.socket s).accepted), h)
  | .incoming s item => (.ok .nothing, h.comeIn s item)
  | .connectOnClosedLoop s client =>
    match h.connectOn .closed s client with
    | (.ok (), h) => (.ok .nothing, h)
    | (.error fault, h) => (.error fault, h)
  | .plotBlocking call timed onLoop =>
    let (outcome, h) := h.plotBlocking call timed onLoop
    (.ok (.outcome outcome), h)

/-- Carry out a command and let tasks run until none can go on. -/
def command (c : Command) : Except Fault CommandAnswer × Hub :=
  let (answer, h) := h.perform c
  (answer, h.settle)

end Hub

end PlotStream
