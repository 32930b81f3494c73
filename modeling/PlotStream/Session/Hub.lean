import PlotStream.Session.Lease
import PlotStream.Session.Procedure
import PlotStream.Session.StreamGate
import PlotStream.Settings

/-!
# The state of the session

`Hub` is everything that tasks share: the current connection, the lease, the sockets with their
traffic, the gates, the tasks that are alive and the order in which they run. How the world outside
behaves (`World`) is given by functions, so nothing is assumed about which sends fail or have to
wait. What happens is recorded in `Hub.history`, the latest event first.
-/

namespace PlotStream

/-- How a socket behaves. What becomes of a send depends on the number of sends begun on the socket so
far and the number of frames that went out. -/
structure SocketPlan where
  /-- Why a connection is refused, by the number of times that the socket has been accepted before. -/
  refusal : Nat → Option Fault
  /-- The gate that has to be open before a send goes on. -/
  gate : Nat → Nat → Option GateId
  /-- Why a send fails. -/
  failure : Nat → Nat → Option Fault

/-- A socket that accepts everything at once. -/
def SocketPlan.ideal : SocketPlan :=
  ⟨fun _ => none, fun _ _ => none, fun _ _ => none⟩

/-- How the world outside behaves. -/
structure World where
  plan : SocketId → SocketPlan
  /-- The time, by the number of times it has been read before. -/
  clock : Nat → String
  environment : Environment
  /-- How deep calls may nest where plots and messages are written. -/
  room : Room

/-- What a browser sends. -/
inductive Incoming
  | text (s : String)
  | closed
  | failed (fault : Fault)

/-- The traffic of a socket. -/
structure Socket where
  accepted : Nat
  begun : Nat
  delivered : Nat
  inbox : List Incoming
  /-- The tasks that wait for something to come in. -/
  readers : List TaskId

/-- A socket without traffic. -/
def Socket.quiet : Socket := ⟨0, 0, 0, [], []⟩

/-- The connection plots are streamed over. -/
structure Connection where
  socket : SocketId
  client : Option String
  since : String
deriving DecidableEq, Repr

/-- The event loop that the last connection was accepted on. -/
inductive LoopState
  | absent
  | running
  | closed
deriving DecidableEq, Repr

/-- Who uses the lease once it is granted, and for what. -/
inductive Purpose
  /-- Keep the connection under a name. -/
  | keep (name : String)
  /-- Carry out some actions. -/
  | block (script : List Action)
  /-- Stream a group. -/
  | plot (group : Group) (gated : Bool)

/-- A holder of the lease: its connection and its purpose. -/
structure Holder where
  socket : SocketId
  purpose : Purpose

/-- Where a task stands when it does not run. -/
inductive Point
  | fresh (job : Job)
  /-- Waits in a plotting procedure, with the steps that remain. -/
  | building (call : PlotCall) (group : Group) (rest : List BuildStep)
  /-- Waits for the lease. -/
  | queued (purpose : Purpose)
  /-- Holds the lease and waits for a gate of its script. -/
  | pausing (holder : Holder) (rest : List Action)
  /-- Holds the lease and waits in a send. -/
  | sending (holder : Holder) (frame : Frame) (rest : List Action)
  /-- Waits in a send over a kept connection. -/
  | sendingKept (socket : SocketId) (frame : Frame)
  /-- Waits for something to come in. -/
  | receiving (socket : SocketId)
  /-- Waits in the send of a reply. -/
  | replying (socket : SocketId) (frame : Frame)

/-- A task that is alive. -/
structure Task where
  id : TaskId
  name : String
  point : Point
  /-- Whether it will find itself cancelled when it next runs. -/
  cancelled : Bool

/-- What can happen. -/
inductive Event
  /-- A frame went out; `leased` tells sends of the holder of the lease from other ones. -/
  | delivered (task : TaskId) (leased : Bool) (socket : SocketId) (frame : Frame)
  | sendFailed (task : TaskId) (leased : Bool) (socket : SocketId)
  /-- A streaming call begins, with the socket that is current then. -/
  | began (task : TaskId) (socket : Option SocketId)
  /-- The plotting procedure of a streaming call is called. -/
  | called (task : TaskId)
  | asked (task : TaskId)
  /-- The lease is granted, with the socket that is current then. -/
  | granted (task : TaskId) (socket : Option SocketId)
  | connected (c : Connection)
  /-- A socket did not let itself be connected. -/
  | refused (socket : SocketId) (fault : Fault)
  /-- A socket was given up, whether or not it was the current one. -/
  | dropped (socket : SocketId)
  | noted (leased : Bool)
  | logged (r : LogRecord)
  | started (task : TaskId) (name : String) (job : Job)
  /-- A task goes on; what follows is its doing until it waits or ends. -/
  | resumed (task : TaskId)
  | paused (task : TaskId)
  | ended (task : TaskId) (name : String) (outcome : Except Fault TaskResult)
  | gateAnswered (task : TaskId) (request : StreamGate.Request) (answer : Bool)

/-- The state that tasks share. -/
structure Hub where
  world : World
  current : Option Connection
  loop : LoopState
  lease : Lease
  sockets : List (SocketId × Socket)
  /-- The gates that are open. -/
  opened : List GateId
  /-- The tasks that wait for a gate, in order of arrival. -/
  atGates : List (GateId × TaskId)
  tasks : List Task
  /-- The tasks that can go on, in the order in which they will. -/
  ready : List TaskId
  /-- The latest task of each name. -/
  names : List (String × TaskId)
  /-- The connections that were acquired, by name. -/
  kept : List (String × SocketId)
  streamGates : List (TaskId × StreamGate)
  settings : Option Settings
  nextTask : TaskId
  clockReadings : Nat
  history : List Event

namespace Hub

/-- Nothing has happened yet. -/
def initial (world : World) : Hub :=
  { world, current := none, loop := .absent, lease := .free, sockets := [], opened := []
    atGates := [], tasks := [], ready := [], names := [], kept := [], streamGates := []
    settings := none, nextTask := 0, clockReadings := 0, history := [] }

variable (h : Hub)

/-- Record an event. -/
def record (e : Event) : Hub :=
  { h with history := e :: h.history }

/-- Write a log record. -/
def log (r : LogRecord) : Hub :=
  h.record (.logged r)

/-- The traffic of a socket. -/
def socket (s : SocketId) : Socket :=
  (h.sockets.lookup s).getD .quiet

/-- Replace the traffic of a socket. -/
def setSocket (s : SocketId) (x : Socket) : Hub :=
  { h with sockets := (s, x) :: h.sockets.filter (·.1 ≠ s) }

/-- Read the clock. -/
def readClock : String × Hub :=
  (h.world.clock h.clockReadings, { h with clockReadings := h.clockReadings + 1 })

/-- Let a task run after those that are ready. -/
def makeReady (t : TaskId) : Hub :=
  { h with ready := h.ready ++ [t] }

/-- Let a task run, if there is one. -/
def makeReady? : Option TaskId → Hub
  | some t => h.makeReady t
  | none => h

/-! ## The current connection -/

/-- Make a socket the current connection, unless it is refused. `loop` is the event loop on which
this happens. -/
def connectOn (loop : LoopState) (s : SocketId) (client : Option String) :
    Except Fault Unit × Hub :=
  match (h.world.plan s).refusal (h.socket s).accepted with
  | some fault => (.error fault, h.record (.refused s fault))
  | none =>
    let x := h.socket s
    let h := h.setSocket s { x with accepted := x.accepted + 1 }
    let h :=
      match h.current with
      | some c => if c.socket ≠ s then h.log (.replacing c.client client) else h
      | none => h
    let (now, h) := h.readClock
    let c : Connection := ⟨s, client, now⟩
    let h := { h with current := some c, loop }
    (.ok (), (h.record (.connected c)).log (.connected client))

/-- Make a socket the current connection. -/
def connect (s : SocketId) (client : Option String) : Except Fault Unit × Hub :=
  h.connectOn .running s client

/-- Give up a socket; the session ends only if it was the current one. -/
def disconnect (s : SocketId) : Hub :=
  let h := h.record (.dropped s)
  match h.current with
  | some c =>
    if c.socket = s then { h with current := none }.log (.disconnected c.client) else h
  | none => h

/-- Whether a browser is connected. -/
def isActive : Bool :=
  h.current.isSome

/-- The current connection. -/
def connection : Except Fault SocketId :=
  match h.current with
  | some c => .ok c.socket
  | none => .error .noActiveSession

/-! ## Waiting -/

/-- Let a task wait for a gate. -/
def waitAt (g : GateId) (t : TaskId) : Hub :=
  { h with atGates := h.atGates ++ [(g, t)] }

/-- Whether a gate is open. -/
def isOpen (g : GateId) : Bool :=
  h.opened.contains g

/-- Open a gate and let everyone who waits there go on, in order of arrival. -/
def openGate (g : GateId) : Hub :=
  let through := (h.atGates.filter (·.1 = g)).map Prod.snd
  { h with
    opened := if h.isOpen g then h.opened else g :: h.opened
    atGates := h.atGates.filter (·.1 ≠ g)
    ready := h.ready ++ through }

/-- Give the lease back and let the first in the queue go on. -/
def releaseLease : Except Fault Unit × Hub :=
  match h.lease.release with
  | .ok (next, lease) => (.ok (), { h with lease }.makeReady? next)
  | .error fault => (.error fault, h)

/-- A cancelled waiter leaves the queue of the lease. -/
def abandonLease (t : TaskId) : Hub :=
  let (next, lease) := h.lease.abandon t
  { h with lease }.makeReady? next

/-! ## Sending -/

/-- Begin a send: the gate it has to wait for, if that is closed. -/
def beginSend (s : SocketId) : Option GateId × Hub :=
  let x := h.socket s
  let gate := (h.world.plan s).gate x.begun x.delivered
  (gate.filter fun g => !h.isOpen g, h.setSocket s { x with begun := x.begun + 1 })

/-- Complete a send, which may fail. -/
def deliver (t : TaskId) (leased : Bool) (s : SocketId) (f : Frame) : Except Fault Unit × Hub :=
  let x := h.socket s
  match (h.world.plan s).failure x.begun x.delivered with
  | some fault => (.error fault, h.record (.sendFailed t leased s))
  | none =>
    (.ok (), (h.setSocket s { x with delivered := x.delivered + 1 }).record (.delivered t leased s f))

/-- Complete a send over a connection handed out by the session. When it fails the socket is given
up. -/
def deliverHandedOut (t : TaskId) (leased : Bool) (s : SocketId) (f : Frame) :
    Except Fault Unit × Hub :=
  match h.deliver t leased s f with
  | (.ok (), h) => (.ok (), h)
  | (.error fault, h) =>
    (.error (.sendFailed f.kindName fault.message), (h.log (.sendError f fault)).disconnect s)

/-! ## Stream gates -/

/-- The stream gate of a task. -/
def streamGate (t : TaskId) : StreamGate :=
  (h.streamGates.lookup t).getD .fresh

/-- Ask the stream gate of a task. -/
def askGate (t : TaskId) (r : StreamGate.Request) : Bool × Hub :=
  let (answer, g) := (h.streamGate t).ask r
  let h := { h with streamGates := (t, g) :: h.streamGates.filter (·.1 ≠ t) }
  (answer, h.record (.gateAnswered t r answer))

end Hub

end PlotStream
