import PlotStream.Plot.Builder
import PlotStream.Session.Records

/-!
# What tasks do

The work of a task, as data: plotting procedures are lists of steps on a group, and what is done
under the lease is a list of actions. `Group.script` is the list for a whole group: the announcement
of the data size, then for each window its columns, a log record and the message that shows it. A
window that does not compile ends the script after its columns.
-/

namespace PlotStream

/-- A connection to a browser, by name. -/
abbrev SocketId := String

/-- Something that opens once and stays open. -/
abbrev GateId := String

/-- One step of a plotting procedure. -/
inductive BuildStep
  | call (c : BuilderCall)
  | inspect (question : Inspection)
  | fail (fault : Fault)
  /-- Note whether the lease is held. -/
  | noteLeased
  | await (gate : GateId)
  | connect (socket : SocketId) (client : Option String)
  | disconnect (socket : SocketId)

/-- One action under the lease. -/
inductive Action
  | send (frame : Frame)
  | await (gate : GateId)
  | log (r : LogRecord)
  | fail (fault : Fault)

/-- A streaming call: the group it fills, its procedure, and whether a stream gate guards it. -/
structure PlotCall where
  groupId : Value
  build : List BuildStep
  gated : Bool

/-- What a task is started for. -/
inductive Job
  | connect (socket : SocketId) (client : Option String)
  | disconnect (socket : SocketId)
  | acquire
  | send (connection : String) (frame : Frame)
  | lease (script : List Action)
  | handle (text : String)
  | plot (call : PlotCall)
  | endpoint (socket : SocketId) (client : Option String)

/-- What a task comes to. -/
inductive TaskResult
  | nothing
  | truth (b : Bool)
  | socket (name : SocketId)
  | reply (text : Option String)
deriving DecidableEq, Repr

/-- The action that sends a text, if there is one. -/
def Action.sendText : Except Fault String → Action
  | .ok s => send (.text s)
  | .error fault => fail fault

/-- The frames of a window as actions. -/
def Window.script (room : Room) (w : Window) : List Action :=
  w.columnFrames.map Action.send ++
    match Code.ofWindow room.calls w with
    | .ok code => [.log (.windowReady w code), .sendText ((w.message code).toJson room.calls)]
    | .error fault => [.fail fault]

/-- The frames of a group as actions. -/
def Group.script (room : Room) (g : Group) : List Action :=
  .sendText (g.announcement room) :: g.windows.flatMap (Window.script room)

end PlotStream
