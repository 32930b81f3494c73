import PlotStream.Session.Command

/-!
# Runs of a session

A run is a sequence of moves: either the first task that is ready goes on, or something is done from
outside. Nothing is assumed about the order, so that a run may cancel a task, ask its stream gate or
open a gate between any two ticks. A state is reachable when some run leads to it.
-/

namespace PlotStream

/-- One move of a run. -/
inductive Move
  /-- The first task that is ready goes on. -/
  | tick
  | start (s : Start)
  | openGate (gate : GateId)
  | cancel (task : TaskId)
  /-- Ask whether a streaming call can still be cancelled. -/
  | cancelGate (task : TaskId)
  /-- Give the lease back, whoever holds it. -/
  | release
  | comeIn (socket : SocketId) (item : Incoming)
  /-- Connect on another event loop, which is closed afterwards. -/
  | connectElsewhere (socket : SocketId) (client : Option String)

namespace Hub

/-- The state after a move. -/
def move (h : Hub) : Move → Hub
  | .tick => h.tick
  | .start s => h.start s
  | .openGate g => h.openGate g
  | .cancel t => (h.cancelTask t).2
  | .cancelGate t => (h.askGate t .cancel).2
  | .release => h.releaseLease.2
  | .comeIn s item => h.comeIn s item
  | .connectElsewhere s client => (h.connectOn .closed s client).2

/-- The state after a run. -/
def run (h : Hub) (moves : List Move) : Hub :=
  moves.foldl Hub.move h

/-- Whether a run leads to a state from the beginning. -/
def Reachable (world : World) (h : Hub) : Prop :=
  ∃ moves : List Move, (Hub.initial world).run moves = h

end Hub

end PlotStream
