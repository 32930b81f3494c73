/-!
# Stream gates

A gate settles whether a streaming call may still be cancelled. Once streaming has started the call
can no longer be cancelled, and once cancelled it never starts streaming.
-/

namespace PlotStream

/-- The state of a gate. -/
inductive StreamGate
  | fresh
  | started
  | cancelled
deriving DecidableEq, Repr

namespace StreamGate

/-- Ask to start streaming: whether it may, and the new state. -/
def start : StreamGate → Bool × StreamGate
  | cancelled => (false, cancelled)
  | _ => (true, started)

/-- Ask to cancel the call: whether it is cancelled, and the new state. -/
def cancel : StreamGate → Bool × StreamGate
  | started => (false, started)
  | _ => (true, cancelled)

/-- The two requests. -/
inductive Request
  | start
  | cancel
deriving DecidableEq, Repr

/-- Answer a request. -/
def ask (g : StreamGate) : Request → Bool × StreamGate
  | .start => g.start
  | .cancel => g.cancel

/-- Answer requests in turn. -/
def askAll (g : StreamGate) : List Request → List Bool
  | [] => []
  | r :: rs =>
    let (answer, g) := g.ask r
    answer :: askAll g rs

end StreamGate

end PlotStream
