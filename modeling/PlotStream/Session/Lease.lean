import PlotStream.Fault

/-!
# The lease

Exclusive use of the connection. Whoever finds the lease free and nobody in the queue takes it at
once; everyone else queues. Giving it back wakes the first in the queue, who takes the lease when it
next runs; until then the lease is free but out of reach of newcomers. A waiter that is cancelled
stays in the queue until it runs, and then passes on the turn it may have been given.
-/

namespace PlotStream

/-- A task, by the order in which tasks were started. -/
abbrev TaskId := Nat

/-- How a place in the queue stands. -/
inductive Waiting
  | pending
  | woken
  | cancelled
deriving DecidableEq, Repr

/-- Whether the lease is held, and who waits for it, in order of arrival. -/
structure Lease where
  held : Bool
  queue : List (TaskId × Waiting)
deriving DecidableEq, Repr

namespace Lease

/-- Nobody holds the lease and nobody waits. -/
def free : Lease := ⟨false, []⟩

variable (l : Lease)

/-- Whether a newcomer gets the lease without waiting. -/
def isOpen : Bool :=
  !l.held && l.queue.all (·.2 == .cancelled)

/-- Take the lease. -/
def take : Lease := { l with held := true }

/-- Join the queue. -/
def enqueue (t : TaskId) : Lease :=
  { l with queue := l.queue ++ [(t, .pending)] }

/-- Leave the queue. -/
def dequeue (t : TaskId) : Lease :=
  { l with queue := l.queue.filter (·.1 ≠ t) }

/-- Wake the first in the queue, unless its wait is over already. -/
def wake : Option TaskId × Lease :=
  match l.queue with
  | (t, .pending) :: rest => (some t, { l with queue := (t, .woken) :: rest })
  | _ => (none, l)

/-- Give the lease back and wake the first in the queue. -/
def release : Except Fault (Option TaskId × Lease) :=
  if l.held then .ok { l with held := false }.wake else .error .leaseNotHeld

/-- Mark a waiter whose turn has not come as cancelled. -/
def cancel (t : TaskId) : Lease :=
  { l with queue := l.queue.map fun w => if w = (t, .pending) then (t, .cancelled) else w }

/-- A cancelled waiter leaves, and passes on the turn when the lease is free. -/
def abandon (t : TaskId) : Option TaskId × Lease :=
  if l.held then (none, l.dequeue t) else (l.dequeue t).wake

end Lease

end PlotStream
