import PlotStream.Value.Cast

/-!
# Nested data as arrays

Nested lists, tuples and arrays are read as one array. A first pass goes through the nesting, depth
first, and settles the axis lengths: the first way down fixes them, and every later one has to agree
(`Nesting.visit`). The second pass (`Value.fill`) brings the leaves to their items, and arrays among
the data are fitted to the place they stand in. Data deeper than 64 axes, or of uneven lengths, is
refused, unless its items may be any values: then the axes end where the lengths stop agreeing.
-/

namespace PlotStream

/-- The greatest number of axes. -/
def axisLimit : Nat := 64

/-- What is known of the axes on the way through nested data. -/
structure Nesting where
  /-- The number of axes, as far as no leaf has been found on a higher level. -/
  depth : Nat
  /-- The axis lengths found so far. -/
  lengths : List Nat
  /-- Whether the first way down has ended, so that `lengths` is settled. -/
  settled : Bool
  /-- Whether lengths or depths disagreed. -/
  ragged : Bool

namespace Nesting

/-- Nothing is known. -/
def start : Nesting :=
  ⟨axisLimit, List.replicate axisLimit 0, false, false⟩

/-- Compare lengths with the settled ones, from a level on: the number of axes that agree. -/
def agreement (known : List Nat) : List Nat → Nat → Nat
  | [], _ => 0
  | n :: ns, level => if known.getD level 0 = n then agreement known ns (level + 1) + 1 else 0

/-- Write lengths from a level on. -/
def record (known : List Nat) : List Nat → Nat → List Nat
  | [], _ => known
  | n :: ns, level => record (known.set level n) ns (level + 1)

/-- Take in the lengths found at a level. `open` says that more levels may follow below, as for a
list; a leaf or an array ends the way down. -/
def meet (s : Nesting) (level : Nat) (found : List Nat) (more : Bool) : Nesting :=
  let tooDeep := s.depth < level + found.length
  let shown := if tooDeep then found.take (s.depth - level) else found
  let shrinks := !tooDeep && !more && s.depth != level + found.length
  let depth := if shrinks then level + found.length else s.depth
  let uneven := tooDeep || (shrinks && s.settled)
  let agreed := agreement s.lengths shown level
  let clash := s.settled && agreed < shown.length
  { depth :=
      if !clash then depth
      else if more then level
      else depth - (shown.length - agreed)
    lengths := if s.settled then s.lengths else record s.lengths shown level
    settled := s.settled || !more
    ragged := s.ragged || uneven || clash }

/-- Whether taking in the lengths found a disagreement. -/
def fails (s : Nesting) (level : Nat) (found : List Nat) (more : Bool) : Bool :=
  ({ s with ragged := false }.meet level found more).ragged

/-- A list that contains itself goes down until the levels are used up. -/
def visitCycle (s : Nesting) : Nat → Nat → Nesting
  | 0, _ => s
  | fuel + 1, level =>
    if s.fails level [1] true then s.meet level [1] true
    else visitCycle (s.meet level [1] true) fuel (level + 1)

mutual

/-- Go through a value that stands at a level. -/
def visit (s : Nesting) (level : Nat) : Value → Nesting
  | .list items => visitSequence s level items
  | .tuple items => visitSequence s level items
  | .cyclicList => s.visitCycle (axisLimit + 1) level
  | .array _ shape _ => s.meet level shape false
  | _ => s.meet level [] false

/-- Go through a list or tuple. An empty one is the last level. -/
def visitSequence (s : Nesting) (level : Nat) : List Value → Nesting
  | [] =>
    if s.fails level [0] true then s.meet level [0] true
    else { s.meet level [0] true with depth := level + 1, settled := true }
  | v :: vs =>
    let found := [vs.length + 1]
    if s.fails level found true then s.meet level found true
    else visitAll (visit (s.meet level found true) (level + 1) v) (level + 1) vs

/-- Go through the values that stand side by side at a level. -/
def visitAll (s : Nesting) (level : Nat) : List Value → Nesting
  | [] => s
  | v :: vs => visitAll (visit s level v) level vs

end

end Nesting

/-- The items of an array in a shape that the array's own shape fits: an axis of length one is
repeated, and so is an axis that is missing in front. Both shapes have the same number of axes. -/
def spread {α : Type} : List Nat → List Nat → List α → List α
  | n :: target, m :: shape, items =>
    let parts := chunks (itemCount shape) m items
    let parts := if m = n then parts else (List.replicate n parts).flatten
    parts.flatMap (spread target shape)
  | _, _, items => items

/-- A shape with axes of length one in front, up to a number of axes. -/
def raised (axes : Nat) (shape : List Nat) : List Nat :=
  List.replicate (axes - shape.length) 1 ++ shape

/-- A shape without axes of length one in front that are more than a number of axes. -/
def lowered (axes : Nat) : List Nat → List Nat
  | n :: shape => if axes ≤ shape.length && n = 1 then lowered axes shape else n :: shape
  | [] => []

/-- Whether a shape fits another of as many axes. -/
def fits (target shape : List Nat) : Bool :=
  shape.length = target.length && (target.zip shape).all fun (n, m) => m = n || m = 1

namespace Value

/-- The axis lengths of nested data. -/
def nestedShape (v : Value) : Except Fault (List Nat) :=
  let s := Nesting.start.visit 0 v
  let shape := s.lengths.take s.depth
  if !s.ragged then .ok shape
  else if s.depth = axisLimit then .error .tooManyAxes
  else .error (.raggedShape shape)

/-- The axis lengths of nested data as far as they agree. -/
def looseShape (v : Value) : List Nat :=
  let s := Nesting.start.visit 0 v
  s.lengths.take s.depth

/-- The items of an array that is put in a place of some shape. -/
def fillArray {α : Type} (item : Value → Except Fault α) (target : List Nat)
    (kind : ElementKind) (shape : List Nat) (items : List Value) : Except Fault (List α) := do
  let shape := lowered target.length shape
  if fits target (raised target.length shape) then
    (spread target (raised target.length shape) items).mapM fun v => item (ofItem kind v)
  else throw (.unbroadcastable shape target)

/-- Nested data of some shape as items, each made from a leaf. -/
def fill {α : Type} (item : Value → Except Fault α) : List Nat → Value → Except Fault (List α)
  | [], v => return [← item v]
  | n :: shape, v =>
    match v with
    | list vs | tuple vs => do return (← vs.mapM (fill item shape)).flatten
    | cyclicList => fill item shape cyclicList
    | array kind own items => fillArray item (n :: shape) kind own items
    | v => return [← item v]

/-- Nested data as one column of numbers. -/
def toColumn (v : Value) : Except Fault Column := do
  fill toReal (← v.nestedShape) v

end Value

end PlotStream
