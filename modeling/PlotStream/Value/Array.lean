import PlotStream.Value.Nesting

/-!
# Making scalars and arrays

`Value.arrayOf` brings nested data to an array of a kind and `Value.scalarOf` a single value to a
scalar. Arrays keep their items in logical order, so a new shape keeps the items, and transposition
and striding rearrange them.
-/

namespace PlotStream

namespace Value

/-- The plain item of an array as an item of an array of any values. -/
def unboxed : Value → Value
  | scalar _ item => item
  | v => v

/-- The items of an array of any values: the leaves as they are, and the plain items of arrays
that are spread over several places. -/
def fillObjects : List Nat → Value → Except Fault (List Value)
  | [], v => .ok [v]
  | n :: shape, v =>
    match v with
    | list vs | tuple vs => do return (← vs.mapM (fillObjects shape)).flatten
    | cyclicList => fillObjects shape cyclicList
    | array kind own items =>
      fillArray (fun v => .ok (if kind = .object then v else v.unboxed)) (n :: shape) kind own items
    | v => .ok [v]

/-- An array of a kind from nested data. Text and bytes get the width that the longest item
needs. -/
def arrayOf (kind : ElementKind) (data : Value) : Except Fault Value := do
  match kind with
  | .object =>
    let shape := data.looseShape
    return array .object shape (← fillObjects shape data)
  | .text _ | .bytes _ =>
    let shape ← data.nestedShape
    let widths ← fill ElementKind.widthNeeded shape data
    let width := max 1 (widest widths)
    let kind := match kind with
      | .text _ => ElementKind.text width
      | _ => .bytes width
    return array kind shape (← fill kind.cast shape data)
  | kind =>
    let shape ← data.nestedShape
    return array kind shape (← fill kind.cast shape data)

/-- An octet, if a value is an integer that fits one. -/
def octet? : Value → Option UInt8
  | int n => if 0 ≤ n && n < 256 then some (UInt8.ofNat n.toNat) else Option.none
  | bool b => some (if b then 1 else 0)
  | _ => Option.none

/-- The bytes that a value means on its own: a count means so many zeros, and a list of octets those
octets. -/
def octets? : Value → Option (List UInt8)
  | bytes bs | scalar _ (bytes bs) => some bs
  | bool b => some (List.replicate (if b then 1 else 0) 0)
  | int n => if 0 ≤ n && n < Nat.pow 2 31 then some (List.replicate n.toNat 0) else Option.none
  | list items | tuple items => items.mapM octet?
  | _ => Option.none

/-- A scalar of a kind, or an array if the value has axes. A scalar of any value is the value
itself, and one of text is the text of the value. -/
def scalarOf (kind : ElementKind) (v : Value) : Except Fault Value := do
  match kind, v, v.octets? with
  | .text _, text s, _ | .text _, scalar (.text _) (text s), _ =>
    return scalar (.text s.length) (text s)
  | .text _, v, _ =>
    let s ← v.toText
    return scalar (.text s.length) (text s)
  | .bytes _, _, some bs => return scalar (.bytes bs.length) (bytes bs)
  | kind, v, _ =>
    match ← arrayOf kind v with
    | array kind [] [item] => return ofItem kind item
    | a => return a

/-- The axis lengths that a request for a shape means for a number of items; one length may be
left to be found. -/
def resolveShape (size : Nat) (shape : List Int) : Except Fault (List Nat) :=
  let known := itemCount ((shape.filter (0 ≤ ·)).map Int.toNat)
  let found := if known = 0 then 0 else size / known
  let lengths := shape.map fun n => if n < 0 then found else n.toNat
  if itemCount lengths = size then .ok lengths else .error (.notReshapable size shape)

/-- The same items under a new shape. -/
def reshape (shape : List Int) : Value → Except Fault Value
  | array kind _ items => return array kind (← resolveShape items.length shape) items
  | v => .ok v

/-- The positions of the items of an array of some shape when its axes are reversed. `strides` are
the distances of neighbours along the axes that remain to be placed, outermost last. -/
def reversedPositions : List Nat → List Nat → List Nat
  | n :: shape, stride :: strides =>
    (List.range n).flatMap fun i => (reversedPositions shape strides).map (i * stride + ·)
  | _, _ => [0]

/-- The distances of neighbours along each axis. -/
def strides : List Nat → List Nat
  | [] => []
  | _ :: shape => itemCount shape :: strides shape

/-- The array with its axes in reverse order. -/
def transpose : Value → Value
  | array kind shape items =>
    let positions := reversedPositions shape.reverse (strides shape).reverse
    let table := items.toArray
    array kind shape.reverse (positions.filterMap fun p => table[p]?)
  | v => v

/-- Every `step`-th item of a list, from its end backwards if the step is negative. -/
def everyNth {α : Type} (step : Int) (xs : List α) : List α :=
  let xs := if step < 0 then xs.reverse else xs
  (xs.zipIdx.filter fun x => x.2 % step.natAbs = 0).map Prod.fst

/-- Every `step`-th part of an array along its first axis. -/
def stride (step : Int) : Value → Except Fault Value
  | array _ [] _ => .error .tooManyIndices
  | array kind (n :: shape) items =>
    if step = 0 then .error .zeroStep
    else
      let kept := everyNth step (chunks (itemCount shape) n items)
      .ok (array kind (kept.length :: shape) kept.flatten)
  | v => .ok v

/-- `n` zeros. -/
def zeros (n : Nat) : Value :=
  ofColumn (List.replicate n Double.zero)

/-- The numbers 0, 1, …, `n - 1`. -/
def counting (n : Nat) : Value :=
  ofColumn ((List.range n).map fun i : Nat => Double.ofInt i)

end Value

end PlotStream
