import PlotStream.Value.Nesting

/-!
# Comparing values

Equality of any two values (`Value.equal`) and the order of a value and an integer (`Value.order`).
An array is compared item by item, so a comparison may have many outcomes (`Verdict`), and only one
with a single outcome is true or false.

A scalar or an array of a kind draws plain numbers into its kind: a number is rounded to a narrow
format before it is compared with a number of that format. That is coarser than the equality of
keys, for which two numbers are the same only if they are exactly equal.
-/

namespace PlotStream

/-- The outcome of a comparison. -/
inductive Verdict
  | single (b : Bool)
  /-- The outcomes for the items of an array. -/
  | each (bs : List Bool)
deriving DecidableEq, Repr

namespace Verdict

/-- Whether a verdict counts as true. -/
def truth : Verdict → Except Fault Bool
  | single b => .ok b
  | each [] => .error .emptyArrayTruth
  | each [b] => .ok b
  | each _ => .error .arrayTruth

/-- The opposite verdict. -/
def negate : Verdict → Verdict
  | single b => single !b
  | each bs => each (bs.map (!·))

end Verdict

/-- A number as two sides of a comparison see it: `kind?` is the kind of scalars and items of
arrays; plain numbers adapt. -/
structure Comparand where
  kind? : Option ElementKind
  item : Value

namespace Comparand

/-- The parts of a number, an integer as the nearest number. -/
def parts (c : Comparand) : Double × Double :=
  match c.item with
  | .bool b => (Double.ofInt (if b then 1 else 0), Double.zero)
  | .int n => (Double.ofInt n, Double.zero)
  | .float x => (x, Double.zero)
  | .complex re im => (re, im)
  | _ => (Double.nan, Double.nan)

/-- The format that a plain number is brought to next to a number of a kind; integers stay exact
next to integers. -/
def adapted? (kind : ElementKind) : Value → Option BinaryFormat
  | .int _ => kind.format?
  | .complex _ _ =>
    some (if kind = .float16 || kind = .float32 then BinaryFormat.binary32
      else kind.format?.getD BinaryFormat.binary64)
  | _ => some (kind.format?.getD BinaryFormat.binary64)

/-- The kind of a truth value is the same with and without a kind. -/
def settledKind? (c : Comparand) : Option ElementKind :=
  match c.kind?, c.item with
  | none, .bool _ => some .boolean
  | kind?, _ => kind?

/-- The format in which two numbers are compared; without one they are compared exactly. -/
def format? (a b : Comparand) : Option BinaryFormat :=
  if a.kind? = none ∧ b.kind? = none then none
  else
    match a.settledKind?, b.settledKind? with
    | some j, some k => if (j.join k) = .float64 && j.integer?.isSome && k.integer?.isSome then none
      else (j.join k).format?
    | some j, none => adapted? j b.item
    | none, some k => adapted? k a.item
    | none, none => none

/-- Compare two numbers part by part, in a format or exactly. -/
def compareBy (test : ExactNumber × ExactNumber → ExactNumber × ExactNumber → Bool)
    (a b : Comparand) : Bool :=
  match format? a b with
  | some fmt =>
    let exact := fun c : Comparand =>
      (ExactNumber.ofDouble (fmt.narrow c.parts.1), ExactNumber.ofDouble (fmt.narrow c.parts.2))
    test (exact a) (exact b)
  | none =>
    match a.item.number?, b.item.number? with
    | some x, some y => test x y
    | _, _ => false

/-- Equality of two numbers. -/
def same (a b : Comparand) : Bool :=
  compareBy (fun x y => x.1.same y.1 && x.2.same y.2) a b

end Comparand

/-- One side of a comparison item by item: items of a kind in some shape, or one plain number. -/
structure Operand where
  kind : ElementKind
  /-- Whether the side is a plain number, which adapts to the other side. -/
  plain : Bool
  shape : List Nat
  items : List Value

namespace Operand

/-- The kind that a leaf of nested data asks for. -/
def leafKind : Value → ElementKind
  | .bool _ => .boolean
  | .int n =>
    if fitsInteger true 64 n then .int64 else if fitsInteger false 64 n then .uint64 else .object
  | .float _ => .float64
  | .complex _ _ => .complex128
  | .text s => .text s.length
  | .bytes bs => .bytes bs.length
  | .scalar kind _ => kind
  | .array kind [] _ => kind
  | _ => .object

/-- The kind that all leaves of nested data meet in. -/
def commonKind : List Value → ElementKind
  | [] => .float64
  | v :: vs => vs.foldl (fun kind v => kind.join (leafKind v)) (leafKind v)

/-- Nested data as one side. -/
def ofNested (v : Value) : Except Fault Operand := do
  let shape ← v.nestedShape
  let leaves ← Value.fill .ok shape v
  let kind := commonKind leaves
  return ⟨kind, false, shape, ← leaves.mapM kind.cast⟩

/-- A value as one side. -/
def of (v : Value) : Except Fault Operand :=
  match v with
  | .array kind shape items => .ok ⟨kind, false, shape, items⟩
  | .scalar kind item => .ok ⟨kind, false, [], [item]⟩
  | .bool _ => .ok ⟨.boolean, false, [], [v]⟩
  | .int _ | .float _ | .complex _ _ => .ok ⟨leafKind v, true, [], [v]⟩
  | .text s => .ok ⟨.text s.length, false, [], [.text (unpadded s)]⟩
  | .bytes bs => .ok ⟨.bytes bs.length, false, [], [.bytes (unpaddedBytes bs)]⟩
  | .list _ | .tuple _ | .cyclicList => ofNested v
  | v => .ok ⟨.object, false, [], [v]⟩

/-- An item of a side as a number. -/
def comparand (o : Operand) (item : Value) : Comparand :=
  ⟨if o.plain then none else some o.kind, item⟩

/-- The axis lengths that two shapes with as many axes share. -/
def sharedShape (a b : List Nat) : List Nat :=
  List.zipWith (fun m n => if m = 1 then n else m) a b

/-- The items of two sides in pairs, axes of length one being repeated, and whether there are any
axes. -/
def pairs (a b : Operand) : Except Fault (Bool × List (Value × Value)) :=
  let axes := max a.shape.length b.shape.length
  let s := raised axes a.shape
  let t := raised axes b.shape
  let shape := sharedShape s t
  if fits shape s && fits shape t then
    .ok (!shape.isEmpty, (spread shape s a.items).zip (spread shape t b.items))
  else .error (.mismatchedShapes a.shape b.shape)

end Operand

namespace Value

mutual

/-- How deep values are nested. -/
def height : Value → Nat
  | list items => heightOfAll items + 1
  | tuple items => heightOfAll items + 1
  | array _ _ items => heightOfAll items + 1
  | literal v => v.height + 1
  | field v => v.height + 1
  | constant v => v.height + 1
  | model c args => c.height + heightOfPairs args + 3
  | glyph m s args => m.height + s.height + heightOfPairs args + 3
  | layout c args => c.height + heightOfPairs args + 3
  | glyphAttrs c pairs => c.height + heightOfPaths pairs + 4
  | figureAttrs pairs => heightOfPaths pairs + 4
  | _ => 1

/-- How deep the deepest of some values is nested. -/
def heightOfAll : List Value → Nat
  | [] => 0
  | v :: vs => max v.height (heightOfAll vs)

/-- How deep the deepest of some arguments is nested. -/
def heightOfPairs : List (Value × Value) → Nat
  | [] => 0
  | (k, v) :: es => max (max k.height v.height) (heightOfPairs es)

/-- How deep the deepest of some assignments is nested. -/
def heightOfPaths : List (List Value × Value) → Nat
  | [] => 0
  | (p, v) :: es => max (max (heightOfAll p) v.height) (heightOfPaths es)

end

/-- Arguments as one value. -/
def ofPairs (args : List (Value × Value)) : Value :=
  tuple (args.map fun (k, v) => tuple [k, v])

/-- The parts of a building block of a plot. -/
def blockParts? : Value → Option (List Value)
  | literal v | field v | constant v => some [v]
  | model c args | layout c args => some [c, ofPairs args]
  | glyph m s args => some [m, s, ofPairs args]
  | glyphAttrs c pairs => some [c, tuple (pairs.map fun (p, v) => tuple [tuple p, v])]
  | figureAttrs pairs => some [tuple (pairs.map fun (p, v) => tuple [tuple p, v])]
  | _ => Option.none

/-- Whether a value compares item by item whatever it meets. -/
def isArray : Value → Bool
  | array _ _ _ => true
  | _ => false

/-- Whether a value is a number with a kind. -/
def isNumericScalar : Value → Bool
  | scalar kind _ => kind.isNumeric
  | _ => false

/-- Whether a value is a list or tuple. -/
def isNested : Value → Bool
  | list _ | tuple _ | cyclicList => true
  | _ => false

/-- Whether two values are compared item by item: if one is an array, or one is a number of a kind
and the other a list or tuple. -/
def comparesItems (a b : Value) : Bool :=
  a.isArray || b.isArray || (a.isNumericScalar && b.isNested) || (b.isNumericScalar && a.isNested)

/-- A number as one side of a comparison. -/
def comparand (v : Value) : Comparand :=
  match v with
  | scalar kind item => ⟨some kind, item⟩
  | v => ⟨Option.none, v⟩

/-- Equality of two values without parts. -/
def atomSame (a b : Value) : Bool :=
  if a.number?.isSome && b.number?.isSome then a.comparand.same b.comparand else atomEqual a b

/-- Whether values are equal one by one; the first that differ settle it. -/
def allSame (same : Value → Value → Except Fault Bool) : List Value → List Value → Except Fault Bool
  | [], [] => .ok true
  | a :: as, b :: bs => do if ← same a b then allSame same as bs else return false
  | _, _ => .ok false

/-- Item by item, for two sides. -/
def sameItems (same : Value → Value → Except Fault Bool) (a b : Operand) : Except Fault Verdict := do
  let (hasAxes, pairs) ← a.pairs b
  let verdicts ← pairs.mapM fun (x, y) =>
    if a.kind = .object || b.kind = .object then same x y
    else if a.kind.isNumeric && b.kind.isNumeric then
      .ok ((a.comparand x).same (b.comparand y))
    else
      match x, y with
      | text s, text t => .ok (s == t)
      | bytes s, bytes t => .ok (s == t)
      | _, _ => .ok false
  if hasAxes then return .each verdicts else return .single (verdicts.all id)

/-- Equality of values nested no deeper than `depth`. An array comes first, whatever it meets. -/
def equalWithin : Nat → Value → Value → Except Fault Verdict
  | 0, _, _ => .ok (.single false)
  | depth + 1, a, b =>
    let same := fun x y => do (← equalWithin depth x y).truth
    if b.isArray && !a.isArray then do sameItems same (← Operand.of b) (← Operand.of a)
    else if a.comparesItems b then do sameItems same (← Operand.of a) (← Operand.of b)
    else
      match a, b with
      | tuple as, tuple bs => return .single (← allSame same as bs)
      | none, none => .ok (.single true)
      | a, b =>
        match a.blockParts?, b.blockParts? with
        | some as, some bs =>
          if a.typeName = b.typeName then return .single (← allSame same as bs)
          else .ok (.single false)
        | _, _ => .ok (.single (a.atomSame b))

/-- Equality of two values. -/
def equal (a b : Value) : Except Fault Verdict :=
  equalWithin (a.height + b.height) a b

end Value

/-- The two ways in which a value is compared with an integer. -/
inductive Order
  | atLeast
  | below
deriving DecidableEq, Repr

namespace Order

/-- The sign between a value and an integer behind it. -/
def sign : Order → String
  | atLeast => ">="
  | below => "<"

/-- The name of the comparison item by item. -/
def operation : Order → String
  | atLeast => "greater_equal"
  | below => "less"

/-- Order by the first part, then by the second. -/
def holds (o : Order) (x y : ExactNumber × ExactNumber) : Bool :=
  let ordered := x.2.same x.2 && y.2.same y.2
  match o with
  | atLeast => (y.1.le x.1 && !x.1.same y.1 && ordered) || (x.1.same y.1 && y.2.le x.2)
  | below =>
    (x.1.le y.1 && !x.1.same y.1 && ordered) || (x.1.same y.1 && x.2.le y.2 && !x.2.same y.2)

/-- Whether a number stands in an order to an integer. -/
def test (o : Order) (bound : Int) (c : Comparand) : Bool :=
  Comparand.compareBy o.holds c ⟨none, .int bound⟩

end Order

namespace Value

/-- A value without axes in its order to an integer. Pairs of numbers are ordered only if they have
a kind. -/
def atomOrder (o : Order) (bound : Int) (v : Value) : Except Fault Bool :=
  match v with
  | complex _ _ => .error (.incomparable o.sign "complex" "int")
  | v =>
    if v.number?.isSome then .ok (o.test bound v.comparand)
    else .error (.incomparable o.sign v.qualifiedTypeName "int")

mutual

/-- A value in its order to an integer. -/
def order (o : Order) (bound : Int) : Value → Except Fault Verdict
  | array .object shape items => return orderVerdict shape (← orderObjects o bound items)
  | array kind shape items =>
    if kind.isTextual then .error (.noLoop o.operation (dtypeClass kind))
    else .ok (orderVerdict shape (items.map fun item => o.test bound ⟨some kind, item⟩))
  | v => return .single (← v.atomOrder o bound)
where
  /-- The verdict of a comparison with an array. -/
  orderVerdict (shape : List Nat) (bs : List Bool) : Verdict :=
    if shape.isEmpty then .single (bs.all id) else .each bs
  /-- What the kind of an array of text or bytes is called. -/
  dtypeClass (kind : ElementKind) : String :=
    match kind with
    | .bytes _ => "BytesDType"
    | _ => "StrDType"

/-- The items of an array of any values in their order to an integer. -/
def orderObjects (o : Order) (bound : Int) : List Value → Except Fault (List Bool)
  | [] => return []
  | v :: vs => do
    let b ← (← v.order o bound).truth
    return b :: (← orderObjects o bound vs)

end

end Value

end PlotStream
