import PlotStream.Fault
import PlotStream.Value.Equality

/-!
# Taking values apart

The items that a value yields when it is gone through, and the pairs expected in named arguments. A
value may yield some items and then fail, so `Items` keeps both: the items before, and the fault
that ends them.
-/

namespace PlotStream

/-- Items one after the other, and the fault that follows them, if any. -/
structure Items where
  items : List Value
  fault? : Option Fault

namespace Items

/-- Items that end without a fault. -/
def of (items : List Value) : Items := ⟨items, none⟩

/-- No item at all but a fault. -/
def fail (f : Fault) : Items := ⟨[], some f⟩

/-- Apply a function to the items in turn; the first fault wins. -/
def mapM {α : Type} (f : Value → Except Fault α) (i : Items) : Except Fault (List α) := do
  let out ← i.items.mapM f
  match i.fault? with
  | some fault => .error fault
  | none => .ok out

end Items

namespace Value

/-- An item of an array as a value of its own. -/
def ofItem (kind : ElementKind) (item : Value) : Value :=
  match kind, item with
  | .object, v => v
  | .text _, text s => scalar (.text s.length) (text s)
  | .bytes _, bytes bs => scalar (.bytes bs.length) (bytes bs)
  | kind, v => scalar kind v

/-- The parts of an array along its first axis. -/
def parts (kind : ElementKind) (shape : List Nat) (items : List Value) : List Value :=
  match shape with
  | [] => []
  | [_] => items.map (ofItem kind)
  | n :: rest => (chunks (itemCount rest) n items).map (array kind rest)

/-- Text as one value per character. -/
def letters (codes : List Nat) : List Value :=
  codes.map fun c => ofCodes [c]

/-- Bytes as integers. -/
def octets (bs : List UInt8) : List Value :=
  bs.map fun b => int b.toNat

/-- A column as an array. -/
def ofColumn (c : Column) : Value :=
  array .float64 [c.length] (c.map float)

/-- The columns named 0, 1, … of a source: the first number that is no name ends them. -/
def numberedColumns (columns : Entries Column) : Nat → Nat → Items
  | 0, k => Items.fail (.missingKey (toString k))
  | fuel + 1, k =>
    match columns.get? (int k) with
    | some c =>
      let rest := numberedColumns columns fuel (k + 1)
      ⟨ofColumn c :: rest.items, rest.fault?⟩
    | Option.none => Items.fail (.missingKey (toString k))

/-- The items a value yields, or why it yields none; `refusal` is the fault of a value without
items. -/
def itemsOr (refusal : String → Fault) : Value → Items
  | text s | scalar (.text _) (text s) => Items.of (letters (s.toList.map Char.toNat))
  | torn codes => Items.of (letters codes)
  | bytes bs | scalar (.bytes _) (bytes bs) => Items.of (octets bs)
  | list items | tuple items | set items => Items.of items
  | dict entries => Items.of (Entries.keys entries)
  | cyclicList => Items.of [cyclicList]
  | cyclicDict => Items.of [text "self"]
  | array _ [] _ => Items.fail .arrayWithoutAxes
  | array kind shape items => Items.of (parts kind shape items)
  | source columns => numberedColumns columns columns.length 0
  | v => Items.fail (refusal v.qualifiedTypeName)

/-- The items a value yields. -/
def items (v : Value) : Items :=
  v.itemsOr .notIterable

/-- The two items of a pair. -/
def pair (v : Value) : Except Fault (Value × Value) :=
  match v.itemsOr .notUnpackable with
  | ⟨_ :: _ :: _ :: _, _⟩ => .error .tooManyItems
  | ⟨_, some fault⟩ => .error fault
  | ⟨[a, b], Option.none⟩ => .ok (a, b)
  | ⟨items, Option.none⟩ => .error (.tooFewItems items.length)

end Value

end PlotStream
