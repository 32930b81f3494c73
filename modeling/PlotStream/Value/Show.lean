import PlotStream.Fault
import PlotStream.Number.Column
import PlotStream.Text.Rows
import PlotStream.Value

/-!
# Values as text

`Value.repr` writes a value so that its type can be seen: text is quoted, scalars and arrays carry
their kind. `Value.toText` writes text bare and scalars and arrays without their kind, and
`Value.interpolate` is the form a value takes inside other text, where a narrow number is written
with all the digits of its exact value. The items of an array are aligned and broken into lines; of
an array with more than a thousand items only the first and last three parts of each axis are shown.
An integer of more than 4300 digits has no text at all.
-/

namespace PlotStream

/-- The greatest number of digits an integer is written or read with. -/
def digitLimit : Nat := 4300

/-- The text of an integer. -/
def integerText (n : Int) : Except Fault String :=
  if Nat.pow 10 digitLimit ≤ n.natAbs then .error .tooManyDigits
  else .ok (String.ofList (intText n))

/-- The text of a complex number of a format. A real part of positive zero is left out. -/
def complexTextIn (fmt : BinaryFormat) (re im : Double) : List Char :=
  let part := (NumberLayout.ofFormat fmt).bare.text fmt
  if re = Double.zero then part im ++ ['j']
  else
    let sign := if im.isNegative && !im.isNaN then [] else ['+']
    '(' :: part re ++ sign ++ part im ++ ['j', ')']

/-- The text of a complex number. -/
def complexText (re im : Double) : String :=
  String.ofList (complexTextIn BinaryFormat.binary64 re im)

/-- Items between brackets. -/
def bracketed (opening : String) (items : List String) (closing : String) : String :=
  opening ++ ", ".intercalate items ++ closing

/-- A tuple of written items: a single one is followed by a comma. -/
def tupleText : List String → String
  | [item] => "(" ++ item ++ ",)"
  | items => bracketed "(" items ")"

/-- The word for a truth value. -/
def boolText (b : Bool) : String :=
  if b then "True" else "False"

namespace Value

/-- The text of a value that holds no other values. -/
def atomText : Value → Except Fault String
  | none => .ok "None"
  | bool b => .ok (boolText b)
  | int n => integerText n
  | float x => .ok (String.ofList x.text)
  | text s => .ok (Text.quoted s)
  | torn codes => .ok (Text.quotedCodes codes)
  | bytes bs => .ok (Text.quotedBytes bs)
  | complex re im => .ok (complexText re im)
  | _ => .ok ""

/-- The text of the item of a scalar of some kind. -/
def itemText (kind : ElementKind) (item : Value) : Except Fault String :=
  match kind.format?, item with
  | some fmt, float x => .ok (String.ofList (x.textIn fmt))
  | some fmt, complex re im => .ok (String.ofList (complexTextIn fmt re im))
  | _, text s => .ok (Text.quoted (unpadded s))
  | _, bytes bs => .ok (Text.quotedBytes (unpaddedBytes bs))
  | _, v => v.atomText

/-- A text without parentheses around it. -/
def withoutParentheses (s : String) : String :=
  match s.toList with
  | '(' :: cs => String.ofList cs.dropLast
  | _ => s

/-- A scalar with its kind. -/
def scalarRepr (kind : ElementKind) (item : Value) : Except Fault String :=
  match item with
  | bool b => .ok ("np." ++ boolText b ++ "_")
  | item => return "np." ++ kind.name ++ "(" ++ withoutParentheses (← itemText kind item) ++ ")"

/-- The items of an array as words of a common form. Truth values are aligned unless the array has
no axes. -/
def itemWords (kind : ElementKind) (shape : List Nat) (items : List Value) : List String :=
  let integers := items.filterMap fun
    | int n => some n
    | _ => Option.none
  let reals := items.filterMap fun
    | float x => some x
    | _ => Option.none
  let pairs := items.filterMap fun
    | complex re im => some (re, im)
    | _ => Option.none
  match kind with
  | .boolean => items.map fun
    | bool true => if shape.isEmpty then "True" else " True"
    | _ => "False"
  | .text _ | .bytes _ => items.map fun
    | text s => Text.quoted s
    | bytes bs => Text.quotedBytes bs
    | _ => ""
  | .object => []
  | kind =>
    match kind.format? with
    | Option.none => (integerColumn integers).map String.ofList
    | some fmt =>
      if kind.isComplex then (complexColumn fmt pairs).map String.ofList
      else
        let column := RealColumn.ofList fmt false reals
        reals.map fun x => String.ofList (column.cell x)

/-- The greatest number of items of an array that is shown in full. -/
def fullLimit : Nat := 1000

/-- The number of characters in a line. -/
def lineWidth : Nat := 75

/-- The part of a list of items that is shown. -/
def shownItems {α : Type} (shape : List Nat) (items : List α) : List α :=
  Axis.select (decide (fullLimit < itemCount shape)) shape items

/-- Words as an array without its kind. `lead` characters stand before it in the line, and `trail`
characters have to fit behind it. -/
def arrayBody (separator : String) (lead trail : Nat) (shape : List Nat) (words : List String) :
    String :=
  if itemCount shape = 0 then "[]"
  else
    Axis.layOut separator (Axis.ofShape (decide (fullLimit < itemCount shape)) shape) (lead + 1)
      (lineWidth - trail) words

/-- The name of a kind behind an array, unless the items show it. -/
def kindNote (kind : ElementKind) : Option String :=
  match kind with
  | .boolean | .int64 | .float64 | .complex128 => Option.none
  | .text width => some ("'<U" ++ toString width ++ "'")
  | .bytes width => some ("'|S" ++ toString width ++ "'")
  | kind => some kind.name

/-- What is added behind an array: its axis lengths, if the items do not show them, and its kind. -/
def arrayNotes (kind : ElementKind) (shape : List Nat) : List String :=
  let size := itemCount shape
  let axes := (size = 0 && shape ≠ [0]) || decide (fullLimit < size)
  let name := if size = 0 then some ((kindNote kind).getD kind.name) else kindNote kind
  (if axes then ["shape=" ++ Fault.shapeText shape] else []) ++
    (name.map fun n => "dtype=" ++ n).toList

/-- Words as an array with its kind, which goes to a line of its own if there is no room. -/
def arrayRepr (kind : ElementKind) (shape : List Nat) (words : List String) : String :=
  let opening := "array("
  let body := opening ++ arrayBody ", " opening.length 1 shape words
  match arrayNotes kind shape with
  | [] => body ++ ")"
  | notes =>
    let note := ", ".intercalate notes ++ ")"
    let last := (body.toList.reverse.takeWhile (· ≠ '\n')).length + 1
    body ++ "," ++
      (if lineWidth < last + note.length + 1 then "\n" ++ spaces opening.length else " ") ++ note

/-- The word for an item of an array of objects. -/
def objectWord (isList : Bool) (shown : Except Fault String) : Except Fault String :=
  if isList then return "list(" ++ (← shown) ++ ")" else shown

/-- Whether a value is a list. -/
def isList : Value → Bool
  | list _ | cyclicList => true
  | _ => false

/-- A record as text: its type, and its parts by name. -/
def recordText (type : String) (parts : List (String × String)) : String :=
  type ++ bracketed "(" (parts.map fun (name, part) => name ++ "=" ++ part) ")"

mutual

/-- A value as text that shows its type. -/
def repr : Value → Except Fault String
  | list items => return bracketed "[" (← reprAll items) "]"
  | tuple items => return tupleText (← reprAll items)
  | set [] => return "set()"
  | set items => return bracketed "\x7b" (← reprAll items) "\x7d"
  | dict entries => return bracketed "\x7b" (← reprEntries entries) "\x7d"
  | cyclicList => return "[[...]]"
  | cyclicDict => return "\x7b'self': \x7b...\x7d\x7d"
  | scalar kind item => scalarRepr kind item
  | array .object shape items =>
    return arrayRepr .object shape (← (shownItems shape (objectWords items)).mapM id)
  | array kind shape items =>
    return arrayRepr kind shape (itemWords kind shape (shownItems shape items))
  | literal v => return recordText "LiteralValue" [("value", ← v.repr)]
  | field name => return recordText "FieldRef" [("name", ← name.repr)]
  | constant name => return recordText "ValueRef" [("name", ← name.repr)]
  | model ctor args =>
    return recordText "Construct" [("ctor", ← ctor.repr), ("args", tupleText (← reprPairs args))]
  | glyph method src args =>
    return recordText "AddGlyph"
      [("method", ← method.repr), ("data_source", ← src.repr),
        ("args", tupleText (← reprPairs args))]
  | layout ctor args =>
    return recordText "AddLayout" [("ctor", ← ctor.repr), ("args", tupleText (← reprPairs args))]
  | glyphAttrs ctor pairs =>
    return recordText "SetGlyphAttrs"
      [("ctor", ← ctor.repr), ("pairs", tupleText (← reprPaths pairs))]
  | figureAttrs pairs =>
    return recordText "SetFigAttrs" [("pairs", tupleText (← reprPaths pairs))]
  | source columns =>
    return recordText "ColumnDataSource"
      [("columns", bracketed "[" (← reprNames columns) "]"),
        ("rows", toString ((columns.head?.map fun c => c.2.length).getD 0))]
  | v => v.atomText

/-- Values one by one. -/
def reprAll : List Value → Except Fault (List String)
  | [] => return []
  | v :: vs => return (← v.repr) :: (← reprAll vs)

/-- The items of an array of objects, each with its type; a list is marked as one. -/
def objectWords : List Value → List (Except Fault String)
  | [] => []
  | v :: vs => objectWord v.isList v.repr :: objectWords vs

/-- The entries of a dictionary. -/
def reprEntries : List (Value × Value) → Except Fault (List String)
  | [] => return []
  | (k, v) :: es => return ((← k.repr) ++ ": " ++ (← v.repr)) :: (← reprEntries es)

/-- Named arguments, as pairs. -/
def reprPairs : List (Value × Value) → Except Fault (List String)
  | [] => return []
  | (k, v) :: es => return tupleText [← k.repr, ← v.repr] :: (← reprPairs es)

/-- Attribute assignments, as pairs of a path and a value. -/
def reprPaths : List (List Value × Value) → Except Fault (List String)
  | [] => return []
  | (p, v) :: es => return tupleText [tupleText (← reprAll p), ← v.repr] :: (← reprPaths es)

/-- The names of columns. -/
def reprNames : List (Value × Column) → Except Fault (List String)
  | [] => return []
  | (k, _) :: cs => return (← k.repr) :: (← reprNames cs)

end

mutual

/-- A value as text: text stands for itself, a scalar for its item, an array without axes for its
only one. -/
def toText : Value → Except Fault String
  | text s => .ok s
  | scalar (.text _) (text s) => .ok (unpadded s)
  | scalar kind item => itemText kind item
  | array kind [] items => loneText kind items
  | array .object shape items =>
    return arrayBody " " 0 0 shape (← (shownItems shape (objectWords items)).mapM id)
  | array kind shape items =>
    .ok (arrayBody " " 0 0 shape (itemWords kind shape (shownItems shape items)))
  | v => v.repr

/-- The text of the only item of an array without axes; bytes keep their type. -/
def loneText (kind : ElementKind) : List Value → Except Fault String
  | [bytes bs] => if kind = .object then .ok (Text.quotedBytes bs) else scalarRepr kind (bytes bs)
  | [scalar (.bytes width) item] => scalarRepr (.bytes width) item
  | [text s] => .ok s
  | [v] => if kind = .object then v.toText else itemText kind v
  | _ => .ok ""

end

mutual

/-- A value inside other text: a narrow number is written as the 64-bit number it equals. -/
def interpolate : Value → Except Fault String
  | scalar _ (float x) => .ok (String.ofList x.text)
  | scalar _ (complex re im) => .ok (complexText re im)
  | array kind [] items => loneInterpolation kind items
  | v => v.toText

/-- The only item of an array without axes inside other text. -/
def loneInterpolation (kind : ElementKind) : List Value → Except Fault String
  | [float x] => .ok (String.ofList x.text)
  | [complex re im] => .ok (complexText re im)
  | [bytes bs] => .ok (Text.quotedBytes bs)
  | [text s] => .ok s
  | [v] => if kind = .object then v.interpolate else itemText kind v
  | _ => .ok ""

end

end Value

end PlotStream
