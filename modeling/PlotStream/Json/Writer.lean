import PlotStream.Json.Escape
import PlotStream.Room
import PlotStream.Value.Items
import PlotStream.Value.Show

/-!
# Writing JSON

A value as JSON text in printable ASCII: `", "` between items, `": "` after member names, no line
breaks. Numbers that are not finite are written `NaN`, `Infinity` and `-Infinity`. Tuples are arrays.
Scalars and arrays of an element kind have no JSON of their own; under `Scalars.unwrap` they are
written as their plain items and nested lists, under `Scalars.refuse` only those that are ordinary
numbers and text pass. Every list, tuple, dictionary, scalar and array is a call inside of another
one, and what is nested too deeply for the room there is has no JSON either.
-/

namespace PlotStream.Json

/-- What becomes of scalars and arrays of an element kind. -/
inductive Scalars
  | refuse
  | unwrap
deriving DecidableEq, Repr

/-- A number. -/
def doubleText (x : Double) : List Char :=
  if x.isNaN then "NaN".toList
  else if x.isInfinite then (if x.isNegative then "-Infinity" else "Infinity").toList
  else x.text

/-- An integer. -/
def intJson (n : Int) : Except Fault (List Char) :=
  return (← integerText n).toList

/-- A truth value. -/
def boolJson (b : Bool) : List Char :=
  (if b then "true" else "false").toList

/-- Texts with separators between them, inside brackets. -/
def enclose (opening : Char) (parts : List (List Char)) (closing : Char) : List Char :=
  opening :: [',', ' '].intercalate parts ++ [closing]

/-- An array of written items. -/
def arrayText (parts : List (List Char)) : List Char :=
  enclose '[' parts ']'

/-- An object of written members. -/
def objectText (parts : List (List Char)) : List Char :=
  enclose '\x7b' parts '\x7d'

/-- A written member. -/
def memberText (name : List Char) (value : List Char) : List Char :=
  name ++ ':' :: ' ' :: value

/-- The name of a member as code points: text, or the JSON of a number, a truth value or nothing. -/
def memberName (key : Value) : Except Fault (List Nat) :=
  match key.codes? with
  | some codes => .ok codes
  | none =>
    match key with
    | .none => .ok ("null".toList.map Char.toNat)
    | .bool b => .ok ((boolJson b).map Char.toNat)
    | .int n => return (← intJson n).map Char.toNat
    | .float x | .scalar .float64 (.float x) => .ok ((doubleText x).map Char.toNat)
    | v => .error (.badMemberName v.qualifiedTypeName)

/-- A value that holds no other values. -/
def atomJson : Value → Except Fault (List Char)
  | .none => .ok "null".toList
  | .bool b => .ok (boolJson b)
  | .int n => intJson n
  | .float x => .ok (doubleText x)
  | .text s => .ok (stringText (Text.codes s))
  | .torn codes => .ok (stringText codes)
  | v => .error (.notEncodable v.typeName)

/-- The items of an array, nested along its axes. -/
def nestedJson : List Nat → List (List Char) → List Char
  | [], parts => parts.flatten
  | [_], parts => arrayText parts
  | n :: shape, parts =>
    arrayText ((chunks (itemCount shape) n parts).map (nestedJson shape))

/-- What a list, a tuple or a dictionary holds is one level deeper. -/
def level {α : Type} (room : Nat) (inner : Nat → Except Fault α) : Except Fault α :=
  descend .nestedTooDeeply 1 room inner

/-- What a scalar or an array with so many axes holds is written behind its conversion. -/
def converted {α : Type} (room axes : Nat) (inner : Nat → Except Fault α) : Except Fault α :=
  descend .nestedTooDeeply (conversionCalls axes) room inner

mutual

/-- A value as JSON. -/
def encode (how : Scalars) (room : Nat) : Value → Except Fault (List Char)
  | .list items => level room fun room => return arrayText (← encodeItems how room items)
  | .tuple items => level room fun room => return arrayText (← encodeItems how room items)
  | .dict entries => level room fun room => return objectText (← encodeEntries how room entries)
  | .cyclicList => .error .circularReference
  | .cyclicDict => .error .circularReference
  | .scalar .float64 (.float x) => .ok (doubleText x)
  | .scalar (.text _) item => encode how room item
  | .scalar kind item =>
    if how = .unwrap then converted room 0 fun room => encode how room item
    else .error (.notEncodable kind.name)
  | .array _ shape items =>
    if how = .unwrap then
      converted room shape.length fun room => return nestedJson shape (← encodeItems how room items)
    else .error (.notEncodable "ndarray")
  | v => atomJson v

/-- Values one by one. -/
def encodeItems (how : Scalars) (room : Nat) : List Value → Except Fault (List (List Char))
  | [] => return []
  | v :: vs => return (← encode how room v) :: (← encodeItems how room vs)

/-- Entries one by one: the name is looked at before the value. -/
def encodeEntries (how : Scalars) (room : Nat) :
    List (Value × Value) → Except Fault (List (List Char))
  | [] => return []
  | (k, v) :: es => do
    let name ← memberName k
    let value ← encode how room v
    return memberText (stringText name) value :: (← encodeEntries how room es)

end

/-- A value as JSON text. -/
def write (how : Scalars) (room : Nat) (v : Value) : Except Fault String :=
  descend .tooManyCalls writingCalls room fun room => return String.ofList (← encode how room v)

end PlotStream.Json
