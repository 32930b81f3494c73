import PlotStream.Number.Numeral
import PlotStream.Value.Items
import PlotStream.Value.Show

/-!
# Values as numbers

A value as an integer (`Value.toInteger`) and as a real number (`Value.toReal`). Numbers are
converted, text and bytes are read as numerals, and everything else is refused. Whether a value
counts as true (`Value.truth`) is decided here too.
-/

namespace PlotStream

/-- The first `n` characters of a text. -/
def clip (n : Nat) (s : String) : String :=
  String.ofList (s.toList.take n)

/-- An integer read from characters; `shown` is how a refusal shows the text. -/
def integerOfChars (cs : List Char) (shown : String) : Except Fault Int :=
  match Numeral.readInteger digitLimit cs with
  | .integer n => .ok n
  | .invalid => .error (.invalidInteger (clip 200 shown))
  | .tooLong count => .error (.tooManyDigitsRead count)

/-- An integer read from text. -/
def integerOfText (s : String) : Except Fault Int :=
  integerOfChars (Text.foldNumeral s.toList) (Text.quoted s)

/-- A real number read from characters. -/
def realOfChars (cs : List Char) (shown : String) : Except Fault Double :=
  match Numeral.readReal? cs with
  | some x => .ok x
  | none => .error (.invalidReal shown)

/-- A real number read from text. -/
def realOfText (s : String) : Except Fault Double :=
  realOfChars (Text.foldNumeral s.toList) (Text.quoted s)

/-- Bytes as characters with the same numbers. -/
def charsOfBytes (bs : List UInt8) : List Char :=
  bs.map fun b => Char.ofNat b.toNat

namespace Double

/-- The integer part of a number, if it has one. -/
def toInteger (x : Double) : Except Fault Int :=
  if x.isNaN then .error .nanToInteger
  else if x.isInfinite then .error .infinityToInteger
  else .ok x.truncate

/-- The number nearest to an integer; beyond the finite numbers there is none. -/
def ofIntChecked (n : Int) : Except Fault Double :=
  let x := ofInt n
  if x.isFinite then .ok x else .error .integerTooLarge

end Double

namespace Value

/-- How a refusal shows text and bytes that carry their kind. -/
def shownScalar (item : Value) : String :=
  match item with
  | text s => "np.str_(" ++ Text.quoted (unpadded s) ++ ")"
  | bytes bs => "np.bytes_(" ++ Text.quotedBytes (unpaddedBytes bs) ++ ")"
  | _ => ""

/-- A value without axes as an integer. -/
def atomInteger : Value → Except Fault Int
  | bool b | scalar _ (bool b) => .ok (if b then 1 else 0)
  | int n | scalar _ (int n) => .ok n
  | float x | scalar _ (float x) | scalar _ (complex x _) => x.toInteger
  | text s => integerOfText s
  | scalar _ (text s) => integerOfChars (Text.foldNumeral s.toList) (shownScalar (text s))
  | bytes bs | scalar _ (bytes bs) =>
    integerOfChars (charsOfBytes bs) (Text.quotedBytes (bs.take 200))
  | v => .error (.notInteger v.qualifiedTypeName)

mutual

/-- A value as an integer. An array without axes counts as its plain item. -/
def toInteger : Value → Except Fault Int
  | array _ [] items => loneInteger items
  | array _ _ _ => .error .arrayNotScalar
  | v => v.atomInteger

/-- The only item of an array as an integer. -/
def loneInteger : List Value → Except Fault Int
  | [v] => v.toInteger
  | _ => .error .arrayNotScalar

end

/-- Whether a value is a sequence of values, which no single item can hold. -/
def isSequence : Value → Bool
  | list _ | tuple _ | cyclicList | source _ => true
  | array _ (_ :: _) _ => true
  | _ => false

/-- A value without axes as a real number; no value at all is `nan`, and of a complex number of a
kind only the real part counts. -/
def atomReal : Value → Except Fault Double
  | none => .ok Double.nan
  | bool b | scalar _ (bool b) => .ok (Double.ofInt (if b then 1 else 0))
  | int n | scalar _ (int n) => Double.ofIntChecked n
  | float x | scalar _ (float x) => .ok x
  | scalar _ (complex re _) => .ok re
  | text s => realOfText s
  | scalar _ (text s) =>
    realOfChars (Text.foldNumeral (unpadded s).toList) (shownScalar (text s))
  | bytes bs => realOfChars (charsOfBytes bs) (Text.quotedBytes bs)
  | scalar _ (bytes bs) =>
    realOfChars (charsOfBytes (unpaddedBytes bs)) (shownScalar (bytes bs))
  | v => if v.isSequence then .error .sequenceElement else .error (.notReal v.qualifiedTypeName)

mutual

/-- A value as a real number. An array without axes counts as its item. -/
def toReal : Value → Except Fault Double
  | array kind [] items => loneReal kind items
  | v => v.atomReal

/-- The only item of an array as a real number. -/
def loneReal (kind : ElementKind) : List Value → Except Fault Double
  | [v] => if kind = .object then v.toReal else (ofItem kind v).atomReal
  | _ => .error .sequenceElement

end

/-- Whether a value that is no array counts as true: zero and what is empty do not. -/
def truthy : Value → Bool
  | none => false
  | bool b | scalar _ (bool b) => b
  | int n | scalar _ (int n) => n != 0
  | float x | scalar _ (float x) => !x.isZero
  | complex re im | scalar _ (complex re im) => !(re.isZero && im.isZero)
  | text s | scalar _ (text s) => s != ""
  | bytes bs | scalar _ (bytes bs) => !bs.isEmpty
  | list items | tuple items | set items => !items.isEmpty
  | dict entries => !entries.isEmpty
  | source columns => (columns.head?.map fun c => c.2.length).getD 0 != 0
  | _ => true

mutual

/-- Whether a value counts as true. An array does if its only item does; with no item or with
several it is neither true nor false. -/
def truth : Value → Except Fault Bool
  | array _ _ items => itemTruth items
  | v => .ok v.truthy

/-- Whether the items of an array count as true. -/
def itemTruth : List Value → Except Fault Bool
  | [] => .error .emptyArrayTruth
  | [v] => v.truth
  | _ => .error .arrayTruth

end

end Value

end PlotStream
