import PlotStream.Json.Escape
import PlotStream.Number.Numeral
import PlotStream.Value.Equality
import PlotStream.Value.Show

/-!
# Reading JSON

A JSON document as a value. Besides the standard grammar the words `NaN`, `Infinity` and
`-Infinity` are numbers, strings may hold unpaired surrogates, and of repeated member names the
first fixes the place and the last the value. Numbers with a fraction or an exponent are 64-bit
floating point; integers have at most `digitLimit` digits.

The parser works on the characters that are left, and an error tells how many were left, so that no
position has to be carried along. `fuel` bounds the nesting; `read` supplies enough for any text.
-/

namespace PlotStream.Json

/-- Characters between tokens. -/
def isBlank (c : Char) : Bool :=
  c = ' ' || c = '\t' || c = '\n' || c = '\r'

def skipBlank (cs : List Char) : List Char :=
  cs.dropWhile isBlank

/-- Something else should stand here. -/
def expecting (what : String) (cs : List Char) : ReadError :=
  .malformed ("Expecting " ++ what) cs.length

/-- What follows a word, if the text starts with it. -/
def afterWord? (word : String) (cs : List Char) : Option (List Char) :=
  let w := word.toList
  if w.isPrefixOf cs then some (cs.drop w.length) else none

/-- The words that stand for values. -/
def words : List (String × Value) :=
  [("null", .none), ("true", .bool true), ("false", .bool false),
    ("NaN", .float Double.nan), ("Infinity", .float Double.infinity),
    ("-Infinity", .float (Double.ofMagnitude true Double.infinity.unsigned))]

/-- A word that stands for a value, and the rest. -/
def takeWord? (cs : List Char) : Option (Value × List Char) :=
  words.findSome? fun (word, v) => (afterWord? word cs).map (v, ·)

/-- The digits of an integer, which start with zero only if there is nothing else. -/
def takeWhole? : List Char → Option (List Char × List Char)
  | '0' :: rest => some (['0'], rest)
  | cs =>
    let (ds, rest) := cs.span Char.isDigit
    if ds.isEmpty then none else some (ds, rest)

/-- The digits after a point, which have to be there, and the rest. -/
def takeFraction? : List Char → Option (List Char × List Char)
  | '.' :: rest =>
    let (ds, rest) := rest.span Char.isDigit
    if ds.isEmpty then none else some (ds, rest)
  | _ => none

/-- A number behind its sign, and the rest. -/
def takeUnsigned? (negative : Bool) (cs : List Char) :
    Option (Except ReadError (Value × List Char)) := do
  let (whole, rest) ← takeWhole? cs
  let fraction := takeFraction? rest
  let (places, rest) := fraction.getD ([], rest)
  let exponent := Numeral.takeExponent? rest
  let (e, rest) := exponent.getD (0, rest)
  if fraction.isSome || exponent.isSome then
    let x := Double.ofDecimal negative (Numeral.digits (whole ++ places)) (e - places.length)
    return .ok (.float x, rest)
  else if digitLimit < whole.length then return .error (.tooManyDigits whole.length)
  else
    let n : Int := Numeral.digits whole
    return .ok (.int (if negative then -n else n), rest)

/-- A number and the rest. -/
def takeNumber? : List Char → Option (Except ReadError (Value × List Char))
  | '-' :: rest => takeUnsigned? true rest
  | cs => takeUnsigned? false cs

/-- A value that is neither a string nor a container, and the rest. -/
def readAtom (cs : List Char) : Except ReadError (Value × List Char) :=
  match takeWord? cs with
  | some r => .ok r
  | none =>
    match takeNumber? cs with
    | some r => r
    | none => .error (expecting "value" cs)

mutual

/-- A value and the rest. -/
def readValue : Nat → List Char → Except ReadError (Value × List Char)
  | 0, cs => .error (expecting "value" cs)
  | fuel + 1, cs =>
    match cs with
    | '"' :: rest => do
      let (codes, rest) ← scanString cs.length rest
      return (Value.ofCodes codes, rest)
    | '[' :: rest =>
      match skipBlank rest with
      | ']' :: rest => .ok (.list [], rest)
      | rest => do
        let (items, rest) ← readItems fuel rest
        return (.list items, rest)
    | '\x7b' :: rest =>
      match skipBlank rest with
      | '\x7d' :: rest => .ok (.dict [], rest)
      | rest => do
        let (members, rest) ← readMembers fuel rest
        return (Value.dictOf members, rest)
    | _ => readAtom cs

/-- The items of an array up to its end, and the rest. -/
def readItems : Nat → List Char → Except ReadError (List Value × List Char)
  | 0, cs => .error (expecting "value" cs)
  | fuel + 1, cs => do
    let (v, rest) ← readValue fuel cs
    match skipBlank rest with
    | ']' :: rest => return ([v], rest)
    | ',' :: rest =>
      let (vs, rest) ← readItems fuel (skipBlank rest)
      return (v :: vs, rest)
    | rest => .error (expecting "',' delimiter" rest)

/-- The members of an object up to its end, and the rest. -/
def readMembers : Nat → List Char → Except ReadError (List (Value × Value) × List Char)
  | 0, cs => .error (expecting "value" cs)
  | fuel + 1, cs =>
    match cs with
    | '"' :: rest => do
      let (codes, rest) ← scanString cs.length rest
      match skipBlank rest with
      | ':' :: rest =>
        let (v, rest) ← readValue fuel (skipBlank rest)
        let member := (Value.ofCodes codes, v)
        match skipBlank rest with
        | '\x7d' :: rest => return ([member], rest)
        | ',' :: rest =>
          let (more, rest) ← readMembers fuel (skipBlank rest)
          return (member :: more, rest)
        | rest => .error (expecting "',' delimiter" rest)
      | rest => .error (expecting "':' delimiter" rest)
    | _ => .error (expecting "property name enclosed in double quotes" cs)

end

/-- A whole document. -/
def readDocument (cs : List Char) : Except ReadError Value := do
  if cs.head? = some '\ufeff' then
    throw (.malformed "Unexpected UTF-8 BOM (decode using utf-8-sig)" cs.length)
  let start := skipBlank cs
  let (v, rest) ← readValue (2 * start.length + 2) start
  match skipBlank rest with
  | [] => return v
  | rest => throw (.malformed "Extra data" rest.length)

/-- A position as line and column, both counted from one. -/
def defectAt (reason : String) (before : List Char) : JsonDefect :=
  { reason
    line := before.count '\n' + 1
    column := (before.reverse.takeWhile (· ≠ '\n')).length + 1
    position := before.length }

/-- The fault of a text that is no document. -/
def ReadError.toFault (cs : List Char) : ReadError → Fault
  | .malformed reason remaining => .malformedJson (defectAt reason (cs.take (cs.length - remaining)))
  | .tooManyDigits count => .tooManyDigitsRead count

/-- The value of a text. -/
def read (s : String) : Except Fault Value :=
  (readDocument s.toList).mapError (ReadError.toFault s.toList)

end PlotStream.Json
