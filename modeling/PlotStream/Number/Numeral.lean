import PlotStream.Number.Binary
import PlotStream.Text.Digit

/-!
# Numerals

Reading numbers from text. Surrounding white space and the digits of any script are accepted, and a
single underscore may stand between two digits. An integer is a sign and digits. A real number is a
sign and a decimal with an optional exponent, or a word for infinity or for no number. A pair of real
numbers is written as their sum with `j` behind the second, which may be left out like the first.
-/

namespace PlotStream.Numeral

/-- A sign and what follows it. -/
def takeSign : List Char → Bool × List Char
  | '-' :: cs => (true, cs)
  | '+' :: cs => (false, cs)
  | cs => (false, cs)

/-- The number that digits denote. -/
def digits (cs : List Char) : Nat :=
  Nat.ofDigitChars 10 cs 0

/-- A run of digits, with underscores among them, and the rest. -/
def takeRun (cs : List Char) : List Char × List Char :=
  cs.span fun c => c.isDigit || c = '_'

/-- Whether every underscore stands between two digits. `afterDigit` tells what precedes. -/
def wellGrouped (afterDigit : Bool) : List Char → Bool
  | [] => true
  | '_' :: c :: cs => afterDigit && c.isDigit && wellGrouped false (c :: cs)
  | ['_'] => false
  | c :: cs => wellGrouped c.isDigit cs

/-- The result of reading an integer. -/
inductive Reading
  | integer (n : Int)
  | invalid
  /-- The number of digits is beyond the limit. -/
  | tooLong (count : Nat)
deriving DecidableEq, Repr

/-- Read an integer of at most `limit` digits. A well-formed run of too many digits is refused as
such, whatever follows it. -/
def readInteger (limit : Nat) (cs : List Char) : Reading :=
  let (negative, cs) := takeSign (cs.dropWhile Text.isAsciiBlank)
  let (run, rest) := takeRun cs
  let ds := run.filter (· ≠ '_')
  if !wellGrouped false run then .invalid
  else if limit < ds.length then .tooLong ds.length
  else if ds.isEmpty || !rest.all Text.isAsciiBlank then .invalid
  else .integer (if negative then -(digits ds : Int) else digits ds)

/-- The parts of a decimal: its digits without the point, and the power of ten that scales them. -/
structure Parts where
  digits : Nat
  exponent : Int
deriving DecidableEq, Repr

/-- An exponent mark with its digits, and the rest; without digits it is no exponent. -/
def takeExponent? : List Char → Option (Int × List Char)
  | c :: cs =>
    if c = 'e' || c = 'E' then
      let (negative, ds) := takeSign cs
      let (run, rest) := ds.span Char.isDigit
      if run.isEmpty then none
      else some (if negative then -(Numeral.digits run : Int) else Numeral.digits run, rest)
    else none
  | [] => none

/-- A decimal without sign, and the rest. -/
def takeDecimal? (cs : List Char) : Option (Parts × List Char) :=
  let (whole, rest) := cs.span Char.isDigit
  let (fraction, rest) :=
    match rest with
    | '.' :: more => more.span Char.isDigit
    | rest => ([], rest)
  if whole.isEmpty && fraction.isEmpty then none
  else
    let (e, rest) := (takeExponent? rest).getD (0, rest)
    some (⟨digits (whole ++ fraction), e - fraction.length⟩, rest)

/-- The words that are numbers, a longer one before its beginning. -/
def words : List (List Char × Double) :=
  [("infinity".toList, Double.infinity), ("inf".toList, Double.infinity), ("nan".toList, Double.nan)]

/-- A word without sign, in any case, and the rest. -/
def takeWord? (cs : List Char) : Option (Double × List Char) :=
  (words.find? fun w => w.1.isPrefixOf (cs.map Char.toLower)).map fun w =>
    (w.2, cs.drop w.1.length)

/-- A real number without white space and underscores, and the rest. -/
def takeReal? (cs : List Char) : Option (Double × List Char) :=
  let (negative, cs) := takeSign cs
  match takeWord? cs, takeDecimal? cs with
  | some (x, rest), _ => some (Double.ofMagnitude negative x.unsigned, rest)
  | none, some (p, rest) => some (Double.ofDecimal negative p.digits p.exponent, rest)
  | none, none => none

/-- A real number without white space and underscores. -/
def readPlainReal? (cs : List Char) : Option Double :=
  match takeReal? cs with
  | some (x, []) => some x
  | _ => none

/-- Read a real number. -/
def readReal? (cs : List Char) : Option Double :=
  let cs := Text.stripBoth Text.isAsciiBlank cs
  if wellGrouped false cs then readPlainReal? (cs.filter (· ≠ '_')) else none

/-- Whether a character marks the second number of a pair. -/
def isPairMark (c : Char) : Bool :=
  c = 'j' || c = 'J'

/-- The second number of a pair with its mark, and the rest; a mark without a number means one. -/
def takeMarked? (cs : List Char) : Option (Double × List Char) :=
  let (x, rest) := (takeReal? cs).getD
    (let (negative, rest) := takeSign cs
     (Double.ofQuotient negative 1 1, rest))
  match rest with
  | c :: rest => if isPairMark c then some (x, rest) else none
  | [] => none

/-- A pair of numbers, and the rest. -/
def takePair? (cs : List Char) : Option ((Double × Double) × List Char) :=
  match takeMarked? cs, takeReal? cs with
  | some (im, rest), _ => some ((Double.zero, im), rest)
  | none, some (re, c :: rest) =>
    if c = '+' || c = '-' then (takeMarked? (c :: rest)).map fun (im, rest) => ((re, im), rest)
    else some ((re, Double.zero), c :: rest)
  | none, some (re, []) => some ((re, Double.zero), [])
  | none, none => none

/-- A pair of numbers without underscores; white space and one pair of parentheses may surround
it. -/
def readPlainPair? (cs : List Char) : Option (Double × Double) :=
  let cs := Text.stripBoth Text.isAsciiBlank cs
  let (closed, cs) :=
    match cs with
    | '(' :: cs => (true, cs.dropWhile Text.isAsciiBlank)
    | cs => (false, cs)
  match takePair? cs with
  | some (z, rest) =>
    let rest := rest.dropWhile Text.isAsciiBlank
    if rest = (if closed then [')'] else []) then some z else none
  | none => none

/-- Read a pair of numbers. -/
def readPair? (cs : List Char) : Option (Double × Double) :=
  if wellGrouped false cs then readPlainPair? (cs.filter (· ≠ '_')) else none

end PlotStream.Numeral
