import PlotStream.Number.Binary
import PlotStream.Number.Shortest

/-!
# Text of numbers

How a decimal is laid out: plain digits for moderate numbers, `d.ddde±xx` beyond. `NumberLayout`
holds the choices in one record; `Double.text` is the text of a number as values print it,
`Double.textIn` that of a number of a narrower format, which turns to exponents earlier, and
`fixedPlaces` rounds to a fixed number of places, ties to even.
-/

namespace PlotStream

/-- Where plain notation is used and how each notation is completed. -/
structure NumberLayout where
  /-- The least magnitude, apart from zero, that is written plainly. -/
  plainFrom : Double
  /-- The least magnitude that is no longer written plainly. -/
  plainBelow : Double
  /-- What follows the digits of a plain integer. -/
  integerTail : List Char
  /-- The least number of digits of a written exponent. -/
  exponentWidth : Nat
deriving Repr

namespace NumberLayout

/-- Numbers are plain from `0.0001` up to sixteen integer digits; a plain integer ends in `.0`. -/
def standard : NumberLayout :=
  ⟨Double.ofDecimal false 1 (-4), Double.ofDecimal false 1 16, ['.', '0'], 2⟩

/-- As `standard`, but a format with few digits is plain only up to the integer digits it can
hold: three for the 16-bit format, six for the 32-bit one. -/
def ofFormat (fmt : BinaryFormat) : NumberLayout :=
  if fmt = BinaryFormat.binary16 then
    { standard with plainBelow := Double.ofDecimal false 1 3 }
  else if fmt = BinaryFormat.binary32 then
    { standard with plainBelow := Double.ofDecimal false 1 6 }
  else standard

/-- The parts of a complex number: a plain integer ends with its digits. -/
def bare (l : NumberLayout) : NumberLayout :=
  { l with integerTail := [] }

end NumberLayout

/-- `n` in decimal with at least `width` digits. -/
def padNat (width n : Nat) : List Char :=
  let cs := Nat.toDigits 10 n
  List.replicate (width - cs.length) '0' ++ cs

/-- The text of an integer. -/
def intText (n : Int) : List Char :=
  (if n < 0 then ['-'] else []) ++ Nat.toDigits 10 n.natAbs

/-- An exponent of at least `width` digits, with its mark and sign. -/
def exponentText (width : Nat) (exponent : Int) : List Char :=
  'e' :: (if exponent < 0 then '-' else '+') :: padNat width exponent.natAbs

namespace Double

/-- The bits of a number in a narrower format that holds it exactly, without the sign. -/
def unsignedIn (fmt : BinaryFormat) (x : Double) : Nat :=
  let (m, e) := BinaryFormat.binary64.magnitude x.unsigned
  fmt.roundScaled m e

/-- The reals that round to the magnitude of a finite number other than zero in a format that
holds it. -/
def intervalIn (fmt : BinaryFormat) (x : Double) : RoundingInterval :=
  let (m, e) := fmt.magnitude (x.unsignedIn fmt)
  RoundingInterval.ofScaled m e (m = Nat.pow 2 fmt.fractionBits && decide (fmt.leastExponent < e))

end Double

namespace NumberLayout

variable (l : NumberLayout)

/-- Whether the magnitude of a number is written plainly. -/
def isPlain (x : Double) : Bool :=
  x.isZero || (l.plainFrom.unsigned ≤ x.unsigned && x.unsigned < l.plainBelow.unsigned)

/-- Digits whose first one has the given exponent, written plainly. -/
def layPlain (digits : List Char) (exponent : Int) : List Char :=
  if exponent < 0 then
    '0' :: '.' :: List.replicate (-exponent - 1).toNat '0' ++ digits
  else
    let whole := exponent.toNat + 1
    if digits.length ≤ whole then
      digits ++ List.replicate (whole - digits.length) '0' ++ l.integerTail
    else digits.take whole ++ '.' :: digits.drop whole

/-- Digits whose first one has the given exponent, written with that exponent. -/
def layScientific (digits : List Char) (exponent : Int) : List Char :=
  digits.take 1 ++ (if digits.length ≤ 1 then [] else '.' :: digits.drop 1) ++
    exponentText l.exponentWidth exponent

/-- The text of the magnitude of a finite number of a format: zero, or the shortest decimal that
rounds back. -/
def magnitudeText (fmt : BinaryFormat) (x : Double) : List Char :=
  if x.isZero then '0' :: l.integerTail
  else
    let d := (x.intervalIn fmt).shortest
    if l.isPlain x then l.layPlain d.digitText d.exponent
    else l.layScientific d.digitText d.exponent

/-- The text of a number of a format: `nan`, `inf`, or the shortest decimal, with its sign. -/
def text (fmt : BinaryFormat) (x : Double) : List Char :=
  if x.isNaN then "nan".toList
  else
    (if x.isNegative then ['-'] else []) ++
      if x.isInfinite then "inf".toList else l.magnitudeText fmt x

end NumberLayout

namespace Double

/-- The text of a number in the standard layout. -/
def text (x : Double) : List Char :=
  NumberLayout.standard.text BinaryFormat.binary64 x

/-- The text of a number that belongs to a format: as short as that format allows. -/
def textIn (fmt : BinaryFormat) (x : Double) : List Char :=
  (NumberLayout.ofFormat fmt).text fmt x

/-- A number with a fixed count of decimal places, a tie going to the even digit. -/
def fixedPlaces (places : Nat) (x : Double) : List Char :=
  if x.isFinite then
    let (m, e) := BinaryFormat.binary64.magnitude x.unsigned
    let unit := Nat.pow 10 places
    let n := roundHalfEven (m * Nat.pow 2 e.toNat * unit) (Nat.pow 2 (-e).toNat)
    (if x.isNegative then ['-'] else []) ++ Nat.toDigits 10 (n / unit) ++
      (if places = 0 then [] else '.' :: padNat places (n % unit))
  else x.text

end Double

end PlotStream
