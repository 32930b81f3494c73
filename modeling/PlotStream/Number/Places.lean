import PlotStream.Number.Notation

/-!
# Decimals of limited length

The digits of a binary value one after the other, from the first on. They end where they tell the
value from its neighbours in the format, but not before a first place and not after a last one
(`DigitRule`); the last digit is rounded to the nearer side, a tie to the even digit. A place is the
exponent of ten that a digit counts.
-/

namespace PlotStream

/-- Where the digits of a decimal may end. -/
inductive DigitRule
  /-- With at least `least` and at most `most` digits behind the point. -/
  | behindPoint (least most : Nat)
  /-- With at least `least` and at most `most` digits behind the first one. -/
  | behindFirst (least most : Nat)
deriving DecidableEq, Repr

namespace DigitRule

/-- The place from which on digits may end, for a first digit at the given place. -/
def earliest : DigitRule → Int → Int
  | behindPoint least _, _ => -(least : Int)
  | behindFirst least _, first => first - least

/-- The place at which digits end at the latest. -/
def latest : DigitRule → Int → Int
  | behindPoint _ most, _ => -(most : Int)
  | behindFirst _ most, first => first - most

end DigitRule

/-- A value on its way to digits: `rest / unit` is what remains in units of the current place, and
the margins are the distances at which the value may be left, in the same units. -/
structure Remainder where
  rest : Nat
  below : Nat
  above : Nat
  unit : Nat
  closed : Bool
deriving Repr

namespace Remainder

variable (r : Remainder)

/-- The digit at the current place. -/
def digit : Nat := r.rest / r.unit

/-- What remains behind the digit. -/
def tail : Nat := r.rest % r.unit

/-- Whether the digit as it stands is near enough to the value. -/
def mayStay : Bool :=
  if r.closed then r.tail ≤ r.below else r.tail < r.below

/-- Whether the next greater digit is near enough to the value. -/
def mayRise : Bool :=
  if r.closed then r.unit ≤ r.tail + r.above else r.unit < r.tail + r.above

/-- The digit as the last one: the only one that is near enough, or else the nearer one. -/
def lastDigit : Nat :=
  if r.mayStay && !r.mayRise then r.digit
  else if r.mayRise && !r.mayStay then r.digit + 1
  else if 2 * r.tail < r.unit then r.digit
  else if r.unit < 2 * r.tail then r.digit + 1
  else if r.digit % 2 = 0 then r.digit else r.digit + 1

/-- The same value at the next place. -/
def next : Remainder :=
  { r with rest := 10 * r.tail, below := 10 * r.below, above := 10 * r.above }

/-- The digits as one number, with the place of the last one; at most `fuel` digits follow the
current one. -/
def run (earliest latest : Int) : Nat → Int → Nat → Remainder → Nat × Int
  | 0, place, head, r => (10 * head + r.lastDigit, place)
  | fuel + 1, place, head, r =>
    if ((r.mayStay || r.mayRise) && decide (place ≤ earliest)) || place = latest then
      (10 * head + r.lastDigit, place)
    else run earliest latest fuel (place - 1) (10 * head + r.digit) r.next

end Remainder

namespace RoundingInterval

variable (i : RoundingInterval)

/-- The value in units of a place. -/
def remainderAt (place : Int) : Remainder :=
  let num := Nat.pow 10 (-place).toNat
  { rest := i.value * num
    below := (i.value - i.lower) * num
    above := (i.upper - i.value) * num
    unit := i.den * Nat.pow 10 place.toNat
    closed := i.closed }

/-- Forty digits are more than any rule asks for. -/
def decimal (rule : DigitRule) : Decimal :=
  let first := quotientLog10 i.value i.den
  let (d, place) := (i.remainderAt first).run (rule.earliest first) (rule.latest first) 40 first 0
  ⟨d, place + decimalLength d - 1⟩

end RoundingInterval

/-- The magnitude of a finite number of a format as a decimal of limited length. -/
def Double.decimalIn (fmt : BinaryFormat) (rule : DigitRule) (x : Double) : Decimal :=
  if x.isZero then ⟨0, 0⟩ else (x.intervalIn fmt).decimal rule

namespace Decimal

variable (d : Decimal)

/-- The digits before the point, at least one. -/
def wholeText : List Char :=
  if d.exponent < 0 then ['0']
  else
    let whole := d.exponent.toNat + 1
    let cs := d.digitText.take whole
    cs ++ List.replicate (whole - cs.length) '0'

/-- The digits behind the point, without zeros at the end. -/
def fractionText : List Char :=
  if d.digits = 0 then []
  else if d.exponent < 0 then List.replicate (-d.exponent - 1).toNat '0' ++ d.digitText
  else d.digitText.drop (d.exponent.toNat + 1)

end Decimal

end PlotStream
