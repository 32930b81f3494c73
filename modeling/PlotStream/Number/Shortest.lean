import PlotStream.Number.Rounding

/-!
# Shortest decimals

The decimal with the fewest digits that rounds to a given binary value, and among those the one
nearest to it. The value is `significand * 2 ^ exponent`; the reals that round to it form an
interval reaching half a place up and, at a power of two, only a quarter of a place down. The ends
belong to the interval iff the significand is even.

For each number of digits in turn only the two neighbours of the value on that decimal grid are
tried: if any point of a grid lies in the interval, one of these does.
-/

namespace PlotStream

/-- A positive decimal: the digits of an integer, first digit not zero, and the exponent of the
first digit. -/
structure Decimal where
  digits : Nat
  exponent : Int
deriving DecidableEq, Repr

/-- The reals that round to `value`, all scaled by a common denominator `den`. -/
structure RoundingInterval where
  lower : Nat
  value : Nat
  upper : Nat
  den : Nat
  closed : Bool
deriving Repr

namespace RoundingInterval

/-- The interval of `significand * 2 ^ exponent`. `narrowBelow` says that the next value below is
only half a place away. -/
def ofScaled (significand : Nat) (exponent : Int) (narrowBelow : Bool) : RoundingInterval :=
  let unit := Nat.pow 2 (exponent - 2).toNat
  { lower := (4 * significand - if narrowBelow then 1 else 2) * unit
    value := 4 * significand * unit
    upper := (4 * significand + 2) * unit
    den := Nat.pow 2 (2 - exponent).toNat
    closed := significand % 2 = 0 }

variable (i : RoundingInterval)

/-- Whether `d * num / den` lies in the interval. -/
def contains (d num den : Nat) : Bool :=
  let x := d * num * i.den
  if i.closed then i.lower * den ≤ x ∧ x ≤ i.upper * den
  else i.lower * den < x ∧ x < i.upper * den

/-- The neighbour of the value on the grid `10 ^ place` that lies in the interval, the nearer one
if both do, the even one if they are equally near. -/
def onGrid? (place : Int) : Option Nat :=
  let num := Nat.pow 10 place.toNat
  let den := Nat.pow 10 (-place).toNat
  let d := i.value * den / (i.den * num)
  let below := i.contains d num den
  let above := i.contains (d + 1) num den
  if below && above then
    some (roundHalfEven (i.value * den) (i.den * num))
  else if below then some d
  else if above then some (d + 1)
  else none

/-- The first hit on the grids with `count`, `count + 1`, … digits, trying at most `fuel` of them. -/
def search (leading : Int) : Nat → Nat → Nat × Int
  | 0, count => (i.value / i.den, leading - count)
  | fuel + 1, count =>
    let place := leading - count + 1
    match i.onGrid? place with
    | some d => (d, place)
    | none => search leading fuel (count + 1)

/-- Seventeen digits always suffice for the 64-bit format. -/
def shortest : Decimal :=
  let (d, place) := i.search (quotientLog10 i.value i.den) 17 1
  ⟨d, place + decimalLength d - 1⟩

end RoundingInterval

namespace Decimal

/-- The digits as text, without the zeros at the end. -/
def digitText (d : Decimal) : List Char :=
  let cs := (Nat.toDigits 10 d.digits).reverse.dropWhile (· = '0')
  if cs.isEmpty then ['0'] else cs.reverse

end Decimal

end PlotStream
