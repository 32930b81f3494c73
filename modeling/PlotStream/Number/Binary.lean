import PlotStream.Number.Rounding

/-!
# Binary floating point

An IEEE 754 interchange format is given by two widths (`BinaryFormat`). `BinaryFormat.round` takes
any quotient of natural numbers to the nearest value of the format, ties to even, and
`BinaryFormat.magnitude` reads a bit pattern back as a significand times a power of two. `Double`
is a value of the 64-bit format, kept as its bits, so every operation on it is exact integer
arithmetic.
-/

namespace PlotStream

/-- The widths of an interchange format: a sign bit, an exponent field and a fraction field. -/
structure BinaryFormat where
  fractionBits : Nat
  exponentBits : Nat
deriving DecidableEq, Repr

namespace BinaryFormat

/-- The 16-bit format. -/
def binary16 : BinaryFormat := ⟨10, 5⟩

/-- The 32-bit format. -/
def binary32 : BinaryFormat := ⟨23, 8⟩

/-- The 64-bit format. -/
def binary64 : BinaryFormat := ⟨52, 11⟩

variable (fmt : BinaryFormat)

/-- The exponent of the last place of the subnormal numbers. -/
def leastExponent : Int :=
  2 - Nat.pow 2 (fmt.exponentBits - 1) - fmt.fractionBits

/-- The bits of positive infinity: a full exponent field and an empty fraction. -/
def infinityBits : Nat :=
  (Nat.pow 2 fmt.exponentBits - 1) * Nat.pow 2 fmt.fractionBits

/-- The position of the sign bit. -/
def signBit : Nat :=
  Nat.pow 2 (fmt.exponentBits + fmt.fractionBits)

/-- The bits of the value nearest to `num / den`, ties to the even significand; a quotient that
rounds beyond the largest finite value becomes infinity. -/
def round (num den : Nat) : Nat :=
  if num = 0 then 0
  else
    let q := max (quotientLog2 num den - fmt.fractionBits) fmt.leastExponent
    let m := roundHalfEven (num * Nat.pow 2 (-q).toNat) (den * Nat.pow 2 q.toNat)
    min ((q - fmt.leastExponent).toNat * Nat.pow 2 fmt.fractionBits + m) fmt.infinityBits

/-- The bits of the value nearest to `significand * 2 ^ exponent`. -/
def roundScaled (significand : Nat) (exponent : Int) : Nat :=
  fmt.round (significand * Nat.pow 2 exponent.toNat) (Nat.pow 2 (-exponent).toNat)

/-- The significand and the exponent of the last place of unsigned, finite bits. -/
def magnitude (bits : Nat) : Nat × Int :=
  let field := bits / Nat.pow 2 fmt.fractionBits
  let fraction := bits % Nat.pow 2 fmt.fractionBits
  if field = 0 then (fraction, fmt.leastExponent)
  else (fraction + Nat.pow 2 fmt.fractionBits, fmt.leastExponent + field - 1)

end BinaryFormat

/-- A 64-bit floating point number, as its bits. -/
structure Double where
  bits : UInt64
deriving DecidableEq, Repr, Inhabited

namespace Double

/-- The number with the given sign and unsigned bits. -/
def ofMagnitude (negative : Bool) (bits : Nat) : Double :=
  ⟨UInt64.ofNat (if negative then BinaryFormat.binary64.signBit + bits else bits)⟩

def zero : Double := ⟨0⟩

/-- The quiet NaN without payload and sign. -/
def nan : Double := ⟨0x7ff8000000000000⟩

def infinity : Double := ⟨0x7ff0000000000000⟩

variable (x : Double)

/-- The sign bit. -/
def isNegative : Bool :=
  BinaryFormat.binary64.signBit ≤ x.bits.toNat

/-- The bits without the sign. -/
def unsigned : Nat :=
  x.bits.toNat % BinaryFormat.binary64.signBit

def isNaN : Bool :=
  BinaryFormat.binary64.infinityBits < x.unsigned

def isInfinite : Bool :=
  x.unsigned = BinaryFormat.binary64.infinityBits

def isFinite : Bool :=
  x.unsigned < BinaryFormat.binary64.infinityBits

/-- Positive or negative zero. -/
def isZero : Bool :=
  x.unsigned = 0

/-- The exact value of a finite number. -/
def toDyadic : Dyadic :=
  let (m, e) := BinaryFormat.binary64.magnitude x.unsigned
  Dyadic.ofIntWithPrec (if x.isNegative then -(m : Int) else m) (-e)

/-- The number nearest to `num / den`, with the given sign. -/
def ofQuotient (negative : Bool) (num den : Nat) : Double :=
  ofMagnitude negative (BinaryFormat.binary64.round num den)

/-- The number nearest to an integer, infinite when the integer is out of range. -/
def ofInt (n : Int) : Double :=
  ofQuotient (n < 0) n.natAbs 1

/-- The number nearest to `digits * 10 ^ exponent`. Far outside the range of the format the
answer is known from the number of digits alone. -/
def ofDecimal (negative : Bool) (digits : Nat) (exponent : Int) : Double :=
  let top := (decimalLength digits : Int) + exponent
  if digits = 0 ∨ top < -330 then ofMagnitude negative 0
  else if 330 < top then ofMagnitude negative BinaryFormat.binary64.infinityBits
  else ofQuotient negative (digits * Nat.pow 10 exponent.toNat) (Nat.pow 10 (-exponent).toNat)

/-- The integer part of a finite number, toward zero. -/
def truncate : Int :=
  let (m, e) := BinaryFormat.binary64.magnitude x.unsigned
  let n := m * Nat.pow 2 e.toNat / Nat.pow 2 (-e).toNat
  if x.isNegative then -(n : Int) else n

/-- The number nearest to `x * 2 ^ k`. -/
def scale (x : Double) (k : Int) : Double :=
  if x.isFinite then
    let (m, e) := BinaryFormat.binary64.magnitude x.unsigned
    ofMagnitude x.isNegative (BinaryFormat.binary64.roundScaled m (e + k))
  else x

/-- The eight bytes, lowest first. -/
def littleEndian : List UInt8 :=
  (List.range 8).map fun i => (x.bits >>> UInt64.ofNat (8 * i)).toUInt8

end Double

/-- The value of a 16-bit or 32-bit number, exactly, in the 64-bit format. -/
def BinaryFormat.widen (fmt : BinaryFormat) (bits : Nat) : Double :=
  let unsigned := bits % fmt.signBit
  let negative := decide (fmt.signBit ≤ bits)
  if fmt.infinityBits < unsigned then Double.nan
  else if unsigned = fmt.infinityBits then
    Double.ofMagnitude negative BinaryFormat.binary64.infinityBits
  else
    let (m, e) := fmt.magnitude unsigned
    Double.ofMagnitude negative (BinaryFormat.binary64.roundScaled m e)

/-- The value of the narrower format nearest to a 64-bit number, as a 64-bit number. -/
def BinaryFormat.narrow (fmt : BinaryFormat) (x : Double) : Double :=
  if x.isNaN then x
  else if x.isInfinite then x
  else
    let (m, e) := BinaryFormat.binary64.magnitude x.unsigned
    let bits := fmt.roundScaled m e
    fmt.widen (if x.isNegative then fmt.signBit + bits else bits)

end PlotStream
