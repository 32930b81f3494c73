/-!
# Rounding of quotients

Exact rounding of `num / den` to an integer, and the position of the leading binary digit of such
a quotient. Every conversion to a binary format and every decimal with a fixed number of places
goes through `roundHalfEven`.
-/

namespace PlotStream

/-- The integer nearest to `num / den`; a quotient halfway between two integers goes to the even
one. -/
def roundHalfEven (num den : Nat) : Nat :=
  let q := num / den
  let r := num % den
  if 2 * r < den then q
  else if den < 2 * r then q + 1
  else if q % 2 = 0 then q else q + 1

/-- The exponent `e` with `2 ^ e ≤ num / den < 2 ^ (e + 1)`, for positive `num` and `den`. -/
def quotientLog2 (num den : Nat) : Int :=
  let e : Int := (Nat.log2 num : Int) - (Nat.log2 den : Int)
  if den * Nat.pow 2 e.toNat ≤ num * Nat.pow 2 (-e).toNat then e else e - 1

/-- The number of decimal digits of `n`; zero has one. -/
def decimalLength (n : Nat) : Nat :=
  (Nat.toDigits 10 n).length

/-- The exponent `e` with `10 ^ e ≤ num / den < 10 ^ (e + 1)`, for positive `num` and `den`. -/
def quotientLog10 (num den : Nat) : Int :=
  if den ≤ num then
    (decimalLength (num / den) : Int) - 1
  else
    let l := decimalLength (den / num)
    if den ≤ num * Nat.pow 10 (l - 1) then 1 - (l : Int) else -(l : Int)

end PlotStream
