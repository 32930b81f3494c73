import Mathlib.Algebra.Order.Field.Basic
import Mathlib.Algebra.Order.Field.Power
import Mathlib.Data.Rat.Cast.Order
import Mathlib.Tactic.FieldSimp
import Mathlib.Tactic.Linarith
import Mathlib.Tactic.Ring
import PlotStream.Number.Notation

/-!
# Numbers that a format holds

A number with few enough digits for a binary format, and with its last one in reach, is its own
rounding (`BinaryFormat.magnitude_round`): the significand that is read back is the digits, moved up by
some places. What is written of it with fixed places is then a single rounding of the exact number, and
`roundHalfEven` is the rounding to the nearest integer with ties to even (`roundHalfEven_nearest`).
-/

namespace PlotStream

/-! ## The nearest integer -/

/-- An integer nearest to `num / den`, and of two that are equally near the even one. -/
structure NearestEven (num den t : Nat) : Prop where
  close : 2 * ((t * den : Nat) - num : Int).natAbs ≤ den
  even : 2 * ((t * den : Nat) - num : Int).natAbs = den → t % 2 = 0

theorem roundHalfEven_nearest (num : Nat) {den : Nat} (hden : 0 < den) :
    NearestEven num den (roundHalfEven num den) := by
  have hsplit : num / den * den + num % den = num := Nat.div_add_mod' num den
  have hrest : num % den < den := Nat.mod_lt num hden
  unfold roundHalfEven
  generalize num / den = q at *
  generalize num % den = r at *
  have hup : (q + 1) * den = q * den + den := by rw [Nat.add_mul, Nat.one_mul]
  simp only
  split
  · exact ⟨by omega, by omega⟩
  split
  · exact ⟨by omega, by omega⟩
  split
  · exact ⟨by omega, by omega⟩
  · exact ⟨by omega, by omega⟩

/-- The rounding of a greater quotient is not less. -/
theorem NearestEven.mono {m n den t u : Nat} (hden : 0 < den) (ht : NearestEven m den t)
    (hu : NearestEven n den u) (hmn : m ≤ n) : t ≤ u := by
  by_contra hlt
  have hmul : (u + 1) * den ≤ t * den := Nat.mul_le_mul_right den (by omega)
  rw [Nat.add_mul, Nat.one_mul] at hmul
  have hclose := ht.close
  have hclose' := hu.close
  -- the two can only be neighbours, each half a unit away, and then both are even
  have hnext : t * den = (u + 1) * den := by
    rw [Nat.add_mul, Nat.one_mul]
    omega
  have hsucc : t = u + 1 := Nat.eq_of_mul_eq_mul_right hden hnext
  have heven := ht.even (by omega)
  have heven' := hu.even (by omega)
  omega

/-- A rounding is off by half a unit at most. -/
theorem NearestEven.abs_sub_le {num den t : Nat} (hden : 0 < den) (h : NearestEven num den t) :
    |(t : ℚ) - num / den| ≤ 1 / 2 := by
  have hden' : (0 : ℚ) < den := by exact_mod_cast hden
  have hclose : |((t * den : Nat) - num : Int)| * 2 ≤ den := by
    have hclose := h.close
    rw [Int.abs_eq_natAbs]
    omega
  have hdistance : |(t * den - num : ℚ)| * 2 ≤ den := by exact_mod_cast hclose
  have hquotient : (t : ℚ) - num / den = (t * den - num) / den := by
    rw [sub_div, mul_div_cancel_right₀ _ hden'.ne']
  rw [hquotient, abs_div, abs_of_pos hden', div_le_iff₀ hden']
  linarith

/-- The rounding does not depend on how a quotient is written. -/
theorem roundHalfEven_mul_right (num den : Nat) {c : Nat} (hc : 0 < c) :
    roundHalfEven (num * c) (den * c) = roundHalfEven num den := by
  have hmul (r : Nat) : 2 * (r * c) = 2 * r * c := by rw [Nat.mul_assoc]
  simp only [roundHalfEven, Nat.mul_div_mul_right _ _ hc, Nat.mul_mod_mul_right, hmul,
    Nat.mul_lt_mul_right hc]

theorem roundHalfEven_mul_self (m : Nat) {den : Nat} (hden : 0 < den) :
    roundHalfEven (m * den) den = m := by
  simp [roundHalfEven, Nat.mul_div_cancel _ hden, hden]

/-! ## Binary digits -/

theorem zpow_eq_div (e : Int) : (2 : ℚ) ^ e = 2 ^ e.toNat / 2 ^ (-e).toNat := by
  have hsplit : e = e.toNat - (-e).toNat := by omega
  conv_lhs => rw [hsplit, zpow_sub₀ two_ne_zero, zpow_natCast, zpow_natCast]

/-- The leading binary digit of a quotient. -/
theorem quotientLog2_spec {num den : Nat} (hnum : 0 < num) (hden : 0 < den) :
    (2 : ℚ) ^ quotientLog2 num den ≤ num / den ∧
      (num : ℚ) / den < 2 ^ (quotientLog2 num den + 1) := by
  have hden' : (0 : ℚ) < den := by exact_mod_cast hden
  have hnumlow : (2 : ℚ) ^ (Nat.log2 num : Int) ≤ num := by
    exact_mod_cast Nat.log2_self_le hnum.ne'
  have hnumhigh : (num : ℚ) < 2 ^ ((Nat.log2 num : Int) + 1) := by
    exact_mod_cast Nat.lt_log2_self
  have hdenlow : (2 : ℚ) ^ (Nat.log2 den : Int) ≤ den := by
    exact_mod_cast Nat.log2_self_le hden.ne'
  have hdenhigh : (den : ℚ) < 2 ^ ((Nat.log2 den : Int) + 1) := by
    exact_mod_cast Nat.lt_log2_self
  unfold quotientLog2
  simp only
  generalize (Nat.log2 num : Int) = a at *
  generalize (Nat.log2 den : Int) = b at *
  have htest : den * Nat.pow 2 (a - b).toNat ≤ num * Nat.pow 2 (-(a - b)).toNat ↔
      (2 : ℚ) ^ (a - b) ≤ num / den := by
    rw [zpow_eq_div, div_le_div_iff₀ (pow_pos two_pos _) hden', mul_comm]
    simp only [Nat.pow_eq]
    exact_mod_cast Iff.rfl
  split
  · rename_i h
    refine ⟨htest.mp h, (div_lt_iff₀ hden').mpr (hnumhigh.trans_le ?_)⟩
    calc (2 : ℚ) ^ (a + 1) = 2 ^ (a - b + 1) * 2 ^ b := by
          rw [← zpow_add₀ two_ne_zero]
          congr 1
          omega
      _ ≤ 2 ^ (a - b + 1) * den := by gcongr
  · rename_i h
    refine ⟨(le_div_iff₀ hden').mpr (le_trans ?_ hnumlow), ?_⟩
    · calc (2 : ℚ) ^ (a - b - 1) * den ≤ 2 ^ (a - b - 1) * 2 ^ (b + 1) := by gcongr
        _ = 2 ^ a := by
          rw [← zpow_add₀ two_ne_zero]
          congr 1
          omega
    · rw [sub_add_cancel]
      exact not_le.mp (htest.not.mp h)

namespace BinaryFormat

variable (fmt : BinaryFormat)

/-- Bits that are put together from a significand and the distance of its last place are taken apart
again. Only with the least place is the significand short. -/
theorem magnitude_bits {m d : Nat} (hm : m < 2 ^ (fmt.fractionBits + 1))
    (hfull : d = 0 ∨ 2 ^ fmt.fractionBits ≤ m) :
    fmt.magnitude (d * 2 ^ fmt.fractionBits + m) = (m, fmt.leastExponent + d) := by
  have hpos : 0 < 2 ^ fmt.fractionBits := Nat.two_pow_pos _
  rw [Nat.pow_succ] at hm
  unfold magnitude
  simp only [Nat.pow_eq]
  rcases Nat.lt_or_ge m (2 ^ fmt.fractionBits) with hshort | hlong
  · obtain rfl : d = 0 := hfull.resolve_right (by omega)
    rw [Nat.zero_mul, Nat.zero_add, Nat.div_eq_of_lt hshort, if_pos rfl, Nat.mod_eq_of_lt hshort]
    simp
  · obtain ⟨f, rfl⟩ := Nat.exists_eq_add_of_le hlong
    have hf : f < 2 ^ fmt.fractionBits := by omega
    have hbits : d * 2 ^ fmt.fractionBits + (2 ^ fmt.fractionBits + f) =
        f + 2 ^ fmt.fractionBits * (d + 1) := by ring
    rw [hbits, Nat.add_mul_div_left _ _ hpos, Nat.div_eq_of_lt hf, Nat.add_mul_mod_self_left,
      Nat.mod_eq_of_lt hf, if_neg (by omega)]
    refine Prod.ext (Nat.add_comm ..) ?_
    push_cast
    ring

/-- The exponent of the last place of the number nearest to a quotient. -/
def lastPlace (num den : Nat) : Int :=
  max (quotientLog2 num den - fmt.fractionBits) fmt.leastExponent

variable {fmt} {num den m : Nat} {q : Int}

/-- A whole number of last places is not rounded. -/
theorem roundHalfEven_of_value (hden : 0 < den) (hvalue : (num : ℚ) / den = m * 2 ^ q) :
    roundHalfEven (num * 2 ^ (-q).toNat) (den * 2 ^ q.toNat) = m := by
  have hden' : (den : ℚ) ≠ 0 := Nat.cast_ne_zero.mpr hden.ne'
  have hcast : (num : ℚ) * 2 ^ (-q).toNat = m * (den * 2 ^ q.toNat) := by
    rw [zpow_eq_div q] at hvalue
    field_simp at hvalue
    linarith
  have hexact : num * 2 ^ (-q).toNat = m * (den * 2 ^ q.toNat) := by exact_mod_cast hcast
  rw [hexact, roundHalfEven_mul_self m (Nat.mul_pos hden (Nat.two_pow_pos _))]

/-- The last place is not above that of digits that the format has room for. -/
theorem lastPlace_le (hnum : 0 < num) (hden : 0 < den) (hdigits : m < 2 ^ (fmt.fractionBits + 1))
    (hlow : fmt.leastExponent ≤ q) (hvalue : (num : ℚ) / den = m * 2 ^ q) :
    fmt.lastPlace num den ≤ q := by
  have hlog := (quotientLog2_spec hnum hden).1
  have hlt : (2 : ℚ) ^ quotientLog2 num den < 2 ^ (q + (fmt.fractionBits + 1 : Nat)) := by
    calc (2 : ℚ) ^ quotientLog2 num den ≤ m * 2 ^ q := hvalue ▸ hlog
      _ < 2 ^ (fmt.fractionBits + 1) * 2 ^ q := by
        gcongr
        exact_mod_cast hdigits
      _ = 2 ^ (q + (fmt.fractionBits + 1 : Nat)) := by
        rw [zpow_add₀ two_ne_zero, zpow_natCast, mul_comm]
  have hexponent := (zpow_lt_zpow_iff_right₀ (one_lt_two : (1 : ℚ) < 2)).mp hlt
  push_cast at hexponent
  exact max_le (by omega) hlow

/-- At the last place a significand has room in the format. -/
theorem lt_of_lastPlace (hnum : 0 < num) (hden : 0 < den)
    (hvalue : (num : ℚ) / den = m * 2 ^ fmt.lastPlace num den) :
    m < 2 ^ (fmt.fractionBits + 1) := by
  have hlog := (quotientLog2_spec hnum hden).2
  have hplace : quotientLog2 num den - fmt.fractionBits ≤ fmt.lastPlace num den := le_max_left ..
  rw [hvalue] at hlog
  generalize fmt.lastPlace num den = q at *
  have hlt : (m : ℚ) * 2 ^ q < 2 ^ (fmt.fractionBits + 1) * 2 ^ q := by
    calc (m : ℚ) * 2 ^ q < 2 ^ (quotientLog2 num den + 1) := hlog
      _ ≤ 2 ^ (((fmt.fractionBits + 1 : Nat) : Int) + q) := by
        refine zpow_le_zpow_right₀ one_le_two ?_
        push_cast
        omega
      _ = 2 ^ (fmt.fractionBits + 1) * 2 ^ q := by rw [zpow_add₀ two_ne_zero, zpow_natCast]
  exact_mod_cast lt_of_mul_lt_mul_right hlt (zpow_nonneg zero_le_two _)

/-- Above the least place a significand fills the format. -/
theorem le_of_lastPlace (hnum : 0 < num) (hden : 0 < den)
    (hvalue : (num : ℚ) / den = m * 2 ^ fmt.lastPlace num den) :
    fmt.lastPlace num den = fmt.leastExponent ∨ 2 ^ fmt.fractionBits ≤ m := by
  have hlog := (quotientLog2_spec hnum hden).1
  rcases max_choice (quotientLog2 num den - fmt.fractionBits) fmt.leastExponent with hplace | hplace
  · rw [hvalue, lastPlace, hplace] at hlog
    have hle : (2 : ℚ) ^ fmt.fractionBits * 2 ^ (quotientLog2 num den - fmt.fractionBits) ≤
        m * 2 ^ (quotientLog2 num den - fmt.fractionBits) := by
      rw [← zpow_natCast, ← zpow_add₀ two_ne_zero]
      convert hlog using 2
      omega
    exact .inr (by exact_mod_cast le_of_mul_le_mul_right hle (zpow_pos two_pos _))
  · exact .inl hplace

/-- Bits with a last place in reach stay below those of infinity. -/
theorem bits_lt_infinityBits {d : Nat} (hm : m < 2 ^ (fmt.fractionBits + 1))
    (hd : d + 3 ≤ 2 ^ fmt.exponentBits) :
    d * 2 ^ fmt.fractionBits + m < fmt.infinityBits := by
  have hcount : d + 2 ≤ 2 ^ fmt.exponentBits - 1 := by omega
  calc d * 2 ^ fmt.fractionBits + m
      < d * 2 ^ fmt.fractionBits + 2 ^ (fmt.fractionBits + 1) := Nat.add_lt_add_left hm _
    _ = (d + 2) * 2 ^ fmt.fractionBits := by ring
    _ ≤ fmt.infinityBits := Nat.mul_le_mul_right _ hcount

/-- Zero is read back from its rounding, at any place. -/
theorem magnitude_round_zero (hlow : fmt.leastExponent ≤ q) (hcount : 3 ≤ 2 ^ fmt.exponentBits) :
    ∃ j : Nat, fmt.magnitude (fmt.round 0 den) = (0 * 2 ^ j, q - j) ∧
      fmt.round 0 den < fmt.infinityBits := by
  have hbits : fmt.round 0 den = 0 * 2 ^ fmt.fractionBits + 0 := by simp [round]
  rw [hbits]
  refine ⟨(q - fmt.leastExponent).toNat, ?_, ?_⟩
  · rw [fmt.magnitude_bits (Nat.two_pow_pos _) (.inl rfl), Nat.zero_mul]
    refine Prod.ext rfl ?_
    simp only
    omega
  · exact bits_lt_infinityBits (Nat.two_pow_pos _) (by omega)

/-- A number that the format holds is read back from its rounding: its digits, moved up by some
places. -/
theorem magnitude_round {s : Nat} {e : Int} (hden : 0 < den)
    (hdigits : s < 2 ^ (fmt.fractionBits + 1)) (hlow : fmt.leastExponent ≤ e)
    (hhigh : e + 2 < fmt.leastExponent + 2 ^ fmt.exponentBits)
    (hvalue : (num : ℚ) / den = s * 2 ^ e) :
    ∃ j : Nat, fmt.magnitude (fmt.round num den) = (s * 2 ^ j, e - j) ∧
      fmt.round num den < fmt.infinityBits := by
  have hpow : ((2 ^ fmt.exponentBits : Nat) : Int) = 2 ^ fmt.exponentBits := by push_cast; rfl
  rcases Nat.eq_zero_or_pos num with rfl | hnum
  · obtain rfl : s = 0 := by simpa [zpow_ne_zero] using hvalue.symm
    exact magnitude_round_zero hlow (by omega)
  have hplace := lastPlace_le hnum hden hdigits hlow hvalue
  have hleast : fmt.leastExponent ≤ fmt.lastPlace num den := le_max_right ..
  -- the digits are moved up until the last place is that of the rounding
  obtain ⟨j, rfl⟩ : ∃ j : Nat, e = fmt.lastPlace num den + j :=
    ⟨(e - fmt.lastPlace num den).toNat, by omega⟩
  have hmoved : (num : ℚ) / den = (s * 2 ^ j : Nat) * 2 ^ fmt.lastPlace num den := by
    rw [hvalue, zpow_add₀ two_ne_zero, zpow_natCast]
    push_cast
    ring
  have hshort := lt_of_lastPlace hnum hden hmoved
  have hfull := le_of_lastPlace hnum hden hmoved
  have hround : fmt.round num den =
      min ((fmt.lastPlace num den - fmt.leastExponent).toNat * 2 ^ fmt.fractionBits + s * 2 ^ j)
        fmt.infinityBits := by
    rw [← roundHalfEven_of_value hden hmoved, round, if_neg hnum.ne']
    rfl
  generalize fmt.lastPlace num den = q at *
  have hbits : (q - fmt.leastExponent).toNat * 2 ^ fmt.fractionBits + s * 2 ^ j <
      fmt.infinityBits := bits_lt_infinityBits hshort (by omega)
  rw [hround, min_eq_left hbits.le]
  refine ⟨j, ?_, hbits⟩
  rw [fmt.magnitude_bits hshort (hfull.imp (by omega) id)]
  refine Prod.ext rfl ?_
  omega

end BinaryFormat

end PlotStream
