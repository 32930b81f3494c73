import PlotStream.Message.DataSize
import PlotStream.Proofs.Number.Exactness

/-!
# The text of a data size

An integer below `2 ^ 53` is divided by 1024 twice, and neither quotient is rounded: each has the digits
of the integer at a place that is ten lower (`Double.Exactly`). Only the decimal place of the text is
rounded, and that is the rounding of the exact number of mebibytes (`dataSizeText_int`).
-/

namespace PlotStream

namespace Double

/-- A finite number that is not negative and has some digits, the last of which is worth a power of
two, without any rounding. -/
structure Exactly (x : Double) (s : Nat) (e : Int) : Prop where
  finite : x.isFinite = true
  positive : x.isNegative = false
  digits : ∃ j : Nat, BinaryFormat.binary64.magnitude x.unsigned = (s * 2 ^ j, e - j)

theorem toNat_ofMagnitude {bits : Nat} (h : bits < BinaryFormat.binary64.infinityBits) :
    (ofMagnitude false bits).bits.toNat = bits := by
  have hbound : BinaryFormat.binary64.infinityBits < 2 ^ 64 := by decide
  have hbits : (ofMagnitude false bits).bits = UInt64.ofNat bits := rfl
  rw [hbits, UInt64.toNat_ofNat']
  exact Nat.mod_eq_of_lt (h.trans hbound)

/-- A number with digits that the format has room for, in its reach. -/
theorem exactly_ofQuotient {num den s : Nat} {e : Int} (hden : 0 < den)
    (hdigits : s < 2 ^ 53) (hlow : -1074 ≤ e) (hhigh : e < 972)
    (hvalue : (num : ℚ) / den = s * 2 ^ e) : (ofQuotient false num den).Exactly s e := by
  have hleast : BinaryFormat.binary64.leastExponent ≤ e := hlow
  have hgreatest : e + 2 < BinaryFormat.binary64.leastExponent +
      2 ^ BinaryFormat.binary64.exponentBits := by
    have hsum : BinaryFormat.binary64.leastExponent +
        (2 : Int) ^ BinaryFormat.binary64.exponentBits = 974 := by decide
    omega
  obtain ⟨j, hmagnitude, hbits⟩ :=
    BinaryFormat.magnitude_round hden hdigits hleast hgreatest hvalue
  have hsign : BinaryFormat.binary64.infinityBits < BinaryFormat.binary64.signBit := by decide
  have htoNat := toNat_ofMagnitude hbits
  have hunsigned : (ofQuotient false num den).unsigned = BinaryFormat.binary64.round num den := by
    rw [unsigned, ofQuotient, htoNat]
    exact Nat.mod_eq_of_lt (hbits.trans hsign)
  refine ⟨?_, ?_, j, by rw [hunsigned, hmagnitude]⟩
  · rw [isFinite, hunsigned]
    exact decide_eq_true hbits
  · rw [isNegative, ofQuotient, htoNat]
    exact decide_eq_false (Nat.not_le.mpr (hbits.trans hsign))

/-- A shift of the last place within the reach of the format rounds nothing. -/
theorem Exactly.scale {x : Double} {s : Nat} {e : Int} (h : x.Exactly s e)
    (hdigits : s < 2 ^ 53) {k : Int} (hlow : -1074 ≤ e + k) (hhigh : e + k < 972) :
    (x.scale k).Exactly s (e + k) := by
  obtain ⟨j, hmagnitude⟩ := h.digits
  have hscale : x.scale k = ofQuotient false (s * 2 ^ j * 2 ^ (e - j + k).toNat)
      (2 ^ (-(e - j + k)).toNat) := by
    rw [Double.scale, if_pos h.finite, hmagnitude, h.positive]
    rfl
  rw [hscale]
  refine exactly_ofQuotient (Nat.two_pow_pos _) hdigits hlow hhigh ?_
  push_cast
  rw [mul_div_assoc, ← zpow_eq_div, mul_assoc, ← zpow_natCast 2 j, ← zpow_add₀ two_ne_zero]
  congr 2
  omega

theorem padNat_one (n : Nat) : padNat 1 n = Nat.toDigits 10 n := by
  have hlength : 0 < (Nat.toDigits 10 n).length := List.length_pos_of_ne_nil Nat.toDigits_ne_nil
  have hzeros : 1 - (Nat.toDigits 10 n).length = 0 := by omega
  rw [padNat, hzeros]
  rfl

/-- With one decimal place the nearest tenth is written, of two that are equally near the even one. -/
theorem Exactly.fixedPlaces_one {x : Double} {s k : Nat} (h : x.Exactly s (-(k : Int))) :
    x.fixedPlaces 1 =
      Nat.toDigits 10 (roundHalfEven (10 * s) (2 ^ k) / 10) ++
        '.' :: Nat.toDigits 10 (roundHalfEven (10 * s) (2 ^ k) % 10) := by
  obtain ⟨j, hmagnitude⟩ := h.digits
  have hnone : (-(k : Int) - j).toNat = 0 := by omega
  have hplaces : (-(-(k : Int) - j)).toNat = k + j := by omega
  have hround : roundHalfEven (s * 2 ^ j * 2 ^ 0 * 10) (2 ^ (k + j)) =
      roundHalfEven (10 * s) (2 ^ k) := by
    rw [← roundHalfEven_mul_right (10 * s) (2 ^ k) (Nat.two_pow_pos j), Nat.pow_add]
    congr 1
    ring
  rw [fixedPlaces, if_pos h.finite, hmagnitude]
  simp only [hnone, hplaces, h.positive, Nat.pow_eq, Nat.pow_one, hround, padNat_one]
  rfl

end Double

/-- The tenths of a mebibyte that are nearest to a number of bytes, of two that are equally near the
even ones. -/
def mebibyteTenths (n : Nat) : Nat :=
  roundHalfEven (10 * n) (2 ^ 20)

/-- Both divisions by 1024 are exact. -/
theorem toMebibytes_int {n : Nat} (hn : n < 2 ^ 53) :
    ∃ x : Double, (Value.int n).toMebibytes = .ok x ∧ x.Exactly n (-(20 : Nat)) := by
  have hquotient : (n : ℚ) / (1024 : Nat) = n * 2 ^ (-10 : Int) := by
    rw [zpow_neg, div_eq_mul_inv]
    norm_num
  have hkibi : (Double.ofQuotient false n 1024).Exactly n (-10) :=
    Double.exactly_ofQuotient (by decide) hn (by decide) (by decide) hquotient
  have hmebi : ((Double.ofQuotient false n 1024).scale (-10)).Exactly n (-10 + -10) :=
    hkibi.scale hn (by decide) (by decide)
  have hdivided : Double.kibiOfInt n = .ok (Double.ofQuotient false n 1024) := by
    have hsign : decide ((n : Int) < 0) = false :=
      decide_eq_false (Int.not_lt.mpr (Int.natCast_nonneg n))
    rw [Double.kibiOfInt, hsign, Int.natAbs_natCast]
    exact if_pos hkibi.finite
  refine ⟨_, ?_, hmebi⟩
  have hfirst : (Value.int n).kibi = .ok (.float (Double.ofQuotient false n 1024)) := by
    have hatom : (Value.int n).atomKibi = .ok (.float (Double.ofQuotient false n 1024)) := by
      rw [Value.atomKibi, hdivided]
      rfl
    rw [Value.kibi, hatom] <;> simp
  rw [Value.toMebibytes, hfirst]
  rfl

/-- The text of a number of bytes below `2 ^ 53`. -/
theorem dataSizeText_int {n : Nat} (hn : n < 2 ^ 53) :
    dataSizeText (.int n) =
      .ok (toString (mebibyteTenths n / 10) ++ "." ++ toString (mebibyteTenths n % 10) ++ " MB") := by
  obtain ⟨x, hx, hexact⟩ := toMebibytes_int hn
  have htext : String.ofList (x.fixedPlaces 1) =
      toString (mebibyteTenths n / 10) ++ "." ++ toString (mebibyteTenths n % 10) := by
    rw [hexact.fixedPlaces_one]
    exact String.toList_inj.mp (by simp [mebibyteTenths])
  rw [dataSizeText, hx, ← htext]
  rfl

-- ties go to the even tenth, down and up
example : (dataSizeText (.int 262144)).toOption = some "0.2 MB" := by decide +kernel
example : (dataSizeText (.int 786432)).toOption = some "0.8 MB" := by decide +kernel

end PlotStream
