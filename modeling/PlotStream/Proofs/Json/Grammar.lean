import Mathlib.Data.List.TakeWhile
import PlotStream.Proofs.Json.RoundTrip

/-!
# The grammar of strings and numbers

Which texts are strings and numbers, and of which values, without a word about how they are read:
`Spells` says what may stand between two quotes, and `IsNumber` what may stand behind a sign. The reader
is compared with both. It takes off a text what is spelled up to the next quote
(`spells_of_scanString`, `Spells.scanString`) and what is a number, provided that the number ends where
it seems to end (`takeUnsigned?_isNumber`, `IsNumber.take_append`).
-/

namespace PlotStream.Json

/-! ## Strings -/

/-- The escape of a 16-bit unit. -/
def IsUnit (cs : List Char) (u : Nat) : Prop :=
  ∃ a b c d, cs = ['\\', 'u', a, b, c, d] ∧ unit? a b c d = some u

/-- A high surrogate and a low one that is escaped right behind it. -/
def JoinsNext (u : Nat) (behind : List Char) : Prop :=
  isHighSurrogate u = true ∧
    ∃ escape v tail, behind = escape ++ tail ∧ IsUnit escape v ∧ isLowSurrogate v = true

/-- What stands between the quotes of a string, and the code points it denotes. -/
inductive Spells : List Char → List Nat → Prop
  | nil : Spells [] []
  | plain {c : Char} {cs : List Char} {codes : List Nat} (hq : c ≠ '"') (hb : c ≠ '\\')
      (hc : 0x20 ≤ c.toNat) (h : Spells cs codes) : Spells (c :: cs) (c.toNat :: codes)
  | short {c : Char} {code : Nat} {cs : List Char} {codes : List Nat}
      (hc : shortEscape? c = some code) (h : Spells cs codes) :
      Spells ('\\' :: c :: cs) (code :: codes)
  | unit {escape cs : List Char} {u : Nat} {codes : List Nat} (hu : IsUnit escape u)
      (halone : ¬ JoinsNext u cs) (h : Spells cs codes) : Spells (escape ++ cs) (u :: codes)
  | pair {first second cs : List Char} {u v : Nat} {codes : List Nat} (hu : IsUnit first u)
      (hv : IsUnit second v) (hhigh : isHighSurrogate u = true) (hlow : isLowSurrogate v = true)
      (h : Spells cs codes) : Spells (first ++ second ++ cs) (joinSurrogates u v :: codes)

/-- A quote is no digit of a unit. -/
theorem IsUnit.quote_not_mem {cs : List Char} {u : Nat} (h : IsUnit cs u) : '"' ∉ cs := by
  have hquote : hexValue? '"' = none := by decide
  obtain ⟨a, b, c, d, rfl, hu⟩ := h
  simp only [List.mem_cons, List.not_mem_nil, or_false]
  rintro (h | h | rfl | rfl | rfl | rfl)
  · cases h
  · cases h
  all_goals simp [unit?, hquote] at hu

theorem JoinsNext.append {u : Nat} {cs : List Char} (h : JoinsNext u cs) (rest : List Char) :
    JoinsNext u (cs ++ rest) := by
  obtain ⟨hhigh, escape, v, tail, rfl, hv, hlow⟩ := h
  exact ⟨hhigh, escape, v, tail ++ rest, List.append_assoc .., hv, hlow⟩

/-- What stands behind the closing quote does not matter to a surrogate before it. -/
theorem JoinsNext.of_append_quote {u : Nat} {cs rest : List Char}
    (h : JoinsNext u (cs ++ '"' :: rest)) : JoinsNext u cs := by
  obtain ⟨hhigh, escape, v, tail, heq, hv, hlow⟩ := h
  rcases List.append_eq_append_iff.mp heq with ⟨more, rfl, hmore⟩ | ⟨more, rfl, -⟩
  · cases more with
    | nil => exact ⟨hhigh, cs ++ [], v, [], by simp, hv, hlow⟩
    | cons q more =>
      obtain ⟨rfl, -⟩ := List.cons.inj hmore
      exact absurd (by simp) hv.quote_not_mem
  · exact ⟨hhigh, escape, v, more, rfl, hv, hlow⟩

theorem joinsNext_iff {u : Nat} {e f g h : Char} {tail : List Char} :
    JoinsNext u ('\\' :: 'u' :: e :: f :: g :: h :: tail) ↔
      isHighSurrogate u = true ∧ ∃ v, unit? e f g h = some v ∧ isLowSurrogate v = true := by
  constructor
  · rintro ⟨hhigh, _, v, _, heq, ⟨_, _, _, _, rfl, hv⟩, hlow⟩
    simp only [List.cons_append, List.nil_append, List.cons.injEq, true_and] at heq
    obtain ⟨rfl, rfl, rfl, rfl, rfl⟩ := heq
    exact ⟨hhigh, v, hv, hlow⟩
  · rintro ⟨hhigh, v, hv, hlow⟩
    exact ⟨hhigh, _, v, tail, rfl, ⟨e, f, g, h, rfl, hv⟩, hlow⟩

section Scanning

variable {opening : Nat} {tail : List Char}

/-- Whatever follows a unit that is none, the string is not read. -/
theorem scanString_bad_unit {a b c d : Char} (h : unit? a b c d = none) (tail : List Char)
    (r : List Nat × List Char) :
    scanString opening ('\\' :: 'u' :: a :: b :: c :: d :: tail) ≠ .ok r := by
  cases tail with
  | nil =>
    rw [scanString.eq_6 _ _ (by simp) (by simp)]
    simp
  | cons e rest =>
    by_cases hnext : ∃ e₁ f g h i rest₁, e = '\\' ∧ rest = 'u' :: e₁ :: f :: g :: h :: i :: rest₁
    · obtain ⟨e₁, f, g, h', i, rest₁, rfl, rfl⟩ := hnext
      rw [scanString.eq_4, h]
      simp
    · rw [scanString.eq_5 _ _ _ _ _ _ _ fun e₁ f g h i rest₁ he hr =>
        hnext ⟨e₁, f, g, h, i, rest₁, he, hr⟩, h]
      simp

theorem scanString_alone {escape : List Char} {u : Nat} {r : List Nat × List Char}
    (hu : IsUnit escape u) (ht : tail ≠ []) (halone : ¬ JoinsNext u tail)
    (h : scanString opening tail = .ok r) :
    scanString opening (escape ++ tail) = consCode u (.ok r) := by
  obtain ⟨a, b, c, d, rfl, hu⟩ := hu
  obtain ⟨e, rest, rfl⟩ := List.exists_cons_of_ne_nil ht
  simp only [List.cons_append, List.nil_append]
  by_cases hnext : ∃ e₁ f g h i rest₁, e = '\\' ∧ rest = 'u' :: e₁ :: f :: g :: h :: i :: rest₁
  · obtain ⟨e₁, f, g, h', i, rest₁, rfl, rfl⟩ := hnext
    rw [scanString.eq_4, hu]
    cases hhigh : isHighSurrogate u with
    | false => simp [hhigh, h]
    | true =>
      cases hv : unit? e₁ f g h' with
      | none => exact absurd h (scanString_bad_unit hv _ _)
      | some v =>
        have hlow : isLowSurrogate v = false := by
          simpa [joinsNext_iff, hhigh, hv] using halone
        simp [hhigh, hlow, h]
  · rw [scanString.eq_5, hu, h]
    intro e₁ f g h i rest₁ he hr
    exact hnext ⟨e₁, f, g, h, i, rest₁, he, hr⟩

theorem scanString_joined {first second : List Char} {u v : Nat} (hu : IsUnit first u)
    (hv : IsUnit second v) (hhigh : isHighSurrogate u = true) (hlow : isLowSurrogate v = true)
    (ht : tail ≠ []) : scanString opening (first ++ second ++ tail) =
      consCode (joinSurrogates u v) (scanString opening tail) := by
  obtain ⟨a, b, c, d, rfl, hu⟩ := hu
  obtain ⟨e, f, g, h, rfl, hv⟩ := hv
  obtain ⟨i, rest, rfl⟩ := List.exists_cons_of_ne_nil ht
  simp only [List.cons_append, List.nil_append]
  rw [scanString.eq_4, hu, hv]
  simp [hhigh, hlow]

/-- What is spelled between quotes is read. -/
theorem Spells.scanString {body : List Char} {codes : List Nat} (h : Spells body codes)
    (rest : List Char) : Json.scanString opening (body ++ '"' :: rest) = .ok (codes, rest) := by
  induction h with
  | nil => simp [Json.scanString]
  | plain hq hb hc _ ih => rw [List.cons_append, scanString_plain hq hb hc, ih]; rfl
  | short hc _ ih => rw [List.cons_append, List.cons_append, scanString_short hc, ih]; rfl
  | unit hu halone _ ih =>
    rw [List.append_assoc, scanString_alone hu (by simp) (fun h => halone h.of_append_quote) ih]
    rfl
  | pair hu hv hhigh hlow _ ih =>
    rw [List.append_assoc, scanString_joined hu hv hhigh hlow (by simp), ih]
    rfl

theorem exists_of_consCode {c : Nat} {r : Except ReadError (List Nat × List Char)}
    {codes : List Nat} {rest : List Char} (h : consCode c r = .ok (codes, rest)) :
    ∃ more, r = .ok (more, rest) ∧ codes = c :: more := by
  cases r with
  | error e => cases h
  | ok p =>
    obtain ⟨rfl, rfl⟩ := Prod.mk.inj (Except.ok.inj h)
    exact ⟨p.1, rfl, rfl⟩

/-- A part of a string and what is spelled behind it. -/
theorem spells_behind (part : List Char) {cs rest : List Char} {code : Nat} {codes : List Nat}
    (h : consCode code (scanString opening cs) = .ok (codes, rest))
    (ih : ∀ {codes}, scanString opening cs = .ok (codes, rest) →
      ∃ body, cs = body ++ '"' :: rest ∧ Spells body codes)
    (hpart : ∀ body codes, cs = body ++ '"' :: rest → Spells body codes →
      Spells (part ++ body) (code :: codes)) :
    ∃ body, part ++ cs = body ++ '"' :: rest ∧ Spells body codes := by
  obtain ⟨more, hread, rfl⟩ := exists_of_consCode h
  obtain ⟨body, hbody, hspells⟩ := ih hread
  exact ⟨part ++ body, by rw [hbody, List.append_assoc], hpart body more hbody hspells⟩

/-- What is read up to the closing quote is spelled there. The cases are those of the reader. -/
theorem spells_of_scanString {cs rest : List Char} {codes : List Nat}
    (h : scanString opening cs = .ok (codes, rest)) :
    ∃ body, cs = body ++ '"' :: rest ∧ Spells body codes := by
  fun_induction scanString opening cs generalizing codes with
  | case1 => cases h
  | case2 tail =>
    obtain ⟨rfl, rfl⟩ := Prod.mk.inj (Except.ok.inj h)
    exact ⟨[], rfl, .nil⟩
  | case3 => cases h
  | case4 => cases h
  | case5 => cases h
  | case6 a b c d e f g i j tail u hu hhigh v hv hlow ih =>
    refine spells_behind ['\\', 'u', a, b, c, d, '\\', 'u', e, f, g, i] h ih ?_
    intro body codes _ hspells
    exact .pair ⟨a, b, c, d, rfl, hu⟩ ⟨e, f, g, i, rfl, hv⟩ hhigh hlow hspells
  | case7 a b c d e f g i j tail u hu hhigh v hv hlow ih =>
    refine spells_behind ['\\', 'u', a, b, c, d] h ih ?_
    intro body codes heq hspells
    refine .unit ⟨a, b, c, d, rfl, hu⟩ (fun hjoins => ?_) hspells
    have hnext := hjoins.append ('"' :: rest)
    rw [← heq, joinsNext_iff, hv] at hnext
    obtain ⟨-, w, hw, hlow'⟩ := hnext
    obtain rfl := Option.some.inj hw
    exact hlow hlow'
  | case8 a b c d e f g i j tail u hu hhigh ih =>
    refine spells_behind ['\\', 'u', a, b, c, d] h ih ?_
    intro body codes _ hspells
    exact .unit ⟨a, b, c, d, rfl, hu⟩ (fun hjoins => hhigh hjoins.1) hspells
  | case9 => cases h
  | case10 a b c d e tail hnext u hu ih =>
    refine spells_behind ['\\', 'u', a, b, c, d] h ih ?_
    intro body codes heq hspells
    refine .unit ⟨a, b, c, d, rfl, hu⟩ (fun hjoins => ?_) hspells
    obtain ⟨-, _, v, more, rfl, ⟨e', f, g, i, rfl, -⟩, -⟩ := hjoins
    obtain ⟨j, behind, hbehind⟩ : ∃ j behind, more ++ '"' :: rest = j :: behind :=
      List.exists_cons_of_ne_nil (by simp)
    rw [List.append_assoc, hbehind] at heq
    obtain ⟨rfl, rfl⟩ := List.cons.inj heq
    exact hnext e' f g i j behind rfl rfl
  | case11 => cases h
  | case12 => cases h
  | case13 c tail _ _ _ code hc ih =>
    exact spells_behind ['\\', c] h ih fun _ _ _ => .short hc
  | case14 => cases h
  | case15 c tail hq hend _ _ _ hb hc ih =>
    refine spells_behind [c] h ih fun _ _ _ => .plain hq ?_ (Nat.not_lt.mp hc)
    rintro rfl
    cases tail with
    | nil => exact hend rfl rfl
    | cons d tail => exact hb d tail rfl rfl

end Scanning

/-! ## Numbers -/

/-- Some digits. -/
def IsRun (ds : List Char) : Prop :=
  ds ≠ [] ∧ ∀ c ∈ ds, c.isDigit = true

theorem IsWhole.isRun {ds : List Char} (h : IsWhole ds) : IsRun ds :=
  ⟨h.nonempty, h.digits⟩

/-- The part of a number from its point on, which may be missing, and its digits. -/
inductive IsFraction : List Char → List Char → Prop
  | missing : IsFraction [] []
  | written {places : List Char} (h : IsRun places) : IsFraction ('.' :: places) places

/-- A sign, which may be missing. -/
inductive IsSign : List Char → Bool → Prop
  | missing : IsSign [] false
  | plus : IsSign ['+'] false
  | minus : IsSign ['-'] true

/-- The part of a number from its exponent mark on, which may be missing, and the exponent. -/
inductive IsScale : List Char → Int → Prop
  | missing : IsScale [] 0
  | written {mark : Char} {sign ds : List Char} {negative : Bool} (hmark : mark = 'e' ∨ mark = 'E')
      (hsign : IsSign sign negative) (h : IsRun ds) :
      IsScale (mark :: (sign ++ ds))
        (if negative then -(Numeral.digits ds : Int) else Numeral.digits ds)

/-- What stands behind the sign of a number, and the number. One without a fraction and an exponent is
an integer. -/
inductive IsNumber (negative : Bool) : List Char → Value → Prop
  | integer {whole : List Char} (hwhole : IsWhole whole) (hlen : whole.length ≤ digitLimit) :
      IsNumber negative whole
        (.int (if negative then -(Numeral.digits whole : Int) else Numeral.digits whole))
  | real {whole fraction places scale : List Char} {e : Int} (hwhole : IsWhole whole)
      (hfraction : IsFraction fraction places) (hscale : IsScale scale e)
      (hreal : fraction ≠ [] ∨ scale ≠ []) :
      IsNumber negative (whole ++ (fraction ++ scale)) (.float
        (Double.ofDecimal negative (Numeral.digits (whole ++ places)) (e - places.length)))

theorem isRun_takeWhile {cs : List Char} (h : (cs.takeWhile Char.isDigit).isEmpty = false) :
    IsRun (cs.takeWhile Char.isDigit) :=
  ⟨by simpa using h, fun _ hc => List.mem_takeWhile_imp hc⟩

/-! What the reader takes off a text for a part of a number is such a part. -/

theorem takeWhole?_isWhole {cs whole rest : List Char} (h : takeWhole? cs = some (whole, rest)) :
    cs = whole ++ rest ∧ IsWhole whole := by
  unfold takeWhole? at h
  split at h
  · obtain ⟨rfl, rfl⟩ := Prod.mk.inj (Option.some.inj h)
    exact ⟨rfl, isWhole_toDigits 0⟩
  · rename_i hzero
    rw [List.span_eq_takeWhile_dropWhile] at h
    obtain ⟨hne, h⟩ := Option.ite_none_left_eq_some.mp h
    obtain ⟨rfl, rfl⟩ := Prod.mk.inj (Option.some.inj h)
    obtain ⟨hnonempty, hdigits⟩ := isRun_takeWhile (by simpa using hne)
    refine ⟨(List.takeWhile_append_dropWhile ..).symm, hdigits, hnonempty, fun hfirst => ?_⟩
    rw [← List.head?_append_of_ne_nil _ hnonempty, List.takeWhile_append_dropWhile] at hfirst
    obtain ⟨tail, rfl⟩ := List.head?_eq_some_iff.mp hfirst
    exact absurd rfl (hzero tail)

theorem takeFraction?_isFraction (cs : List Char) :
    ∃ fraction, cs = fraction ++ ((takeFraction? cs).getD ([], cs)).2 ∧
      IsFraction fraction ((takeFraction? cs).getD ([], cs)).1 ∧
      ((takeFraction? cs).isSome = true ↔ fraction ≠ []) := by
  cases h : takeFraction? cs with
  | none => exact ⟨[], rfl, .missing, by simp⟩
  | some r =>
    unfold takeFraction? at h
    split at h
    · rename_i tail
      rw [List.span_eq_takeWhile_dropWhile] at h
      obtain ⟨hne, h⟩ := Option.ite_none_left_eq_some.mp h
      obtain rfl := Option.some.inj h
      exact ⟨'.' :: tail.takeWhile Char.isDigit, by simp, .written (isRun_takeWhile (by simpa using hne)), by simp⟩
    · cases h

theorem takeSign_isSign (cs : List Char) :
    ∃ sign, cs = sign ++ (Numeral.takeSign cs).2 ∧ IsSign sign (Numeral.takeSign cs).1 := by
  unfold Numeral.takeSign
  split
  · exact ⟨_, rfl, .minus⟩
  · exact ⟨_, rfl, .plus⟩
  · exact ⟨_, rfl, .missing⟩

theorem takeExponent?_isScale (cs : List Char) :
    ∃ scale, cs = scale ++ ((Numeral.takeExponent? cs).getD (0, cs)).2 ∧
      IsScale scale ((Numeral.takeExponent? cs).getD (0, cs)).1 ∧
      ((Numeral.takeExponent? cs).isSome = true ↔ scale ≠ []) := by
  cases h : Numeral.takeExponent? cs with
  | none => exact ⟨[], rfl, .missing, by simp⟩
  | some r =>
    cases cs with
    | nil => cases h
    | cons mark tail =>
      obtain ⟨sign, htail, hsign⟩ := takeSign_isSign tail
      simp only [Numeral.takeExponent?, List.span_eq_takeWhile_dropWhile] at h
      obtain ⟨hmark, h⟩ := Option.ite_none_right_eq_some.mp h
      obtain ⟨hne, h⟩ := Option.ite_none_left_eq_some.mp h
      obtain rfl := Option.some.inj h
      refine ⟨_, ?_, .written (by simpa using hmark) hsign (isRun_takeWhile (by simpa using hne)), by simp⟩
      simp [← htail]

theorem takeUnsigned?_isNumber {negative : Bool} {cs rest : List Char} {v : Value}
    (h : takeUnsigned? negative cs = some (.ok (v, rest))) :
    ∃ text, cs = text ++ rest ∧ IsNumber negative text v := by
  unfold takeUnsigned? at h
  obtain ⟨⟨whole, behind⟩, htake, h⟩ := Option.bind_eq_some_iff.mp h
  obtain ⟨hcs, hwhole⟩ := takeWhole?_isWhole htake
  obtain ⟨fraction, hbehind, hfraction, hpoint⟩ := takeFraction?_isFraction behind
  dsimp only at h
  generalize takeFraction? behind = taken at h hbehind hfraction hpoint
  generalize taken.getD ([], behind) = places at h hbehind hfraction
  obtain ⟨scale, hscaled, hscale, hmark⟩ := takeExponent?_isScale places.2
  generalize Numeral.takeExponent? places.2 = taken at h hscaled hscale hmark
  generalize taken.getD (0, places.2) = exponent at h hscaled hscale
  rw [hcs, hbehind, hscaled]
  split at h
  · rename_i hreal
    obtain ⟨rfl, rfl⟩ := Prod.mk.inj (Except.ok.inj (Option.some.inj h))
    rw [Bool.or_eq_true, hpoint, hmark] at hreal
    exact ⟨_, by simp, .real hwhole hfraction hscale hreal⟩
  · rename_i hreal
    rw [Bool.or_eq_true, hpoint, hmark, not_or, not_not, not_not] at hreal
    obtain ⟨rfl, rfl⟩ := hreal
    split at h
    · cases Option.some.inj h
    · rename_i hlen
      obtain ⟨rfl, rfl⟩ := Prod.mk.inj (Except.ok.inj (Option.some.inj h))
      exact ⟨whole, by simp, .integer hwhole (Nat.not_lt.mp hlen)⟩

/-! Conversely, such a part is taken off a text if what follows does not go on with it. -/

theorem endsDigits_point (rest : List Char) : EndsDigits ('.' :: rest) := by
  simp [EndsDigits, Char.isDigit]

theorem takeFraction?_append {places rest : List Char} (h : IsRun places) (hr : EndsDigits rest) :
    takeFraction? ('.' :: places ++ rest) = some (places, rest) := by
  rw [List.cons_append, takeFraction?, span_isDigit_append h.2 hr]
  simp [h.1]

theorem IsFraction.endsDigits {fraction places : List Char} (h : IsFraction fraction places)
    {rest : List Char} (hr : EndsDigits rest) : EndsDigits (fraction ++ rest) := by
  cases h with
  | missing => exact hr
  | written h => exact endsDigits_point _

theorem IsFraction.take_append {fraction places : List Char} (h : IsFraction fraction places)
    {rest : List Char} (hr : EndsDigits rest) (hpoint : takeFraction? rest = none) :
    (takeFraction? (fraction ++ rest)).getD ([], fraction ++ rest) = (places, rest) ∧
      ((takeFraction? (fraction ++ rest)).isSome = true ↔ fraction ≠ []) := by
  cases h with
  | missing => simp [hpoint]
  | written h => simp only [takeFraction?_append h hr]; simp

theorem IsScale.endsDigits {scale : List Char} {e : Int} (h : IsScale scale e) {rest : List Char}
    (hr : EndsNumber rest) : EndsDigits (scale ++ rest) ∧ takeFraction? (scale ++ rest) = none := by
  cases h with
  | missing => exact ⟨hr.endsDigits, takeFraction?_of_endsNumber hr⟩
  | written hmark => rcases hmark with rfl | rfl <;> exact ⟨by simp [EndsDigits, Char.isDigit], rfl⟩

theorem takeSign_append {sign ds : List Char} {negative : Bool} (hsign : IsSign sign negative)
    (h : IsRun ds) (rest : List Char) :
    Numeral.takeSign (sign ++ ds ++ rest) = (negative, ds ++ rest) := by
  cases hsign with
  | plus | minus => rfl
  | missing =>
    obtain ⟨c, tail, rfl⟩ := List.exists_cons_of_ne_nil h.1
    have hdigit := h.2 c (List.mem_cons_self ..)
    simp only [List.nil_append, List.cons_append, Numeral.takeSign]
    split
    · rename_i heq
      obtain ⟨rfl, -⟩ := List.cons.inj heq
      cases hdigit
    · rename_i heq
      obtain ⟨rfl, -⟩ := List.cons.inj heq
      cases hdigit
    · rfl

theorem IsScale.take_append {scale : List Char} {e : Int} (h : IsScale scale e) {rest : List Char}
    (hr : EndsNumber rest) :
    (Numeral.takeExponent? (scale ++ rest)).getD (0, scale ++ rest) = (e, rest) ∧
      ((Numeral.takeExponent? (scale ++ rest)).isSome = true ↔ scale ≠ []) := by
  cases h with
  | missing => simp [takeExponent?_of_endsNumber hr]
  | @written mark sign ds negative hmark hsign h =>
    have htake : Numeral.takeExponent? (mark :: (sign ++ ds) ++ rest) =
        some (if negative then -(Numeral.digits ds : Int) else Numeral.digits ds, rest) := by
      rw [List.cons_append, Numeral.takeExponent?, takeSign_append hsign h]
      simp only [span_isDigit_append h.2 hr.endsDigits]
      simp [hmark, h.1]
    simp only [htake]
    simp

/-- What stands behind a sign is read as the number that it is. -/
theorem IsNumber.take_append {negative : Bool} {text : List Char} {v : Value}
    (h : IsNumber negative text v) {rest : List Char} (hr : EndsNumber rest) :
    takeUnsigned? negative (text ++ rest) = some (.ok (v, rest)) := by
  cases h with
  | integer hwhole hlen =>
    have hlimit := Nat.not_lt.mpr hlen
    simp [takeUnsigned?, takeWhole?_append hwhole hr.endsDigits, takeFraction?_of_endsNumber hr,
      takeExponent?_of_endsNumber hr, hlimit]
  | @real whole fraction places scale e hwhole hfraction hscale hreal =>
    obtain ⟨hends, hnopoint⟩ := hscale.endsDigits hr
    obtain ⟨hplaces, hpoint⟩ := hfraction.take_append hends hnopoint
    obtain ⟨hexponent, hmark⟩ := hscale.take_append hr
    have hsome : ((takeFraction? (fraction ++ (scale ++ rest))).isSome ||
        (Numeral.takeExponent? (scale ++ rest)).isSome) = true := by
      rw [Bool.or_eq_true, hpoint, hmark]
      exact hreal
    rw [List.append_assoc, List.append_assoc, takeUnsigned?,
      takeWhole?_append hwhole (hfraction.endsDigits hends)]
    simp only [Option.bind_eq_bind, Option.bind_some, hplaces, hexponent, hsome, if_true]
    rfl

theorem IsNumber.starts {negative : Bool} {text : List Char} {v : Value}
    (h : IsNumber negative text v) : ∃ c tail, text = c :: tail ∧ c.isDigit = true := by
  have hstarts {whole : List Char} (hwhole : IsWhole whole) (rest : List Char) :
      ∃ c tail, whole ++ rest = c :: tail ∧ c.isDigit = true := by
    obtain ⟨c, tail, rfl⟩ := List.exists_cons_of_ne_nil hwhole.nonempty
    exact ⟨c, tail ++ rest, rfl, hwhole.digits c (List.mem_cons_self ..)⟩
  cases h with
  | integer hwhole => simpa using hstarts hwhole []
  | real hwhole => exact hstarts hwhole _

end PlotStream.Json
