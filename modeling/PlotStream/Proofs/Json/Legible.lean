import Mathlib.Data.List.DropRight
import PlotStream.Proofs.Json.Grammar

/-!
# Whatever is written can be read

Not every value comes back as itself, or as itself but for its tuples. Here it is enough that a text can be
read at all: `encode_legible` says so of everything the writer makes of values for a message, numbers
with a fraction or an exponent and member names that are no text among them. The value that is read
may be another one.
-/

namespace PlotStream

/-! ## Leading digits -/

theorem div_le_roundHalfEven (num den : Nat) : num / den ≤ roundHalfEven num den := by
  simp only [roundHalfEven]
  split
  · exact le_refl _
  split
  · exact Nat.le_succ _
  split
  · exact le_refl _
  · exact Nat.le_succ _

theorem pow_le_of_decimalLength {n : Nat} (h : 0 < n) : 10 ^ (decimalLength n - 1) ≤ n := by
  rcases Nat.eq_zero_or_pos (decimalLength n - 1) with hone | hmore
  · rw [hone]
    exact h
  · refine Nat.not_lt.mp fun hlt => ?_
    have hlen := (Nat.length_toDigits_le_iff (by decide) hmore).mpr hlt
    rw [decimalLength] at hlen hmore
    omega

/-- A quotient without integer part starts at the first place or behind it. -/
theorem quotientLog10_le_zero {num den : Nat} (h : num / den = 0) : quotientLog10 num den ≤ 0 := by
  unfold quotientLog10
  split
  · rw [h]
    decide
  · have hpos : 0 < decimalLength (den / num) := List.length_pos_of_ne_nil Nat.toDigits_ne_nil
    dsimp only
    split <;> omega

theorem pow_le_of_quotientLog10 {num den : Nat} (h : 0 < quotientLog10 num den) :
    0 < den ∧ den * 10 ^ (quotientLog10 num den).toNat ≤ num := by
  have hquotient : num / den ≠ 0 := fun hzero => by
    have hle := quotientLog10_le_zero hzero
    omega
  have hle : den ≤ num := Nat.not_lt.mp fun hlt => hquotient (Nat.div_eq_of_lt hlt)
  have hden : 0 < den := Nat.pos_of_ne_zero fun hzero => hquotient (by rw [hzero, Nat.div_zero])
  have hlog : (quotientLog10 num den).toNat = decimalLength (num / den) - 1 := by
    rw [quotientLog10, if_pos hle]
    omega
  refine ⟨hden, ?_⟩
  rw [hlog]
  calc den * 10 ^ (decimalLength (num / den) - 1) ≤ den * (num / den) :=
        Nat.mul_le_mul_left _ (pow_le_of_decimalLength (Nat.pos_of_ne_zero hquotient))
    _ ≤ num := Nat.mul_div_le num den

namespace RoundingInterval

variable (i : RoundingInterval)

/-- Only a grid that is too coarse has no digit at all. -/
theorem place_nonpos_of_onGrid? {place : Int} (hplace : place ≤ quotientLog10 i.value i.den)
    (h : i.onGrid? place = some 0) : place ≤ 0 := by
  refine Int.not_lt.mp fun hpos => ?_
  obtain ⟨hden, hpow⟩ := pow_le_of_quotientLog10 (Int.lt_of_lt_of_le hpos hplace)
  have hgrid : 0 < i.den * 10 ^ place.toNat := Nat.mul_pos hden (Nat.pow_pos (by decide))
  have hreach : i.den * 10 ^ place.toNat ≤ i.value * 10 ^ (-place).toNat := by
    have hzero : (-place).toNat = 0 := by omega
    rw [hzero, Nat.pow_zero, Nat.mul_one]
    exact le_trans (Nat.mul_le_mul_left _ (Nat.pow_le_pow_right (by decide) (by omega))) hpow
  have hdigit : 0 < i.value * 10 ^ (-place).toNat / (i.den * 10 ^ place.toNat) :=
    Nat.div_pos hreach hgrid
  have hround := div_le_roundHalfEven (i.value * 10 ^ (-place).toNat) (i.den * 10 ^ place.toNat)
  simp only [onGrid?, Nat.pow_eq] at h
  split at h
  · have hzero := Option.some.inj h
    omega
  split at h
  · have hzero := Option.some.inj h
    omega
  split at h
  · cases Option.some.inj h
  · cases h

theorem place_nonpos_of_search (fuel : Nat) {count : Nat} (hcount : 1 ≤ count)
    (h : (i.search (quotientLog10 i.value i.den) fuel count).1 = 0) :
    (i.search (quotientLog10 i.value i.den) fuel count).2 ≤ 0 := by
  induction fuel generalizing count with
  | zero =>
    have hlog := quotientLog10_le_zero (show i.value / i.den = 0 from h)
    simp only [search]
    omega
  | succ fuel ih =>
    rw [search] at h ⊢
    split at h
    · rename_i d hgrid
      obtain rfl : d = 0 := h
      exact i.place_nonpos_of_onGrid? (by omega) hgrid
    · exact ih (by omega) h

/-- The shortest decimal is zero only where no zeros have to be put behind it. -/
theorem exponent_nonpos_of_shortest (h : i.shortest.digits = 0) : i.shortest.exponent ≤ 0 := by
  have hplace := i.place_nonpos_of_search 17 (le_refl 1) h
  have hexponent : i.shortest.exponent =
      (i.search (quotientLog10 i.value i.den) 17 1).2 + decimalLength i.shortest.digits - 1 := rfl
  rw [hexponent, h]
  have hone : decimalLength 0 = 1 := rfl
  omega

end RoundingInterval

namespace Json

/-! ## Reals -/

theorem IsWhole.of_prefix {ds ds' : List Char} (h : IsWhole ds) (hpre : ds' <+: ds)
    (hne : ds' ≠ []) : IsWhole ds' where
  digits c hc := h.digits c (hpre.subset hc)
  nonempty := hne
  first hzero := by
    obtain ⟨tail, rfl⟩ := hpre
    have hall := h.first ((List.head?_append_of_ne_nil _ hne).trans hzero)
    obtain ⟨c, cs, rfl⟩ := List.exists_cons_of_ne_nil hne
    simp_all

theorem IsWhole.append_zeros {ds : List Char} (h : IsWhole ds) (hne : ds ≠ ['0']) (n : Nat) :
    IsWhole (ds ++ List.replicate n '0') where
  digits c hc := by
    rcases List.mem_append.mp hc with hc | hc
    · exact h.digits c hc
    · rw [List.eq_of_mem_replicate hc]
      decide
  nonempty := by simp [h.nonempty]
  first hzero := absurd (h.first ((List.head?_append_of_ne_nil _ h.nonempty).symm.trans hzero)) hne

theorem IsRun.append_left {ds : List Char} (h : IsRun ds) (n : Nat) :
    IsRun (List.replicate n '0' ++ ds) := by
  refine ⟨by simp [h.1], fun c hc => ?_⟩
  rcases List.mem_append.mp hc with hc | hc
  · rw [List.eq_of_mem_replicate hc]
    decide
  · exact h.2 c hc

/-- An exponent as it is written. -/
def IsExponent (cs : List Char) : Prop :=
  ∃ sign ds, (sign = '-' ∨ sign = '+') ∧ IsRun ds ∧ cs = 'e' :: sign :: ds

/-- The text of a number with a fraction or an exponent, without its sign. -/
inductive IsReal : List Char → Prop
  | fraction {whole places : List Char} (hwhole : IsWhole whole) (hplaces : IsRun places) :
      IsReal (whole ++ '.' :: places)
  | exponent {whole cs : List Char} (hwhole : IsWhole whole) (hexponent : IsExponent cs) :
      IsReal (whole ++ cs)
  | both {whole places cs : List Char} (hwhole : IsWhole whole) (hplaces : IsRun places)
      (hexponent : IsExponent cs) : IsReal (whole ++ '.' :: places ++ cs)

theorem IsExponent.isScale {cs : List Char} (h : IsExponent cs) : ∃ e, IsScale cs e := by
  obtain ⟨sign, ds, rfl | rfl, hds, rfl⟩ := h
  · exact ⟨_, .written (.inl rfl) .minus hds⟩
  · exact ⟨_, .written (.inl rfl) .plus hds⟩

theorem IsReal.isNumber (negative : Bool) {cs : List Char} (h : IsReal cs) :
    ∃ x, IsNumber negative cs (.float x) := by
  have hreal {whole fraction places scale : List Char} {e : Int} (hwhole : IsWhole whole)
      (hfraction : IsFraction fraction places) (hscale : IsScale scale e)
      (hne : fraction ≠ [] ∨ scale ≠ []) :
      ∃ x, IsNumber negative (whole ++ (fraction ++ scale)) (.float x) :=
    ⟨_, .real hwhole hfraction hscale hne⟩
  cases h with
  | fraction hwhole hplaces => simpa using hreal hwhole (.written hplaces) .missing (.inl nofun)
  | exponent hwhole hexponent =>
    obtain ⟨e, hscale⟩ := hexponent.isScale
    obtain ⟨sign, ds, -, -, rfl⟩ := hexponent
    exact hreal hwhole .missing hscale (.inr nofun)
  | both hwhole hplaces hexponent =>
    obtain ⟨e, hscale⟩ := hexponent.isScale
    simpa using hreal hwhole (.written hplaces) hscale (.inl nofun)

theorem IsReal.starts {cs : List Char} (h : IsReal cs) :
    ∃ c tail, cs = c :: tail ∧ c.isDigit = true :=
  have ⟨_, hx⟩ := h.isNumber false
  hx.starts

theorem readsAs_real (negative : Bool) {cs : List Char} (h : IsReal cs) :
    ∃ x, ReadsAs (signed negative cs) (.float x) := by
  obtain ⟨x, hx⟩ := h.isNumber negative
  obtain ⟨c, tail, rfl, hdigit⟩ := h.starts
  exact ⟨x, readsAs_signed hdigit fun rest hr => hx.take_append hr⟩

end Json

/-! ## Layouts -/

theorem Decimal.isWhole_digitText (d : Decimal) :
    Json.IsWhole d.digitText ∧ (d.digitText = ['0'] → d.digits = 0) := by
  have hwhole := Json.isWhole_toDigits d.digits
  have hpre := List.rdropWhile_prefix (fun c : Char => decide (c = '0')) (Nat.toDigits 10 d.digits)
  have hzero (h : (Nat.toDigits 10 d.digits).head? = some '0') : d.digits = 0 :=
    Nat.eq_zero_of_not_pos fun hpos => Json.head?_toDigits_ne_zero hpos h
  have htext : d.digitText =
      if (Nat.toDigits 10 d.digits).rdropWhile (fun c : Char => decide (c = '0')) = [] then ['0']
      else (Nat.toDigits 10 d.digits).rdropWhile (fun c : Char => decide (c = '0')) := by
    simp [digitText, List.rdropWhile]
  rw [htext]
  split
  · rename_i hnil
    refine ⟨Json.isWhole_toDigits 0, fun _ => hzero ?_⟩
    have hall := List.rdropWhile_eq_nil_iff.mp hnil
    obtain ⟨c, tail, hc⟩ := List.exists_cons_of_ne_nil hwhole.nonempty
    rw [hc] at hall ⊢
    simpa using hall c (List.mem_cons_self ..)
  · rename_i hne
    refine ⟨hwhole.of_prefix hpre hne, fun heq => hzero ?_⟩
    rw [heq] at hpre
    obtain ⟨tail, htail⟩ := hpre
    rw [← htail]
    rfl

theorem isExponent_exponentText (width : Nat) (e : Int) : Json.IsExponent (exponentText width e) := by
  refine ⟨if e < 0 then '-' else '+', padNat width e.natAbs, ?_, ?_, rfl⟩
  · split
    · exact .inl rfl
    · exact .inr rfl
  · exact (Json.isWhole_toDigits e.natAbs).isRun.append_left _

namespace NumberLayout

theorem isReal_layPlain {l : NumberLayout} (htail : l.integerTail = ['.', '0']) {digits : List Char}
    (h : Json.IsWhole digits) {exponent : Int} (hzero : digits = ['0'] → exponent ≤ 0) :
    Json.IsReal (l.layPlain digits exponent) := by
  unfold layPlain
  split
  · have hwhole : Json.IsWhole ['0'] := Json.isWhole_toDigits 0
    exact .fraction hwhole (h.isRun.append_left _)
  · dsimp only
    split
    · rw [htail]
      refine .fraction ?_ (Json.isWhole_toDigits 0).isRun
      by_cases hdigits : digits = ['0']
      · have hone : exponent.toNat + 1 - digits.length = 0 := by
          have hexponent := hzero hdigits
          simp [hdigits]
          omega
        rw [hone, List.replicate_zero, List.append_nil]
        exact h
      · exact h.append_zeros hdigits _
    · rename_i hlong
      refine .fraction (h.of_prefix (List.take_prefix _ _) ?_) ⟨?_, ?_⟩
      · simp [h.nonempty]
      · simpa using hlong
      · exact fun c hc => h.digits c (List.mem_of_mem_drop hc)

theorem isReal_layScientific (l : NumberLayout) {digits : List Char} (h : Json.IsWhole digits)
    (exponent : Int) : Json.IsReal (l.layScientific digits exponent) := by
  have hfirst : Json.IsWhole (digits.take 1) :=
    h.of_prefix (List.take_prefix _ _) (by simp [h.nonempty])
  have hexponent := isExponent_exponentText l.exponentWidth exponent
  unfold layScientific
  split
  · rw [List.append_nil]
    exact .exponent hfirst hexponent
  · rename_i hlong
    refine .both hfirst ⟨?_, fun c hc => h.digits c (List.mem_of_mem_drop hc)⟩ hexponent
    exact List.drop_eq_nil_iff.not.mpr hlong

theorem isReal_magnitudeText (fmt : BinaryFormat) (x : Double) :
    Json.IsReal (standard.magnitudeText fmt x) := by
  unfold magnitudeText
  split
  · have hwhole : Json.IsWhole ['0'] := Json.isWhole_toDigits 0
    exact .fraction hwhole hwhole.isRun
  · obtain ⟨hwhole, hzero⟩ := Decimal.isWhole_digitText (x.intervalIn fmt).shortest
    dsimp only
    split
    · exact isReal_layPlain rfl hwhole fun h =>
        RoundingInterval.exponent_nonpos_of_shortest _ (hzero h)
    · exact isReal_layScientific _ hwhole _

end NumberLayout

namespace Json

/-! ## Values -/

/-- A text that can be read. -/
def Legible (cs : List Char) : Prop :=
  ∃ v, ReadsAs cs v

theorem legible_doubleText (x : Double) : Legible (doubleText x) := by
  unfold doubleText
  split
  · refine ⟨.float Double.nan, ⟨'N', "aN".toList, rfl, rfl, by decide, by decide⟩, ?_⟩
    rintro (_ | fuel) rest hf -
    · simp at hf
    · exact (readValue_eq_readAtom (by decide) (by decide) (by decide) _).trans rfl
  rename_i hnan
  split
  · split
    · refine ⟨.float (Double.ofMagnitude true Double.infinity.unsigned),
        ⟨'-', "Infinity".toList, rfl, rfl, by decide, by decide⟩, ?_⟩
      rintro (_ | fuel) rest hf -
      · simp at hf
      · exact (readValue_eq_readAtom (by decide) (by decide) (by decide) _).trans rfl
    · refine ⟨.float Double.infinity, ⟨'I', "nfinity".toList, rfl, rfl, by decide, by decide⟩, ?_⟩
      rintro (_ | fuel) rest hf -
      · simp at hf
      · exact (readValue_eq_readAtom (by decide) (by decide) (by decide) _).trans rfl
  · rename_i hinfinite
    have htext : x.text = signed x.isNegative
        (NumberLayout.standard.magnitudeText BinaryFormat.binary64 x) := by
      simp [Double.text, NumberLayout.text, hnan, hinfinite, signed]
    obtain ⟨y, hy⟩ := readsAs_real x.isNegative
      (NumberLayout.isReal_magnitudeText BinaryFormat.binary64 x)
    rw [htext]
    exact ⟨.float y, hy⟩

theorem legible_stringText (codes : List Nat) : Legible (stringText codes) := by
  obtain ⟨codes', h⟩ := exists_scansAs codes
  exact ⟨_, readsAs_string h⟩

theorem legible_intJson {n : Int} {cs : List Char} (h : intJson n = .ok cs) : Legible cs := by
  by_cases hn : n.natAbs < 10 ^ digitLimit
  · rw [intJson_of_lt hn] at h
    obtain rfl := Except.ok.inj h
    exact ⟨_, readsAs_int hn⟩
  · have htext : integerText n = .error .tooManyDigits := by
      rw [integerText, Nat.pow_eq, if_pos (Nat.not_lt.mp hn)]
    rw [intJson, htext] at h
    cases h

/-- What succeeds has succeeded in its first part. -/
theorem exists_ok_of_bind {ε α β : Type} {x : Except ε α} {f : α → Except ε β} {b : β}
    (h : x >>= f = .ok b) : ∃ a, x = .ok a ∧ f a = .ok b := by
  cases x with
  | error e => cases h
  | ok a => exact ⟨a, rfl, h⟩

mutual

/-- Whatever is written for a value can be read. -/
theorem encode_legible : ∀ (v : Value) (room : Nat) (cs : List Char),
    encode .refuse room v = .ok cs → Legible cs
  | .none => by
    intro room cs h
    obtain rfl : "null".toList = cs := by simpa [encode, atomJson] using h
    exact ⟨_, readsAs_null⟩
  | .bool b => by
    intro room cs h
    obtain rfl : boolJson b = cs := by simpa [encode, atomJson] using h
    exact ⟨_, readsAs_bool b⟩
  | .int n => by
    intro room cs h
    exact legible_intJson (by simpa [encode, atomJson] using h)
  | .float x => by
    intro room cs h
    obtain rfl : doubleText x = cs := by simpa [encode, atomJson] using h
    exact legible_doubleText x
  | .text s => by
    intro room cs h
    obtain rfl : stringText (Text.codes s) = cs := by simpa [encode, atomJson] using h
    exact legible_stringText _
  | .torn codes => by
    intro room cs h
    obtain rfl : stringText codes = cs := by simpa [encode, atomJson] using h
    exact legible_stringText _
  | .list items | .tuple items => by
    intro room cs h
    rw [encode] at h
    obtain ⟨-, h⟩ := descend_eq_ok_iff.mp h
    obtain ⟨parts, hparts, hcs⟩ := exists_ok_of_bind h
    obtain ⟨ws, hws⟩ := encodeItems_legible items _ parts hparts
    obtain rfl : arrayText parts = cs := Except.ok.inj hcs
    exact ⟨_, readsAs_array hws⟩
  | .dict entries => by
    intro room cs h
    rw [encode] at h
    obtain ⟨-, h⟩ := descend_eq_ok_iff.mp h
    obtain ⟨parts, hparts, hcs⟩ := exists_ok_of_bind h
    obtain ⟨ms, hms⟩ := encodeEntries_legible entries _ parts hparts
    obtain rfl : objectText parts = cs := Except.ok.inj hcs
    exact ⟨_, readsAs_object hms⟩
  | .scalar kind item => by
    intro room cs h
    rcases scalar_cases kind item with ⟨rfl, x, rfl⟩ | ⟨width, rfl⟩ | ⟨-, hencode⟩
    · obtain rfl : doubleText x = cs := by simpa [encode] using h
      exact legible_doubleText x
    · rw [encode] at h
      exact encode_legible item room cs h
    · simp [hencode] at h
  | .bytes _ | .complex _ _ | .set _
  | .cyclicList | .cyclicDict | .array _ _ _
  | .literal _ | .field _ | .constant _ | .model _ _
  | .glyph _ _ _ | .layout _ _ | .glyphAttrs _ _ | .figureAttrs _
  | .source _ => by
    intro room cs h
    simp [encode, atomJson] at h

theorem encodeItems_legible : ∀ (vs : List Value) (room : Nat) (parts : List (List Char)),
    encodeItems .refuse room vs = .ok parts → ∃ ws, List.Forall₂ ReadsAs parts ws
  | [] => by
    intro room parts h
    obtain rfl : [] = parts := by simpa [encodeItems, pure, Except.pure] using h
    exact ⟨[], .nil⟩
  | v :: vs => by
    intro room parts h
    rw [encodeItems] at h
    obtain ⟨cs, hcs, h⟩ := exists_ok_of_bind h
    obtain ⟨parts', hparts, h⟩ := exists_ok_of_bind h
    obtain rfl : cs :: parts' = parts := Except.ok.inj h
    obtain ⟨w, hw⟩ := encode_legible v room cs hcs
    obtain ⟨ws, hws⟩ := encodeItems_legible vs room parts' hparts
    exact ⟨w :: ws, .cons hw hws⟩

theorem encodeEntries_legible : ∀ (es : List (Value × Value)) (room : Nat) (parts : List (List Char)),
    encodeEntries .refuse room es = .ok parts → ∃ ms, List.Forall₂ MemberReadsAs parts ms
  | [] => by
    intro room parts h
    obtain rfl : [] = parts := by simpa [encodeEntries, pure, Except.pure] using h
    exact ⟨[], .nil⟩
  | (k, v) :: es => by
    intro room parts h
    rw [encodeEntries] at h
    obtain ⟨name, hname, h⟩ := exists_ok_of_bind h
    obtain ⟨cs, hcs, h⟩ := exists_ok_of_bind h
    obtain ⟨parts', hparts, h⟩ := exists_ok_of_bind h
    obtain rfl : memberText (stringText name) cs :: parts' = parts := Except.ok.inj h
    obtain ⟨name', hscan⟩ := exists_scansAs name
    obtain ⟨w, hw⟩ := encode_legible v room cs hcs
    obtain ⟨ms, hms⟩ := encodeEntries_legible es room parts' hparts
    exact ⟨_ :: ms, .cons (.intro hscan hw) hms⟩

end

/-- What is written for a value comes back as some value. -/
theorem exists_comesBack {v : Value} {room : Nat} {cs : List Char} (h : encode .refuse room v = .ok cs) :
    ∃ w, ComesBack .refuse v w := by
  obtain ⟨w, hw⟩ := encode_legible v room cs h
  exact ⟨w, cs, fun _ hroom => encode_of_depth_le h hroom, hw⟩

section Parts

variable {how : Scalars} {room : Nat}

theorem exists_encode_of_items {vs : List Value} {parts : List (List Char)}
    (h : encodeItems how room vs = .ok parts) {v : Value} (hv : v ∈ vs) :
    ∃ cs, encode how room v = .ok cs := by
  induction vs generalizing parts with
  | nil => cases hv
  | cons v' vs ih =>
    rw [encodeItems] at h
    obtain ⟨cs, hcs, h⟩ := exists_ok_of_bind h
    obtain ⟨parts', hparts, -⟩ := exists_ok_of_bind h
    rcases List.mem_cons.mp hv with rfl | hv
    · exact ⟨cs, hcs⟩
    · exact ih hparts hv

theorem exists_encode_of_entries {es : List (Value × Value)} {parts : List (List Char)}
    (h : encodeEntries how room es = .ok parts) {e : Value × Value} (he : e ∈ es) :
    ∃ cs, encode how room e.2 = .ok cs := by
  induction es generalizing parts with
  | nil => cases he
  | cons e' es ih =>
    obtain ⟨k, v⟩ := e'
    rw [encodeEntries] at h
    obtain ⟨name, -, h⟩ := exists_ok_of_bind h
    obtain ⟨cs, hcs, h⟩ := exists_ok_of_bind h
    obtain ⟨parts', hparts, -⟩ := exists_ok_of_bind h
    rcases List.mem_cons.mp he with rfl | he
    · exact ⟨cs, hcs⟩
    · exact ih hparts he

/-- What is written as a whole is written in all parts. -/
theorem exists_encode_of_list {vs : List Value} {cs : List Char} (h : encode how room (.list vs) = .ok cs)
    {v : Value} (hv : v ∈ vs) : ∃ room cs, encode how room v = .ok cs := by
  rw [encode] at h
  obtain ⟨-, h⟩ := descend_eq_ok_iff.mp h
  obtain ⟨parts, hparts, -⟩ := exists_ok_of_bind h
  exact ⟨_, exists_encode_of_items hparts hv⟩

theorem exists_encode_of_dict {es : List (Value × Value)} {cs : List Char}
    (h : encode how room (.dict es) = .ok cs) {e : Value × Value} (he : e ∈ es) :
    ∃ room cs, encode how room e.2 = .ok cs := by
  rw [encode] at h
  obtain ⟨-, h⟩ := descend_eq_ok_iff.mp h
  obtain ⟨parts, hparts, -⟩ := exists_ok_of_bind h
  exact ⟨_, exists_encode_of_entries hparts he⟩

end Parts

end Json

end PlotStream
