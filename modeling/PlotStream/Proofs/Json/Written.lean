import PlotStream.Proofs.Json.Legible

/-!
# The form of what is written

`Written` is the grammar of the texts that the writer makes: words and numbers, strings, and arrays and
objects of such texts. `encode_written` says that nothing else is written, whatever becomes of scalars
and arrays of an element kind. What holds of all written texts is then proved by induction over
`Written`; here, that they consist of printable ASCII (`Written.printed`).
-/

namespace PlotStream.Json

/-- What has a result with some property has a result. -/
theorem exists_ok_of_any {ε α : Type} {x : Except ε α} {p : α → Bool}
    (h : x.toOption.any p = true) : ∃ a, x = .ok a ∧ p a = true := by
  cases x with
  | error e => cases h
  | ok a => exact ⟨a, rfl, h⟩

/-! ## Characters -/

/-- A character that ASCII prints. -/
def IsPrinted (c : Char) : Prop :=
  0x20 ≤ c.toNat ∧ c.toNat < 0x7f

instance (c : Char) : Decidable (IsPrinted c) :=
  inferInstanceAs (Decidable (_ ∧ _))

theorem isPrinted_of_all {cs : List Char} (h : cs.all (fun c => IsPrinted c) = true) :
    ∀ c ∈ cs, IsPrinted c := by
  simpa using h

/-- A character of a word or of a number. -/
def isAtomChar (c : Char) : Bool :=
  c.isAlphanum || c = '.' || c = '+' || c = '-'

theorem isAtomChar_of_isDigit {c : Char} (h : c.isDigit = true) : isAtomChar c = true := by
  simp [isAtomChar, Char.isAlphanum, h]

theorem isPrinted_of_isAtomChar {c : Char} (h : isAtomChar c = true) : IsPrinted c := by
  change ((((c.isUpper || c.isLower) || c.isDigit) || decide (c = '.')) || decide (c = '+') ||
    decide (c = '-')) = true at h
  simp only [Bool.or_eq_true, decide_eq_true_eq] at h
  rcases h with ((((h | h) | h) | rfl) | rfl) | rfl
  · have hbounds : 65 ≤ c.toNat ∧ c.toNat ≤ 90 := of_decide_eq_true h
    exact ⟨by omega, by omega⟩
  · have hbounds := Bool.and_eq_true_iff.mp h
    have hlow : 97 ≤ c.toNat := of_decide_eq_true hbounds.1
    have hhigh : c.toNat ≤ 122 := of_decide_eq_true hbounds.2
    exact ⟨by omega, by omega⟩
  · have hbounds := Bool.and_eq_true_iff.mp h
    have hlow : 48 ≤ c.toNat := of_decide_eq_true hbounds.1
    have hhigh : c.toNat ≤ 57 := of_decide_eq_true hbounds.2
    exact ⟨by omega, by omega⟩
  all_goals decide

/-- A word or a number. One that starts with an `n` goes on as `null` does, and not as `new`. -/
structure IsAtom (cs : List Char) : Prop where
  chars : ∀ c ∈ cs, isAtomChar c = true
  starts : ∀ tail, cs = 'n' :: tail → ∃ more, tail = 'u' :: more

theorem IsAtom.unquoted {cs : List Char} (h : IsAtom cs) : '"' ∉ cs := by
  intro hquote
  have hchar := h.chars _ hquote
  revert hchar
  decide

/-! ## Numbers -/

theorem IsRun.isAtomChar {ds : List Char} (h : IsRun ds) : ∀ c ∈ ds, isAtomChar c = true :=
  fun c hc => isAtomChar_of_isDigit (h.2 c hc)

theorem IsExponent.isAtomChar {cs : List Char} (h : IsExponent cs) :
    ∀ c ∈ cs, isAtomChar c = true := by
  obtain ⟨sign, ds, hsign, hds, rfl⟩ := h
  refine List.forall_mem_cons.mpr ⟨rfl, List.forall_mem_cons.mpr ⟨?_, hds.isAtomChar⟩⟩
  rcases hsign with rfl | rfl <;> rfl

theorem IsReal.isAtomChar {cs : List Char} (h : IsReal cs) : ∀ c ∈ cs, isAtomChar c = true := by
  have hplaces {places : List Char} (h : IsRun places) :
      ∀ c ∈ '.' :: places, Json.isAtomChar c = true :=
    List.forall_mem_cons.mpr ⟨rfl, h.isAtomChar⟩
  cases h with
  | fraction hwhole h => exact List.forall_mem_append.mpr ⟨hwhole.isRun.isAtomChar, hplaces h⟩
  | exponent hwhole h => exact List.forall_mem_append.mpr ⟨hwhole.isRun.isAtomChar, h.isAtomChar⟩
  | both hwhole h h' =>
    refine List.forall_mem_append.mpr ⟨?_, h'.isAtomChar⟩
    exact List.forall_mem_append.mpr ⟨hwhole.isRun.isAtomChar, hplaces h⟩

/-- A number with its sign is an atom. -/
theorem isAtom_signed (negative : Bool) {c : Char} {cs : List Char} (hdigit : c.isDigit = true)
    (h : ∀ c' ∈ c :: cs, isAtomChar c' = true) : IsAtom (signed negative (c :: cs)) := by
  cases negative with
  | true => exact ⟨List.forall_mem_cons.mpr ⟨rfl, h⟩, by simp [signed]⟩
  | false =>
    refine ⟨h, fun tail heq => ?_⟩
    obtain rfl : c = 'n' := (List.cons.inj heq).1
    cases hdigit

theorem isAtom_intText (n : Int) : IsAtom (intText n) := by
  have hwhole := isWhole_toDigits n.natAbs
  obtain ⟨c, cs, hcs⟩ := List.exists_cons_of_ne_nil hwhole.nonempty
  have htext : intText n = signed (decide (n < 0)) (c :: cs) := by simp [intText, signed, hcs]
  rw [htext]
  refine isAtom_signed _ (hwhole.digits c (hcs ▸ List.mem_cons_self ..)) ?_
  rw [← hcs]
  exact hwhole.isRun.isAtomChar

theorem intJson_eq_intText {n : Int} {cs : List Char} (h : intJson n = .ok cs) : cs = intText n := by
  unfold intJson integerText at h
  split at h
  · cases h
  · exact (Except.ok.inj h).symm.trans String.toList_ofList

theorem isAtom_doubleText (x : Double) : IsAtom (doubleText x) := by
  unfold doubleText
  split
  · exact ⟨List.all_eq_true.mp rfl, by simp⟩
  rename_i hnan
  split
  · split <;> exact ⟨List.all_eq_true.mp rfl, by simp⟩
  · rename_i hinfinite
    have hreal := NumberLayout.isReal_magnitudeText BinaryFormat.binary64 x
    obtain ⟨c, tail, htext, hdigit⟩ := hreal.starts
    have hsigned : x.text = signed x.isNegative (c :: tail) := by
      simp [Double.text, NumberLayout.text, hnan, hinfinite, signed, htext]
    rw [hsigned]
    exact isAtom_signed _ hdigit (htext ▸ hreal.isAtomChar)

/-! ## Strings -/

theorem isPrinted_hexDigit {n : Nat} (h : n < 16) : IsPrinted (Text.hexDigit n) := by
  revert n
  decide

theorem isPrinted_unitEscape (u : Nat) : ∀ c ∈ unitEscape u, IsPrinted c := by
  rw [unitEscape_eq]
  simp only [List.forall_mem_cons]
  have hmod (n : Nat) : n % 16 < 16 := Nat.mod_lt _ (by decide)
  exact ⟨by decide, by decide, isPrinted_hexDigit (hmod _), isPrinted_hexDigit (hmod _),
    isPrinted_hexDigit (hmod _), isPrinted_hexDigit (hmod _), by simp⟩

theorem isPrinted_escapeCode (code : Nat) : ∀ c ∈ escapeCode code, IsPrinted c := by
  unfold escapeCode
  iterate 7
    split
    · exact isPrinted_of_all rfl
  split
  · rename_i hplain
    have hvalid : code.isValidChar := by
      simp [Nat.isValidChar]
      omega
    have hcode : (Char.ofNat code).toNat = code := by
      rw [Char.ofNat, dif_pos hvalid]
      rfl
    simpa [IsPrinted, hcode] using hplain
  split
  · exact isPrinted_unitEscape code
  · exact List.forall_mem_append.mpr ⟨isPrinted_unitEscape _, isPrinted_unitEscape _⟩

/-- What stands between the quotes of a string. -/
theorem isPrinted_escapes (codes : List Nat) : ∀ c ∈ codes.flatMap escapeCode, IsPrinted c := by
  intro c hc
  obtain ⟨code, -, hc⟩ := List.mem_flatMap.mp hc
  exact isPrinted_escapeCode code c hc

theorem isPrinted_stringText (codes : List Nat) : ∀ c ∈ stringText codes, IsPrinted c := by
  refine List.forall_mem_cons.mpr ⟨by decide, List.forall_mem_append.mpr ⟨isPrinted_escapes codes, ?_⟩⟩
  simp [IsPrinted]

/-! ## The grammar -/

/-- A member of an object: the code points of its name, and the text of its value. -/
def memberOf (m : List Nat × List Char) : List Char :=
  memberText (stringText m.1) m.2

/-- The texts that the writer makes. An array without axes is written as its items, one after the
other. -/
inductive Written : List Char → Prop
  | atom {cs : List Char} (h : IsAtom cs) : Written cs
  | string (codes : List Nat) : Written (stringText codes)
  | array {parts : List (List Char)} (h : ∀ p ∈ parts, Written p) : Written (arrayText parts)
  | object {members : List (List Nat × List Char)} (h : ∀ m ∈ members, Written m.2) :
      Written (objectText (members.map memberOf))
  | flat {parts : List (List Char)} (h : ∀ p ∈ parts, Written p) : Written parts.flatten

theorem mem_of_mem_chunks {α : Type} {size n : Nat} {xs : List α} {chunk : List α} {x : α}
    (hchunk : chunk ∈ chunks size n xs) (hx : x ∈ chunk) : x ∈ xs := by
  induction n generalizing xs with
  | zero => cases hchunk
  | succ n ih =>
    rcases List.mem_cons.mp hchunk with rfl | hchunk
    · exact List.mem_of_mem_take hx
    · exact List.mem_of_mem_drop (ih hchunk)

theorem written_nestedJson : ∀ (shape : List Nat) {parts : List (List Char)},
    (∀ p ∈ parts, Written p) → Written (nestedJson shape parts)
  | [], _, h => .flat h
  | [_], _, h => .array h
  | n :: m :: shape, parts, h => by
    rw [nestedJson]
    refine .array fun p hp => ?_
    obtain ⟨chunk, hchunk, rfl⟩ := List.mem_map.mp hp
    exact written_nestedJson (m :: shape) fun p hp => h p (mem_of_mem_chunks hchunk hp)
    simp

section Encode

variable {how : Scalars}

/-- Whatever is neither text nor holds other values is an atom. -/
theorem isAtom_atomJson {v : Value} {cs : List Char} (htext : v.codes? = none)
    (h : atomJson v = .ok cs) : IsAtom cs := by
  cases v with
  | none =>
    obtain rfl := Except.ok.inj h
    exact ⟨List.all_eq_true.mp rfl, by simp⟩
  | bool b =>
    obtain rfl := Except.ok.inj h
    cases b <;> exact ⟨List.all_eq_true.mp rfl, by simp [boolJson]⟩
  | int n =>
    rw [intJson_eq_intText h]
    exact isAtom_intText n
  | float x =>
    obtain rfl := Except.ok.inj h
    exact isAtom_doubleText x
  | text s => cases htext
  | torn codes => cases htext
  | _ => cases h

theorem written_atomJson {v : Value} {cs : List Char} (h : atomJson v = .ok cs) : Written cs := by
  cases v with
  | text s =>
    obtain rfl := Except.ok.inj h
    exact .string _
  | torn codes =>
    obtain rfl := Except.ok.inj h
    exact .string _
  | scalar kind item => cases h
  | _ => exact .atom (isAtom_atomJson rfl h)

/-- A scalar is written as its item is, or as a number. -/
theorem encode_scalar {kind : ElementKind} {item : Value} {room : Nat} {cs : List Char}
    (h : encode how room (.scalar kind item) = .ok cs) :
    (∃ room', encode how room' item = .ok cs) ∨ ∃ x, cs = doubleText x := by
  rcases scalar_cases kind item with ⟨rfl, x, rfl⟩ | ⟨width, rfl⟩ | ⟨-, hencode⟩
  · rw [encode] at h
    exact .inr ⟨x, (Except.ok.inj h).symm⟩
  · rw [encode] at h
    exact .inl ⟨room, h⟩
  · rw [hencode] at h
    split at h
    · exact .inl ⟨_, (descend_eq_ok_iff.mp h).2⟩
    · cases h

mutual

/-- Whatever is written is written in this form. -/
theorem encode_written : ∀ (v : Value) (room : Nat) (cs : List Char),
    encode how room v = .ok cs → Written cs
  | .list items | .tuple items => by
    intro room cs h
    rw [encode] at h
    obtain ⟨-, h⟩ := descend_eq_ok_iff.mp h
    obtain ⟨parts, hparts, hcs⟩ := exists_ok_of_bind h
    obtain rfl : arrayText parts = cs := Except.ok.inj hcs
    exact .array (encodeItems_written items _ parts hparts)
  | .dict entries => by
    intro room cs h
    rw [encode] at h
    obtain ⟨-, h⟩ := descend_eq_ok_iff.mp h
    obtain ⟨parts, hparts, hcs⟩ := exists_ok_of_bind h
    obtain rfl : objectText parts = cs := Except.ok.inj hcs
    obtain ⟨members, rfl, hmembers⟩ := encodeEntries_written entries _ parts hparts
    exact .object hmembers
  | .scalar kind item => by
    intro room cs h
    rcases encode_scalar h with ⟨room', h⟩ | ⟨x, rfl⟩
    · exact encode_written item room' cs h
    · exact .atom (isAtom_doubleText x)
  | .array kind shape items => by
    intro room cs h
    rw [encode] at h
    split at h
    · obtain ⟨-, h⟩ := descend_eq_ok_iff.mp h
      obtain ⟨parts, hparts, hcs⟩ := exists_ok_of_bind h
      obtain rfl : nestedJson shape parts = cs := Except.ok.inj hcs
      exact written_nestedJson shape (encodeItems_written items _ parts hparts)
    · cases h
  | .none | .bool _ | .int _ | .float _ | .text _ | .torn _ | .bytes _ | .complex _ _ | .set _
  | .cyclicList | .cyclicDict | .literal _ | .field _ | .constant _ | .model _ _
  | .glyph _ _ _ | .layout _ _ | .glyphAttrs _ _ | .figureAttrs _ | .source _ => by
    intro room cs h
    first | exact written_atomJson (by simpa [encode] using h) | simp [encode] at h

theorem encodeItems_written : ∀ (vs : List Value) (room : Nat) (parts : List (List Char)),
    encodeItems how room vs = .ok parts → ∀ p ∈ parts, Written p
  | [] => by
    intro room parts h
    obtain rfl : [] = parts := by simpa [encodeItems, pure, Except.pure] using h
    simp
  | v :: vs => by
    intro room parts h
    rw [encodeItems] at h
    obtain ⟨cs, hcs, h⟩ := exists_ok_of_bind h
    obtain ⟨parts', hparts, h⟩ := exists_ok_of_bind h
    obtain rfl : cs :: parts' = parts := Except.ok.inj h
    exact List.forall_mem_cons.mpr ⟨encode_written v room cs hcs,
      encodeItems_written vs room parts' hparts⟩

theorem encodeEntries_written : ∀ (es : List (Value × Value)) (room : Nat) (parts : List (List Char)),
    encodeEntries how room es = .ok parts →
      ∃ members : List (List Nat × List Char), parts = members.map memberOf ∧
        ∀ m ∈ members, Written m.2
  | [] => by
    intro room parts h
    obtain rfl : [] = parts := by simpa [encodeEntries, pure, Except.pure] using h
    exact ⟨[], rfl, by simp⟩
  | (k, v) :: es => by
    intro room parts h
    rw [encodeEntries] at h
    obtain ⟨name, -, h⟩ := exists_ok_of_bind h
    obtain ⟨cs, hcs, h⟩ := exists_ok_of_bind h
    obtain ⟨parts', hparts, h⟩ := exists_ok_of_bind h
    obtain rfl : memberText (stringText name) cs :: parts' = parts := Except.ok.inj h
    obtain ⟨members, rfl, hmembers⟩ := encodeEntries_written es room parts' hparts
    exact ⟨(name, cs) :: members, rfl,
      List.forall_mem_cons.mpr ⟨encode_written v room cs hcs, hmembers⟩⟩

end

end Encode

/-! ## Printable ASCII -/

theorem isPrinted_separated {parts : List (List Char)} (h : ∀ p ∈ parts, ∀ c ∈ p, IsPrinted c) :
    ∀ c ∈ [',', ' '].intercalate parts, IsPrinted c := by
  induction parts with
  | nil => simp
  | cons part parts ih =>
    obtain ⟨hpart, hparts⟩ := List.forall_mem_cons.mp h
    cases parts with
    | nil => simpa using hpart
    | cons next parts =>
      rw [separated_cons _ (by simp)]
      refine List.forall_mem_append.mpr ⟨hpart, ?_⟩
      exact List.forall_mem_cons.mpr ⟨by decide, List.forall_mem_cons.mpr ⟨by decide, ih hparts⟩⟩

theorem isPrinted_enclose {parts : List (List Char)} {opening closing : Char}
    (hopening : IsPrinted opening) (hclosing : IsPrinted closing)
    (h : ∀ p ∈ parts, ∀ c ∈ p, IsPrinted c) : ∀ c ∈ enclose opening parts closing, IsPrinted c := by
  refine List.forall_mem_cons.mpr ⟨hopening, ?_⟩
  exact List.forall_mem_append.mpr ⟨isPrinted_separated h, by simpa using hclosing⟩

/-- A written text is printable ASCII without line breaks. -/
theorem Written.printed {cs : List Char} (h : Written cs) : ∀ c ∈ cs, IsPrinted c := by
  induction h with
  | atom h => exact fun c hc => isPrinted_of_isAtomChar (h.chars c hc)
  | string codes => exact isPrinted_stringText codes
  | array _ ih => exact isPrinted_enclose (by decide) (by decide) ih
  | object _ ih =>
    refine isPrinted_enclose (by decide) (by decide) fun p hp => ?_
    obtain ⟨⟨name, value⟩, hm, rfl⟩ := List.mem_map.mp hp
    refine List.forall_mem_append.mpr ⟨isPrinted_stringText name, ?_⟩
    exact List.forall_mem_cons.mpr ⟨by decide, List.forall_mem_cons.mpr ⟨by decide, ih _ hm⟩⟩
  | flat _ ih =>
    intro c hc
    obtain ⟨p, hp, hc⟩ := List.mem_flatten.mp hc
    exact ih p hp c hc

/-- Whatever is written is printable ASCII without line breaks. -/
theorem write_printed {how : Scalars} {room : Nat} {v : Value} {s : String}
    (h : write how room v = .ok s) : ∀ c ∈ s.toList, IsPrinted c := by
  obtain ⟨-, cs, hcs, rfl⟩ := write_eq_ok_iff.mp h
  rw [String.toList_ofList]
  exact (encode_written v _ cs hcs).printed

end PlotStream.Json
