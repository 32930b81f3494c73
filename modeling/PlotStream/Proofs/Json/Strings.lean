import PlotStream.Json.Escape
import PlotStream.Value

/-!
# Strings read back what was written

`scanString` undoes `stringText`: every escape that the writer produces is read as the code point it
came from, whatever follows. The reader looks ahead after a `\u` escape, so each lemma is stated over
the text that is left, which is never empty because the closing quote is still to come. Code points
of a text come back as they are (`scansAs_codes`). Others may hold two surrogates in a row, which the
reader joins, but they are read all the same (`exists_scansAs`).
-/

namespace PlotStream.Json

/-! ## Units -/

theorem hexValue?_hexDigit {n : Nat} (h : n < 16) : hexValue? (Text.hexDigit n) = some n := by
  revert n
  decide

/-- A digit neither ends a string nor begins an escape. -/
theorem hexDigit_ne (n : Nat) : Text.hexDigit (n % 16) ≠ '"' ∧ Text.hexDigit (n % 16) ≠ '\\' := by
  have hall : ∀ m < 16, Text.hexDigit m ≠ '"' ∧ Text.hexDigit m ≠ '\\' := by decide
  exact hall _ (Nat.mod_lt _ (by decide))

/-- The four digits of a unit, from the most significant one on. -/
theorem unitEscape_eq (u : Nat) :
    unitEscape u = ['\\', 'u', Text.hexDigit (u / 4096 % 16), Text.hexDigit (u / 256 % 16),
      Text.hexDigit (u / 16 % 16), Text.hexDigit (u % 16)] := by
  simp [unitEscape, Text.hexText]

theorem unit?_hexDigit {u : Nat} (h : u < 0x10000) :
    unit? (Text.hexDigit (u / 4096 % 16)) (Text.hexDigit (u / 256 % 16))
      (Text.hexDigit (u / 16 % 16)) (Text.hexDigit (u % 16)) = some u := by
  unfold unit?
  rw [hexValue?_hexDigit (Nat.mod_lt _ (by decide)), hexValue?_hexDigit (Nat.mod_lt _ (by decide)),
    hexValue?_hexDigit (Nat.mod_lt _ (by decide)), hexValue?_hexDigit (Nat.mod_lt _ (by decide))]
  have e : (((u / 4096 % 16) * 16 + u / 256 % 16) * 16 + u / 16 % 16) * 16 + u % 16 = u := by omega
  exact congrArg some e

/-! ## One step of the reader -/

variable {opening : Nat} {tail : List Char}

theorem scanString_plain {c : Char} (hq : c ≠ '"') (hb : c ≠ '\\') (hc : 0x20 ≤ c.toNat) :
    scanString opening (c :: tail) = consCode c.toNat (scanString opening tail) := by
  rw [scanString.eq_8 opening c tail hq (fun h => absurd h hb) (fun _ _ _ _ _ _ _ _ _ _ h => absurd h hb)
    (fun _ _ _ _ _ _ h => absurd h hb) (fun _ h => absurd h hb) (fun _ _ h => absurd h hb)]
  rw [if_neg (by omega)]

theorem scanString_short {c : Char} {code : Nat} (h : shortEscape? c = some code) :
    scanString opening ('\\' :: c :: tail) = consCode code (scanString opening tail) := by
  have hu : c ≠ 'u' := by
    rintro rfl
    simp [shortEscape?] at h
  rw [scanString.eq_7 opening c tail (fun _ _ _ _ _ _ _ _ _ _ e => absurd e hu)
    (fun _ _ _ _ _ _ e => absurd e hu) (fun e => absurd e hu), h]

/-- A unit that is no high surrogate stands for itself. -/
theorem scanString_unit {u : Nat} (hu : u < 0x10000) (hh : isHighSurrogate u = false)
    (ht : tail ≠ []) :
    scanString opening (unitEscape u ++ tail) = consCode u (scanString opening tail) := by
  obtain ⟨e, rest, rfl⟩ := List.exists_cons_of_ne_nil ht
  rw [unitEscape_eq]
  simp only [List.cons_append, List.nil_append]
  -- the reader looks whether another escape follows, but only a high surrogate would use it
  by_cases hnext : ∃ e₁ f g h i rest₁, e = '\\' ∧ rest = 'u' :: e₁ :: f :: g :: h :: i :: rest₁
  · obtain ⟨e₁, f, g, h, i, rest₁, rfl, rfl⟩ := hnext
    rw [scanString.eq_4, unit?_hexDigit hu]
    simp [hh]
  · rw [scanString.eq_5, unit?_hexDigit hu]
    intro e₁ f g h i rest₁ he hr
    exact hnext ⟨e₁, f, g, h, i, rest₁, he, hr⟩

/-- A high surrogate joins the low one behind it. -/
theorem scanString_pair {high low : Nat} (hh : isHighSurrogate high = true)
    (hl : isLowSurrogate low = true) (ht : tail ≠ []) :
    scanString opening (unitEscape high ++ (unitEscape low ++ tail)) =
      consCode (joinSurrogates high low) (scanString opening tail) := by
  obtain ⟨i, rest, rfl⟩ := List.exists_cons_of_ne_nil ht
  have hhigh : high < 0x10000 := by simp [isHighSurrogate] at hh; omega
  have hlow : low < 0x10000 := by simp [isLowSurrogate] at hl; omega
  rw [unitEscape_eq, unitEscape_eq]
  simp only [List.cons_append, List.nil_append]
  rw [scanString.eq_4, unit?_hexDigit hhigh, unit?_hexDigit hlow]
  simp [hh, hl]

/-! ## Whole strings -/

theorem isHighSurrogate_split {c : Nat} (hc : c < 0x110000) :
    isHighSurrogate (0xd800 + (c - 0x10000) / 0x400) = true := by
  simp [isHighSurrogate]
  omega

theorem isLowSurrogate_split (c : Nat) :
    isLowSurrogate (0xdc00 + (c - 0x10000) % 0x400) = true := by
  simp [isLowSurrogate]
  omega

/-- A code point above U+FFFF is joined again from its two halves. -/
theorem joinSurrogates_split {c : Nat} (h : 0x10000 ≤ c) :
    joinSurrogates (0xd800 + (c - 0x10000) / 0x400) (0xdc00 + (c - 0x10000) % 0x400) = c := by
  unfold joinSurrogates
  rw [Nat.add_sub_cancel_left, Nat.add_sub_cancel_left]
  have e := Nat.div_add_mod (c - 0x10000) 0x400
  omega

/-- Every escape is read as the code point it was written for. -/
theorem scanString_escapeCode {c : Nat} (hc : c.isValidChar) (ht : tail ≠ []) :
    scanString opening (escapeCode c ++ tail) = consCode c (scanString opening tail) := by
  have hvalid : c < 0xd800 ∨ 0xdfff < c ∧ c < 0x110000 := by simpa [Nat.isValidChar] using hc
  unfold escapeCode
  iterate 7
    split
    · subst c
      exact scanString_short rfl
  split
  · rename_i hq hb _ _ _ _ _ hplain
    have hn : (Char.ofNat c).toNat = c := by
      rw [Char.ofNat, dif_pos hc]
      rfl
    have h : scanString opening (Char.ofNat c :: tail) =
        consCode (Char.ofNat c).toNat (scanString opening tail) :=
      scanString_plain (fun e => hq (by rw [← hn, e]; rfl)) (fun e => hb (by rw [← hn, e]; rfl))
        (by omega)
    rw [hn] at h
    exact h
  split
  · rename_i hunit
    exact scanString_unit hunit (by simp [isHighSurrogate]; omega) ht
  · rw [List.append_assoc, scanString_pair (isHighSurrogate_split (by omega))
      (isLowSurrogate_split c) ht, joinSurrogates_split (by omega)]

/-- What is written between quotes is read back, and the text behind the closing quote is left. -/
theorem scanString_escapes (codes : List Nat) (h : ∀ c ∈ codes, c.isValidChar)
    (rest : List Char) :
    scanString opening (codes.flatMap escapeCode ++ '"' :: rest) = .ok (codes, rest) := by
  induction codes with
  | nil => simp [scanString]
  | cons c cs ih =>
    rw [List.flatMap_cons, List.append_assoc,
      scanString_escapeCode (h c (by simp)) (by simp), ih fun d hd => h d (by simp [hd])]
    rfl

/-- Code points are written as a string that is read as some code points, whatever follows. -/
def ScansAs (codes codes' : List Nat) : Prop :=
  ∀ opening rest,
    scanString opening (codes.flatMap escapeCode ++ '"' :: rest) = .ok (codes', rest)

theorem codes_valid (s : String) : ∀ c ∈ Text.codes s, c.isValidChar := by
  intro c hc
  obtain ⟨ch, -, rfl⟩ := List.mem_map.mp hc
  exact ch.valid

theorem scansAs_codes (s : String) : ScansAs (Text.codes s) (Text.codes s) :=
  fun _ rest => scanString_escapes _ (codes_valid s) rest

/-- Text is determined by its code points. -/
theorem ofCodes_codes (s : String) : Value.ofCodes (Text.codes s) = .text s := by
  have hall : (Text.codes s).all Nat.isValidChar = true := by
    rw [List.all_eq_true]
    intro c hc
    exact decide_eq_true (codes_valid s c hc)
  have hmap : (Text.codes s).map Char.ofNat = s.toList := by
    rw [Text.codes, List.map_map]
    exact (List.map_congr_left fun c _ => Char.ofNat_toNat c).trans (List.map_id _)
  rw [Value.ofCodes, if_pos hall, hmap, String.ofList_toList]

/-! ## Any code points -/

/-- Characters that the reader takes as one part of a string. -/
inductive Piece : List Char → Prop
  | plain {c : Char} (hq : c ≠ '"') (hb : c ≠ '\\') (hc : 0x20 ≤ c.toNat) : Piece [c]
  | short {c : Char} {code : Nat} (h : shortEscape? c = some code) : Piece ['\\', c]
  | unit {u : Nat} (hu : u < 0x10000) : Piece (unitEscape u)

theorem piece_unitEscape (u : Nat) : Piece (unitEscape u) := by
  have hmod : unitEscape (u % 0x10000) = unitEscape u := by
    have h₁ : u % 0x10000 / 4096 % 16 = u / 4096 % 16 := by omega
    have h₂ : u % 0x10000 / 256 % 16 = u / 256 % 16 := by omega
    have h₃ : u % 0x10000 / 16 % 16 = u / 16 % 16 := by omega
    have h₄ : u % 0x10000 % 16 = u % 16 := by omega
    rw [unitEscape_eq, unitEscape_eq, h₁, h₂, h₃, h₄]
  rw [← hmod]
  exact .unit (Nat.mod_lt _ (by decide))

/-- Whatever a code point is, it is written as pieces. -/
theorem escapeCode_pieces (c : Nat) :
    ∃ pieces : List (List Char), escapeCode c = pieces.flatten ∧ ∀ p ∈ pieces, Piece p := by
  have hone {cs : List Char} (h : Piece cs) :
      ∃ pieces : List (List Char), cs = pieces.flatten ∧ ∀ p ∈ pieces, Piece p :=
    ⟨[cs], by simp, by simpa using h⟩
  unfold escapeCode
  iterate 7
    split
    · exact hone (.short rfl)
  split
  · rename_i hq hb _ _ _ _ _ hplain
    have hvalid : c.isValidChar := by
      simp [Nat.isValidChar]
      omega
    have hn : (Char.ofNat c).toNat = c := by
      rw [Char.ofNat, dif_pos hvalid]
      rfl
    exact hone (.plain (fun e => hq (by rw [← hn, e]; rfl)) (fun e => hb (by rw [← hn, e]; rfl))
      (by omega))
  split
  · exact hone (piece_unitEscape c)
  · exact ⟨[unitEscape (0xd800 + (c - 0x10000) / 0x400),
      unitEscape (0xdc00 + (c - 0x10000) % 0x400)], by simp, by simp [piece_unitEscape]⟩

/-- A unit stands for itself when no other one follows. -/
theorem scanString_unit_last {u : Nat} (hu : u < 0x10000) (ht : tail ≠ [])
    (hnext : ∀ rest, tail ≠ '\\' :: 'u' :: rest) :
    scanString opening (unitEscape u ++ tail) = consCode u (scanString opening tail) := by
  obtain ⟨e, rest, rfl⟩ := List.exists_cons_of_ne_nil ht
  rw [unitEscape_eq]
  simp only [List.cons_append, List.nil_append]
  rw [scanString.eq_5, unit?_hexDigit hu]
  rintro e₁ f g h i rest₁ rfl rfl
  exact hnext _ rfl

/-- A unit stands for itself before one that is no low surrogate. -/
theorem scanString_unit_unit {u v : Nat} (hu : u < 0x10000) (hv : v < 0x10000)
    (hl : isLowSurrogate v = false) (ht : tail ≠ []) :
    scanString opening (unitEscape u ++ (unitEscape v ++ tail)) =
      consCode u (scanString opening (unitEscape v ++ tail)) := by
  obtain ⟨i, rest, rfl⟩ := List.exists_cons_of_ne_nil ht
  rw [unitEscape_eq, unitEscape_eq]
  simp only [List.cons_append, List.nil_append]
  rw [scanString.eq_4, unit?_hexDigit hu, unit?_hexDigit hv]
  cases isHighSurrogate u <;> simp [hl]

/-- What stands between quotes is read as some code points, whatever follows. -/
def Scans (body : List Char) : Prop :=
  ∃ codes, ∀ opening rest, scanString opening (body ++ '"' :: rest) = .ok (codes, rest)

theorem Scans.cons {part body : List Char} {code : Nat} (h : Scans body)
    (hpart : ∀ opening rest, scanString opening (part ++ (body ++ '"' :: rest)) =
      consCode code (scanString opening (body ++ '"' :: rest))) : Scans (part ++ body) := by
  obtain ⟨codes, hcodes⟩ := h
  refine ⟨code :: codes, fun opening rest => ?_⟩
  rw [List.append_assoc, hpart, hcodes]
  rfl

/-- Pieces are read, also behind a unit that may join the first of them. -/
theorem scans_pieces {pieces : List (List Char)} (h : ∀ p ∈ pieces, Piece p) :
    Scans pieces.flatten ∧ ∀ u < 0x10000, Scans (unitEscape u ++ pieces.flatten) := by
  induction pieces with
  | nil =>
    have hnil : Scans [] := ⟨[], fun _ _ => by simp [scanString]⟩
    exact ⟨hnil, fun u hu => hnil.cons fun _ _ => scanString_unit_last hu (by simp) (by simp)⟩
  | cons p ps ih =>
    obtain ⟨hp, hps⟩ := List.forall_mem_cons.mp h
    obtain ⟨hrest, hjoined⟩ := ih hps
    rw [List.flatten_cons]
    cases hp with
    | @plain c hq hb hc =>
      have hall : Scans ([c] ++ ps.flatten) := hrest.cons fun _ _ => scanString_plain hq hb hc
      refine ⟨hall, fun u hu => hall.cons fun _ _ => scanString_unit_last hu (by simp) ?_⟩
      intro rest heq
      exact hb (List.cons.inj heq).1
    | @short c code hc =>
      have hall : Scans (['\\', c] ++ ps.flatten) := hrest.cons fun _ _ => scanString_short hc
      refine ⟨hall, fun u hu => hall.cons fun _ _ => scanString_unit_last hu (by simp) ?_⟩
      intro rest heq
      obtain rfl : c = 'u' := (List.cons.inj (List.cons.inj heq).2).1
      simp [shortEscape?] at hc
    | @unit v hv =>
      refine ⟨hjoined v hv, fun u hu => ?_⟩
      by_cases hlow : isLowSurrogate v = true
      · by_cases hhigh : isHighSurrogate u = true
        · obtain ⟨codes, hcodes⟩ := hrest
          refine ⟨joinSurrogates u v :: codes, fun opening rest => ?_⟩
          rw [List.append_assoc, List.append_assoc, scanString_pair hhigh hlow (by simp), hcodes]
          rfl
        · exact (hjoined v hv).cons fun _ _ => scanString_unit hu (by simpa using hhigh) (by simp)
      · have halone (opening : Nat) (rest : List Char) :
            scanString opening (unitEscape u ++ (unitEscape v ++ ps.flatten ++ '"' :: rest)) =
              consCode u (scanString opening (unitEscape v ++ ps.flatten ++ '"' :: rest)) := by
          rw [List.append_assoc]
          exact scanString_unit_unit hu hv (by simpa using hlow) (by simp)
        exact (hjoined v hv).cons halone

/-- Whatever is escaped consists of pieces. -/
theorem escapes_pieces (codes : List Nat) : ∃ pieces : List (List Char),
    codes.flatMap escapeCode = pieces.flatten ∧ ∀ p ∈ pieces, Piece p := by
  induction codes with
  | nil => exact ⟨[], rfl, by simp⟩
  | cons c cs ih =>
    obtain ⟨first, hfirst, hall⟩ := escapeCode_pieces c
    obtain ⟨pieces, hpieces, hall'⟩ := ih
    refine ⟨first ++ pieces, ?_, ?_⟩
    · rw [List.flatMap_cons, hfirst, hpieces, List.flatten_append]
    · exact fun p hp => (List.mem_append.mp hp).elim (hall p) (hall' p)

/-- Any code points are read as some. -/
theorem exists_scansAs (codes : List Nat) : ∃ codes', ScansAs codes codes' := by
  obtain ⟨pieces, hflatten, hall⟩ := escapes_pieces codes
  obtain ⟨codes', hscan⟩ := (scans_pieces hall).1
  refine ⟨codes', fun opening rest => ?_⟩
  rw [hflatten]
  exact hscan opening rest

end PlotStream.Json
