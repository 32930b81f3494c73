import PlotStream.Json.Reader
import PlotStream.Proofs.Json.Depth
import PlotStream.Proofs.Json.Strings
import Mathlib.Algebra.Group.Nat.Defs
import Mathlib.Data.List.Forall2
import Mathlib.Data.List.TakeDrop

/-!
# Reading back what was written

`ReadsAs cs v` says that the text `cs` is read as the value `v`, whatever follows it that does not
go on with a number. There is one lemma for each form of text (words, integers, strings, arrays,
objects). `ComesBack how v w` puts writing and reading together: wherever there is room for `v` it is
written, and read again as `w`. A tuple comes back as a list, and a dictionary has to have names of text.
-/

namespace PlotStream.Json

/-- What may follow a number: nothing that would go on with it. -/
def EndsNumber (rest : List Char) : Prop :=
  ∀ c ∈ rest.head?, c.isDigit = false ∧ c ≠ '.' ∧ c ≠ 'e' ∧ c ≠ 'E'

theorem endsNumber_nil : EndsNumber [] := by
  simp [EndsNumber]

theorem endsNumber_comma (rest : List Char) : EndsNumber (',' :: rest) := by
  simp [EndsNumber, Char.isDigit]

theorem endsNumber_bracket (rest : List Char) : EndsNumber (']' :: rest) := by
  simp [EndsNumber, Char.isDigit]

theorem endsNumber_brace (rest : List Char) : EndsNumber ('\x7d' :: rest) := by
  simp [EndsNumber, Char.isDigit]

/-- A text that is read as a value. Its first character is taken neither for a blank, nor for the end
of an array, nor for a byte order mark. -/
structure ReadsAs (cs : List Char) (v : Value) : Prop where
  starts : ∃ c tail, cs = c :: tail ∧ isBlank c = false ∧ c ≠ ']' ∧ c ≠ '\ufeff'
  reads : ∀ fuel rest, cs.length ≤ fuel → EndsNumber rest →
    readValue fuel (cs ++ rest) = .ok (v, rest)

@[simp] theorem skipBlank_cons_space (cs : List Char) : skipBlank (' ' :: cs) = skipBlank cs := by
  simp [skipBlank, isBlank]

theorem skipBlank_of_not_blank {c : Char} (h : isBlank c = false) (cs : List Char) :
    skipBlank (c :: cs) = c :: cs := by
  simp [skipBlank, h]

theorem ReadsAs.skipBlank_append {cs : List Char} {v : Value} (h : ReadsAs cs v)
    (rest : List Char) : skipBlank (cs ++ rest) = cs ++ rest := by
  obtain ⟨c, tail, rfl, hc, -⟩ := h.starts
  exact skipBlank_of_not_blank hc _

/-! ## Words and strings -/

/-- A text is read as an atom when its first character opens no string and no container. -/
theorem readValue_eq_readAtom {fuel : Nat} {c : Char} (hq : c ≠ '"') (hl : c ≠ '[')
    (hd : c ≠ '\x7b') (cs : List Char) : readValue (fuel + 1) (c :: cs) = readAtom (c :: cs) := by
  rw [readValue]
  · exact fun _ h => hq (List.cons.inj h).1
  · exact fun _ h => hl (List.cons.inj h).1
  · exact fun _ h => hd (List.cons.inj h).1

theorem readsAs_null : ReadsAs "null".toList .none where
  starts := ⟨'n', "ull".toList, rfl, rfl, by decide, by decide⟩
  reads := by
    rintro (_ | fuel) rest hf -
    · simp at hf
    · exact (readValue_eq_readAtom (by decide) (by decide) (by decide) _).trans rfl

theorem readsAs_bool (b : Bool) : ReadsAs (boolJson b) (.bool b) := by
  cases b with
  | true =>
    refine ⟨⟨'t', "rue".toList, rfl, rfl, by decide, by decide⟩, ?_⟩
    rintro (_ | fuel) rest hf -
    · simp [boolJson] at hf
    · exact (readValue_eq_readAtom (by decide) (by decide) (by decide) _).trans rfl
  | false =>
    refine ⟨⟨'f', "alse".toList, rfl, rfl, by decide, by decide⟩, ?_⟩
    rintro (_ | fuel) rest hf -
    · simp [boolJson] at hf
    · exact (readValue_eq_readAtom (by decide) (by decide) (by decide) _).trans rfl

theorem readsAs_string {codes codes' : List Nat} (h : ScansAs codes codes') :
    ReadsAs (stringText codes) (Value.ofCodes codes') where
  starts := ⟨'"', _, rfl, rfl, by decide, by decide⟩
  reads := by
    rintro (_ | fuel) rest hf -
    · simp [stringText] at hf
    · simp only [stringText, List.cons_append, List.append_assoc, List.nil_append]
      rw [readValue, h]
      simp only [bind, Except.bind, pure, Except.pure]

theorem readsAs_text (s : String) : ReadsAs (stringText (Text.codes s)) (.text s) := by
  rw [← ofCodes_codes s]
  exact readsAs_string (scansAs_codes s)

/-! ## Integers -/

/-- What may follow digits. -/
def EndsDigits (rest : List Char) : Prop :=
  ∀ c ∈ rest.head?, c.isDigit = false

theorem EndsNumber.endsDigits {rest : List Char} (h : EndsNumber rest) : EndsDigits rest :=
  fun c hc => (h c hc).1

theorem span_isDigit_append {ds rest : List Char} (hd : ∀ c ∈ ds, c.isDigit = true)
    (hr : EndsDigits rest) : (ds ++ rest).span Char.isDigit = (ds, rest) := by
  rw [List.span_eq_takeWhile_dropWhile, List.takeWhile_append_of_pos hd,
    List.dropWhile_append_of_pos hd]
  cases rest with
  | nil => simp
  | cons c cs =>
    have hc := hr c (by simp)
    simp [hc]

/-- The digits of an integer, which start with zero only if there is nothing else. -/
structure IsWhole (ds : List Char) : Prop where
  digits : ∀ c ∈ ds, c.isDigit = true
  nonempty : ds ≠ []
  first : ds.head? = some '0' → ds = ['0']

theorem takeWhole?_append {ds rest : List Char} (h : IsWhole ds) (hr : EndsDigits rest) :
    takeWhole? (ds ++ rest) = some (ds, rest) := by
  by_cases hzero : ds.head? = some '0'
  · rw [h.first hzero]
    rfl
  · rw [takeWhole?]
    · rw [span_isDigit_append h.digits hr]
      simp [h.nonempty]
    · intro tail htail
      apply hzero
      rw [← List.head?_append_of_ne_nil _ h.nonempty, htail]
      rfl

/-- Only zero itself starts with the digit zero. -/
theorem head?_toDigits_ne_zero {n : Nat} (h : 0 < n) : (Nat.toDigits 10 n).head? ≠ some '0' := by
  induction n using Nat.strongRecOn with
  | ind n ih =>
    rw [Nat.toDigits_eq_if (by decide)]
    split
    · rename_i hlt
      have hall : ∀ m < 10, 0 < m → some (Nat.digitChar m) ≠ some '0' := by decide
      exact hall n hlt h
    · rename_i hge
      rw [List.head?_append_of_ne_nil _ Nat.toDigits_ne_nil]
      exact ih (n / 10) (by omega) (by omega)

theorem isDigit_of_mem_toDigits {n : Nat} {c : Char} (h : c ∈ Nat.toDigits 10 n) :
    c.isDigit = true :=
  Nat.isDigit_of_mem_toDigits (by decide) (by decide) h

theorem isWhole_toDigits (n : Nat) : IsWhole (Nat.toDigits 10 n) where
  digits _ h := isDigit_of_mem_toDigits h
  nonempty := Nat.toDigits_ne_nil
  first h := by
    rcases Nat.eq_zero_or_pos n with rfl | hn
    · rfl
    · exact absurd h (head?_toDigits_ne_zero hn)

theorem digits_toDigits (n : Nat) : Numeral.digits (Nat.toDigits 10 n) = n :=
  Nat.ofDigitChars_ten_toDigits

theorem takeFraction?_of_endsNumber {rest : List Char} (hr : EndsNumber rest) :
    takeFraction? rest = none := by
  cases rest with
  | nil => rfl
  | cons c cs =>
    have hc := (hr c (by simp)).2.1
    rw [takeFraction?]
    exact fun _ h => hc (List.cons.inj h).1

theorem takeExponent?_of_endsNumber {rest : List Char} (hr : EndsNumber rest) :
    Numeral.takeExponent? rest = none := by
  cases rest with
  | nil => rfl
  | cons c cs =>
    obtain ⟨-, -, he, hE⟩ := hr c (by simp)
    simp [Numeral.takeExponent?, he, hE]


theorem takeUnsigned?_toDigits (negative : Bool) {n : Nat} (h : n < 10 ^ digitLimit)
    {rest : List Char} (hr : EndsNumber rest) :
    takeUnsigned? negative (Nat.toDigits 10 n ++ rest) =
      some (.ok (.int (if negative then -(n : Int) else n), rest)) := by
  have hlen : ¬ digitLimit < (Nat.toDigits 10 n).length := by
    rw [Nat.not_lt, Nat.length_toDigits_le_iff (by decide) (by decide)]
    exact h
  simp [takeUnsigned?, takeWhole?_append (isWhole_toDigits n) hr.endsDigits, takeFraction?_of_endsNumber hr,
    takeExponent?_of_endsNumber hr, hlen, digits_toDigits]

theorem takeNumber?_of_digit {c : Char} (h : c.isDigit = true) (cs : List Char) :
    takeNumber? (c :: cs) = takeUnsigned? false (c :: cs) := by
  rw [takeNumber?]
  rintro rest hrest
  rw [(List.cons.inj hrest).1] at h
  exact absurd h (by decide)

/-- A text that starts with none of the words is no word. -/
theorem takeWord?_eq_none {cs : List Char}
    (h : ∀ w ∈ ["null", "true", "false", "NaN", "Infinity", "-Infinity"],
      w.toList.isPrefixOf cs = false) : takeWord? cs = none := by
  rw [takeWord?, List.findSome?_eq_none_iff]
  rintro ⟨w, v⟩ hw
  have hname : w ∈ words.map Prod.fst := List.mem_map_of_mem hw
  have hfirst : w.toList.isPrefixOf cs = false := h w hname
  simp only [afterWord?, hfirst, Bool.false_eq_true, if_false, Option.map_none]

theorem isPrefixOf_cons_of_ne {a c : Char} (h : a ≠ c) (w cs : List Char) :
    (a :: w).isPrefixOf (c :: cs) = false := by
  simp [List.isPrefixOf, h]

/-- A digit starts no word, and no word is a minus sign in front of a digit. -/
theorem takeWord?_of_digit {c : Char} (h : c.isDigit = true) (cs : List Char) :
    takeWord? (c :: cs) = none ∧ takeWord? ('-' :: c :: cs) = none := by
  have hne : ∀ a : Char, a.isDigit = false → a ≠ c := by
    rintro a ha rfl
    simp [h] at ha
  constructor
  · apply takeWord?_eq_none
    simp only [List.mem_cons, List.not_mem_nil, or_false]
    rintro w (rfl | rfl | rfl | rfl | rfl | rfl) <;>
      exact isPrefixOf_cons_of_ne (hne _ (by decide)) _ _
  · apply takeWord?_eq_none
    simp only [List.mem_cons, List.not_mem_nil, or_false]
    rintro w (rfl | rfl | rfl | rfl | rfl | rfl)
    on_goal 6 => exact isPrefixOf_cons_of_ne (hne 'I' (by decide)) _ _
    all_goals exact isPrefixOf_cons_of_ne (by decide) _ _

/-- Text that goes on with a number behind its sign. -/
def signed (negative : Bool) (cs : List Char) : List Char :=
  (if negative then ['-'] else []) ++ cs

/-- A number starts with a minus sign or a digit, and so with nothing that starts something else. -/
theorem signed_starts (negative : Bool) {c : Char} (h : c.isDigit = true) (cs : List Char) :
    ∃ first tail, signed negative (c :: cs) = first :: tail ∧ isBlank first = false ∧
      ∀ d ∈ [']', '\ufeff', '"', '[', '\x7b'], first ≠ d := by
  obtain ⟨first, tail, htext, hfirst⟩ : ∃ first tail, signed negative (c :: cs) = first :: tail ∧
      (first = '-' ∨ first.isDigit = true) := by
    cases negative with
    | true => exact ⟨'-', c :: cs, rfl, .inl rfl⟩
    | false => exact ⟨c, cs, rfl, .inr h⟩
  have hne : ∀ d : Char, d ≠ '-' → d.isDigit = false → first ≠ d := by
    rintro d hd hdigit rfl
    exact hfirst.elim hd fun h => by simp [h] at hdigit
  refine ⟨first, tail, htext, ?_, ?_⟩
  · simp [isBlank, hne ' ' (by decide) (by decide), hne '\t' (by decide) (by decide),
      hne '\n' (by decide) (by decide), hne '\r' (by decide) (by decide)]
  · have hall : ∀ d ∈ [']', '\ufeff', '"', '[', '\x7b'], d ≠ '-' ∧ d.isDigit = false := by simp
    exact fun d hd => hne d (hall d hd).1 (hall d hd).2

section Numbers

variable {negative : Bool} {c : Char} {cs : List Char} {v : Value} (hdigit : c.isDigit = true)
  (hread : ∀ rest, EndsNumber rest →
    takeUnsigned? negative (c :: cs ++ rest) = some (.ok (v, rest)))

include hdigit hread

theorem readAtom_signed {rest : List Char} (hr : EndsNumber rest) :
    readAtom (signed negative (c :: cs) ++ rest) = .ok (v, rest) := by
  obtain ⟨hplain, hminus⟩ := takeWord?_of_digit hdigit (cs ++ rest)
  have hnumber := hread rest hr
  rw [readAtom]
  cases negative with
  | true =>
    simp only [signed, if_true, List.cons_append, List.nil_append, hminus] at hnumber ⊢
    rw [takeNumber?, hnumber]
  | false =>
    simp only [signed, Bool.false_eq_true, if_false, List.cons_append, List.nil_append,
      hplain] at hnumber ⊢
    rw [takeNumber?_of_digit hdigit, hnumber]

/-- A number is read with its sign when what stands behind the sign is. -/
theorem readsAs_signed : ReadsAs (signed negative (c :: cs)) v := by
  obtain ⟨first, tail, htext, hblank, hne⟩ := signed_starts negative hdigit cs
  refine ⟨⟨first, tail, htext, hblank, hne _ (by simp), hne _ (by simp)⟩, ?_⟩
  rintro (_ | fuel) rest hf hr
  · simp [htext] at hf
  · have hatom := readAtom_signed hdigit hread hr
    rw [htext, List.cons_append] at hatom ⊢
    rw [readValue_eq_readAtom (hne _ (by simp)) (hne _ (by simp)) (hne _ (by simp)), hatom]

end Numbers

theorem readsAs_int {n : Int} (h : n.natAbs < 10 ^ digitLimit) : ReadsAs (intText n) (.int n) := by
  obtain ⟨c, tail, hc⟩ := List.exists_cons_of_ne_nil (Nat.toDigits_ne_nil (n := n.natAbs) (b := 10))
  have hdigit : c.isDigit = true := isDigit_of_mem_toDigits (n := n.natAbs) (by simp [hc])
  have hvalue : (if decide (n < 0) then -(n.natAbs : Int) else n.natAbs) = n := by
    by_cases hn : n < 0
    · rw [decide_eq_true hn, if_pos rfl]
      omega
    · rw [decide_eq_false hn, if_neg Bool.false_ne_true]
      omega
  have htext : signed (decide (n < 0)) (c :: tail) = intText n := by simp [signed, intText, hc]
  rw [← htext]
  refine readsAs_signed hdigit fun rest hr => ?_
  rw [← hc, takeUnsigned?_toDigits _ h hr, hvalue]

/-! ## Containers -/

/-- Parts with a comma and a blank between them. -/
theorem separated_cons (part : List Char) {parts : List (List Char)} (h : parts ≠ []) :
    [',', ' '].intercalate (part :: parts) = part ++ ',' :: ' ' :: [',', ' '].intercalate parts := by
  rw [List.intercalate_cons_of_ne_nil h, List.append_assoc]
  rfl

/-- Parts in a row start as the first of them does. -/
theorem separated_eq_append (part : List Char) (parts : List (List Char)) :
    ∃ more, [',', ' '].intercalate (part :: parts) = part ++ more := by
  by_cases h : parts = []
  · exact ⟨[], by simp [h]⟩
  · exact ⟨_, separated_cons part h⟩

theorem ReadsAs.skipBlank_separated {part : List Char} {v : Value} (h : ReadsAs part v)
    (parts : List (List Char)) (rest : List Char) :
    skipBlank ([',', ' '].intercalate (part :: parts) ++ rest) =
      [',', ' '].intercalate (part :: parts) ++ rest := by
  obtain ⟨more, hmore⟩ := separated_eq_append part parts
  rw [hmore, List.append_assoc]
  exact h.skipBlank_append _

theorem readItems_parts {parts : List (List Char)} {vs : List Value}
    (h : List.Forall₂ ReadsAs parts vs) (hne : parts ≠ []) :
    ∀ fuel rest, ([',', ' '].intercalate parts).length < fuel →
      readItems fuel ([',', ' '].intercalate parts ++ ']' :: rest) = .ok (vs, rest) := by
  induction h with
  | nil => exact absurd rfl hne
  | @cons part v parts vs hpart hparts ih =>
    rintro (_ | fuel) rest hf
    · omega
    cases hparts with
    | nil =>
      simp only [List.intercalate_singleton] at hf ⊢
      rw [readItems, hpart.reads fuel _ (by omega) (endsNumber_bracket rest)]
      rfl
    | @cons next w parts vs hnext hparts =>
      rw [separated_cons part (by simp)] at hf ⊢
      simp only [List.length_append, List.length_cons] at hf
      rw [readItems, List.append_assoc, List.cons_append,
        hpart.reads fuel _ (by omega) (endsNumber_comma _)]
      simp only [bind, Except.bind]
      rw [skipBlank_of_not_blank rfl]
      simp only [List.cons_append, skipBlank_cons_space]
      rw [hnext.skipBlank_separated, ih (by simp) fuel rest (by omega)]
      rfl

theorem readsAs_array {parts : List (List Char)} {vs : List Value}
    (h : List.Forall₂ ReadsAs parts vs) : ReadsAs (arrayText parts) (.list vs) where
  starts := ⟨'[', _, rfl, rfl, by decide, by decide⟩
  reads := by
    rintro (_ | fuel) rest hf -
    · simp [arrayText, enclose] at hf
    simp only [arrayText, enclose, List.cons_append, List.append_assoc, List.nil_append] at hf ⊢
    cases h with
    | nil =>
      rw [readValue]
      rfl
    | @cons part v parts vs hpart hparts =>
      rw [readValue, hpart.skipBlank_separated]
      have hitems := readItems_parts (.cons hpart hparts) (by simp) fuel rest (by simp at hf; omega)
      obtain ⟨more, hmore⟩ := separated_eq_append part parts
      obtain ⟨c, tail, rfl, -, hc, -⟩ := hpart.starts
      rw [hmore] at hitems ⊢
      simp only [List.cons_append] at hitems ⊢
      split
      · exact absurd (List.cons.inj ‹_›).1 hc
      · rw [hitems]
        rfl

/-- A text that is read as a member. -/
inductive MemberReadsAs : List Char → Value × Value → Prop
  | intro {name name' : List Nat} {value : List Char} {v : Value} (hname : ScansAs name name')
      (h : ReadsAs value v) :
      MemberReadsAs (memberText (stringText name) value) (Value.ofCodes name', v)

theorem MemberReadsAs.starts {part : List Char} {member : Value × Value}
    (h : MemberReadsAs part member) : ∃ tail, part = '"' :: tail := by
  cases h
  exact ⟨_, rfl⟩

theorem memberReadsAs_text (name : String) {value : List Char} {v : Value} (h : ReadsAs value v) :
    MemberReadsAs (memberText (stringText (Text.codes name)) value) (.text name, v) := by
  rw [← ofCodes_codes name]
  exact .intro (scansAs_codes name) h

/-- What stands behind the value of a member: the end of the object, or more members. -/
def readMoreMembers (fuel : Nat) (member : Value × Value) (behind : List Char) :
    Except ReadError (List (Value × Value) × List Char) :=
  match skipBlank behind with
  | '\x7d' :: rest => return ([member], rest)
  | ',' :: rest => do
    let (more, rest) ← readMembers fuel (skipBlank rest)
    return (member :: more, rest)
  | rest => .error (expecting "',' delimiter" rest)

/-- The name, the colon and the value go first. -/
theorem readMembers_memberText {name name' : List Nat} {value : List Char} {v : Value}
    (hname : ScansAs name name') (hvalue : ReadsAs value v) {fuel : Nat}
    (hfuel : value.length ≤ fuel) {behind : List Char} (hends : EndsNumber behind) :
    readMembers (fuel + 1) (memberText (stringText name) value ++ behind) =
      readMoreMembers fuel (Value.ofCodes name', v) behind := by
  simp only [memberText, stringText, List.cons_append, List.append_assoc, List.nil_append]
  rw [readMembers, hname]
  simp only [bind, Except.bind]
  rw [skipBlank_of_not_blank rfl]
  simp only [skipBlank_cons_space]
  rw [hvalue.skipBlank_append, hvalue.reads fuel _ hfuel hends]
  rfl

theorem readMembers_parts {parts : List (List Char)} {members : List (Value × Value)}
    (h : List.Forall₂ MemberReadsAs parts members) (hne : parts ≠ []) :
    ∀ fuel rest, ([',', ' '].intercalate parts).length < fuel →
      readMembers fuel ([',', ' '].intercalate parts ++ '\x7d' :: rest) = .ok (members, rest) := by
  induction h with
  | nil => exact absurd rfl hne
  | @cons part member parts members hpart hparts ih =>
    rintro (_ | fuel) rest hf
    · omega
    obtain @⟨name, name', value, v, hname, hvalue⟩ := hpart
    cases hparts with
    | nil =>
      simp only [List.intercalate_singleton] at hf ⊢
      have hlen : value.length ≤ fuel := by simp [memberText] at hf; omega
      exact readMembers_memberText hname hvalue hlen (endsNumber_brace rest)
    | @cons next m parts members hnext hparts =>
      rw [separated_cons _ (by simp)] at hf ⊢
      have hlen : value.length ≤ fuel := by simp [memberText] at hf; omega
      have hmore := ih (by simp) fuel rest (by simp at hf ⊢; omega)
      rw [List.append_assoc, List.cons_append,
        readMembers_memberText hname hvalue hlen (endsNumber_comma _), readMoreMembers,
        skipBlank_of_not_blank rfl]
      simp only [List.cons_append, skipBlank_cons_space]
      obtain ⟨behind, hbehind⟩ := separated_eq_append next parts
      obtain ⟨tail, rfl⟩ := hnext.starts
      rw [hbehind] at hmore ⊢
      simp only [List.cons_append, List.append_assoc] at hmore ⊢
      rw [skipBlank_of_not_blank rfl, hmore]
      rfl

theorem readsAs_object {parts : List (List Char)} {members : List (Value × Value)}
    (h : List.Forall₂ MemberReadsAs parts members) :
    ReadsAs (objectText parts) (Value.dictOf members) where
  starts := ⟨'\x7b', _, rfl, rfl, by decide, by decide⟩
  reads := by
    rintro (_ | fuel) rest hf -
    · simp [objectText, enclose] at hf
    simp only [objectText, enclose, List.cons_append, List.append_assoc, List.nil_append] at hf ⊢
    cases h with
    | nil =>
      rw [readValue]
      rfl
    | @cons part member parts members hpart hparts =>
      have hmembers := readMembers_parts (.cons hpart hparts) (by simp) fuel rest
        (by simp at hf; omega)
      obtain ⟨behind, hbehind⟩ := separated_eq_append part parts
      obtain ⟨tail, rfl⟩ := hpart.starts
      rw [readValue]
      rw [hbehind] at hmembers ⊢
      simp only [List.cons_append, List.append_assoc] at hmembers ⊢
      rw [skipBlank_of_not_blank rfl]
      split
      · exact absurd (List.cons.inj ‹_›).1 (by decide)
      · rw [hmembers]
        rfl

/-! ## Values -/

theorem intJson_of_lt {n : Int} (h : n.natAbs < 10 ^ digitLimit) : intJson n = .ok (intText n) := by
  have htext : integerText n = .ok (String.ofList (intText n)) := by
    rw [integerText, Nat.pow_eq, if_neg (Nat.not_le.mpr h)]
  rw [intJson, htext]
  exact congrArg Except.ok String.toList_ofList

/-- Wherever there is room for a value it is written, and what is written is read as some value. -/
def ComesBack (how : Scalars) (v w : Value) : Prop :=
  ∃ cs, (∀ room, v.depth ≤ room → encode how room v = .ok cs) ∧ ReadsAs cs w

/-- A member with a name of text comes back under its name. -/
inductive MemberComesBack (how : Scalars) : Value × Value → Value × Value → Prop
  | intro (name : String) {v w : Value} (h : ComesBack how v w) :
      MemberComesBack how (.text name, v) (.text name, w)

section ComesBack

variable {how : Scalars}

theorem comesBack_null : ComesBack how .none .none :=
  ⟨_, fun _ _ => rfl, readsAs_null⟩

theorem comesBack_bool (b : Bool) : ComesBack how (.bool b) (.bool b) :=
  ⟨_, fun _ _ => rfl, readsAs_bool b⟩

theorem comesBack_text (s : String) : ComesBack how (.text s) (.text s) :=
  ⟨_, fun _ _ => rfl, readsAs_text s⟩

theorem comesBack_int {n : Int} (h : n.natAbs < 10 ^ digitLimit) :
    ComesBack how (.int n) (.int n) :=
  ⟨_, fun _ _ => by simpa only [encode, atomJson] using intJson_of_lt h, readsAs_int h⟩

theorem encodeItems_comesBack {vs ws : List Value} (h : List.Forall₂ (ComesBack how) vs ws) :
    ∃ parts, (∀ room, Value.itemsDepth vs ≤ room → encodeItems how room vs = .ok parts) ∧
      List.Forall₂ ReadsAs parts ws := by
  induction h with
  | nil => exact ⟨[], fun _ _ => rfl, .nil⟩
  | cons hv _ ih =>
    obtain ⟨cs, hcs, hread⟩ := hv
    obtain ⟨parts, hparts, hreads⟩ := ih
    refine ⟨cs :: parts, fun room hroom => ?_, .cons hread hreads⟩
    obtain ⟨hv, hvs⟩ := Nat.max_le.mp hroom
    rw [encodeItems, hcs room hv, hparts room hvs]
    rfl

theorem encodeEntries_comesBack {es ms : List (Value × Value)}
    (h : List.Forall₂ (MemberComesBack how) es ms) :
    ∃ parts, (∀ room, Value.entriesDepth es ≤ room → encodeEntries how room es = .ok parts) ∧
      List.Forall₂ MemberReadsAs parts ms := by
  induction h with
  | nil => exact ⟨[], fun _ _ => rfl, .nil⟩
  | cons he _ ih =>
    obtain ⟨name, cs, hcs, hread⟩ := he
    obtain ⟨parts, hparts, hreads⟩ := ih
    refine ⟨_ :: parts, fun room hroom => ?_, .cons (memberReadsAs_text name hread) hreads⟩
    obtain ⟨hv, hes⟩ := Nat.max_le.mp hroom
    rw [encodeEntries, hcs room hv, hparts room hes]
    rfl

/-- A list or a tuple comes back as a list. -/
theorem comesBack_items {v : Value} {vs ws : List Value} (hv : v = .list vs ∨ v = .tuple vs)
    (h : List.Forall₂ (ComesBack how) vs ws) : ComesBack how v (.list ws) := by
  obtain ⟨parts, hparts, hreads⟩ := encodeItems_comesBack h
  refine ⟨_, fun room hroom => ?_, readsAs_array hreads⟩
  obtain rfl | rfl := hv <;>
  · rw [Value.depth] at hroom
    rw [encode, level, descend_of_le (Nat.le_of_add_left_le hroom),
      hparts _ (Nat.le_sub_of_add_le hroom)]
    rfl

theorem comesBack_list {vs ws : List Value} (h : List.Forall₂ (ComesBack how) vs ws) :
    ComesBack how (.list vs) (.list ws) :=
  comesBack_items (.inl rfl) h

theorem comesBack_tuple {vs ws : List Value} (h : List.Forall₂ (ComesBack how) vs ws) :
    ComesBack how (.tuple vs) (.list ws) :=
  comesBack_items (.inr rfl) h

theorem comesBack_dict {es ms : List (Value × Value)}
    (h : List.Forall₂ (MemberComesBack how) es ms) :
    ComesBack how (.dict es) (Value.dictOf ms) := by
  obtain ⟨parts, hparts, hreads⟩ := encodeEntries_comesBack h
  refine ⟨_, fun room hroom => ?_, readsAs_object hreads⟩
  rw [Value.depth] at hroom
  rw [encode, level, descend_of_le (Nat.le_of_add_left_le hroom),
    hparts _ (Nat.le_sub_of_add_le hroom)]
  rfl

/-- A text that is read as a value is a document with this value. -/
theorem ReadsAs.read {cs : List Char} {v : Value} (h : ReadsAs cs v) :
    read (String.ofList cs) = .ok v := by
  obtain ⟨c, tail, rfl, hblank, -, hmark⟩ := h.starts
  have hstart : skipBlank (c :: tail) = c :: tail := skipBlank_of_not_blank hblank tail
  have hvalue := h.reads (2 * (c :: tail).length + 2) [] (by omega) endsNumber_nil
  rw [List.append_nil] at hvalue
  have hdocument : readDocument (c :: tail) = .ok v := by
    simp only [readDocument, List.head?_cons, Option.some.injEq, hmark, if_false, hstart, hvalue,
      bind, Except.bind, pure, Except.pure]
    rfl
  rw [Json.read, String.toList_ofList, hdocument]
  rfl

/-- A whole document: what was written can be read. -/
theorem ComesBack.read_write {v w : Value} (h : ComesBack how v w) {room : Nat}
    (hroom : v.depth + writingCalls ≤ room) : ∃ s, write how room v = .ok s ∧ read s = .ok w := by
  obtain ⟨cs, hcs, hreads⟩ := h
  refine ⟨String.ofList cs, write_eq_ok_iff.mpr ⟨Nat.le_of_add_left_le hroom, cs, ?_, rfl⟩, hreads.read⟩
  exact hcs _ (Nat.le_sub_of_add_le hroom)

theorem ComesBack.read_of_write {v w : Value} (h : ComesBack how v w) {room : Nat} {s : String}
    (hs : write how room v = .ok s) : read s = .ok w := by
  obtain ⟨s', hs', hread⟩ := h.read_write (depth_le_of_write hs)
  obtain rfl := Except.ok.inj (hs.symm.trans hs')
  exact hread

/-- Without room for it nothing is written. -/
theorem ComesBack.write_of_lt {v w : Value} (h : ComesBack how v w) {room : Nat}
    (hroom : room < v.depth + writingCalls) :
    ∃ fault, write how room v = .error fault ∧ fault.kind = .recursion := by
  obtain ⟨cs, hcs, -⟩ := h
  exact write_of_lt_depth (hcs _ (Nat.le_refl _)) hroom

end ComesBack

end PlotStream.Json
