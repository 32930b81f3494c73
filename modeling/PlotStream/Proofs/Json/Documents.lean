import PlotStream.Proofs.Json.Legible

/-!
# The reader accepts the grammar

`Denotes cs v` says that a text is a JSON document of a value, with blanks around it: an array is its
items with commas between them, an object its members, and a member the text of its name and the text
of its value with a colon between them. The reader takes such a text off what it is given
(`Denotes.reads`), and whatever it takes off is such a text (`readers_sound`), so that the documents it
reads are those of the grammar (`readDocument_eq_ok_iff`). Of an object the members are known in the
order in which they are written (`IsObject`).
-/

namespace PlotStream.Json

/-! ## Blanks -/

def AreBlank (cs : List Char) : Prop :=
  ∀ c ∈ cs, isBlank c = true

theorem exists_blanks (cs : List Char) : ∃ blanks, AreBlank blanks ∧ cs = blanks ++ skipBlank cs :=
  ⟨cs.takeWhile isBlank, fun _ hc => List.mem_takeWhile_imp hc, List.takeWhile_append_dropWhile.symm⟩

theorem AreBlank.skipBlank_append {blanks : List Char} (h : AreBlank blanks) (cs : List Char) :
    skipBlank (blanks ++ cs) = skipBlank cs :=
  List.dropWhile_append_of_pos h

@[simp] theorem skipBlank_idem (cs : List Char) : skipBlank (skipBlank cs) = skipBlank cs :=
  List.dropWhile_idempotent ..

/-- What may stand behind a number may have blanks before it, and blanks alone end a number too. -/
theorem endsNumber_cons_of_blank {b : Char} (h : isBlank b = true) (rest : List Char) :
    EndsNumber (b :: rest) := by
  simp only [isBlank, Bool.or_eq_true, decide_eq_true_eq, or_assoc] at h
  rcases h with rfl | rfl | rfl | rfl <;> simp [EndsNumber, Char.isDigit]

/-! ## Documents -/

/-- A member as it is written: the text of its name up to the colon, the code points of the name, and
the text of its value up to the next member. -/
structure Member where
  nameText : List Char
  name : List Nat
  valueText : List Char
  value : Value

namespace Member

def text (m : Member) : List Char :=
  m.nameText ++ ':' :: m.valueText

/-- A member as an entry of its object. -/
def entry (m : Member) : Value × Value :=
  (.ofCodes m.name, m.value)

/-- The name of a member is a string with blanks around it. -/
def IsNamed (m : Member) : Prop :=
  ∃ before body behind, AreBlank before ∧ Spells body m.name ∧ AreBlank behind ∧
    m.nameText = before ++ '"' :: body ++ '"' :: behind

end Member

/-- The texts that are documents of a value. -/
inductive Denotes : List Char → Value → Prop
  | blankBefore {b : Char} {cs : List Char} {v : Value} (hb : isBlank b = true) (h : Denotes cs v) :
      Denotes (b :: cs) v
  | blankBehind {b : Char} {cs : List Char} {v : Value} (hb : isBlank b = true) (h : Denotes cs v) :
      Denotes (cs ++ [b]) v
  | word {word : String} {v : Value} (h : (word, v) ∈ words) : Denotes word.toList v
  | number {negative : Bool} {cs : List Char} {v : Value} (h : IsNumber negative cs v) :
      Denotes (signed negative cs) v
  | string {body : List Char} {codes : List Nat} (h : Spells body codes) :
      Denotes ('"' :: body ++ ['"']) (.ofCodes codes)
  | emptyArray {blanks : List Char} (h : AreBlank blanks) : Denotes ('[' :: blanks ++ [']']) (.list [])
  | array {items : List (List Char × Value)} (hne : items ≠ [])
      (h : ∀ item ∈ items, Denotes item.1 item.2) :
      Denotes ('[' :: [','].intercalate (items.map Prod.fst) ++ [']']) (.list (items.map Prod.snd))
  | emptyObject {blanks : List Char} (h : AreBlank blanks) :
      Denotes ('\x7b' :: blanks ++ ['\x7d']) (.dict [])
  | object {members : List Member} (hne : members ≠ []) (hnames : ∀ m ∈ members, m.IsNamed)
      (h : ∀ m ∈ members, Denotes m.valueText m.value) :
      Denotes ('\x7b' :: [','].intercalate (members.map Member.text) ++ ['\x7d'])
        (Value.dictOf (members.map Member.entry))

theorem Denotes.blanksBefore {blanks cs : List Char} {v : Value} (hb : AreBlank blanks)
    (h : Denotes cs v) : Denotes (blanks ++ cs) v := by
  induction blanks with
  | nil => exact h
  | cons b blanks ih =>
    obtain ⟨hb, hblanks⟩ := List.forall_mem_cons.mp hb
    exact .blankBefore hb (ih hblanks)

theorem Denotes.blanksBehind {blanks cs : List Char} {v : Value} (hb : AreBlank blanks)
    (h : Denotes cs v) : Denotes (cs ++ blanks) v := by
  induction blanks generalizing cs with
  | nil => simpa using h
  | cons b blanks ih =>
    obtain ⟨hb, hblanks⟩ := List.forall_mem_cons.mp hb
    simpa using ih hblanks (h.blankBehind hb)

/-- Parts with commas between them. -/
theorem commaSeparated_cons (part : List Char) {parts : List (List Char)} (h : parts ≠ []) :
    [','].intercalate (part :: parts) = part ++ ',' :: [','].intercalate parts := by
  rw [List.intercalate_cons_of_ne_nil h, List.append_assoc, List.singleton_append]

/-! ## What is read is a document -/

theorem readAtom_denotes {cs rest : List Char} {v : Value} (h : readAtom cs = .ok (v, rest)) :
    ∃ text, cs = text ++ rest ∧ Denotes text v := by
  unfold readAtom at h
  split at h
  · rename_i r hword
    obtain rfl := Except.ok.inj h
    obtain ⟨⟨word, w⟩, hmem, hafter⟩ := List.exists_of_findSome?_eq_some hword
    obtain ⟨behind, hbehind, hr⟩ := Option.map_eq_some_iff.mp hafter
    obtain ⟨rfl, rfl⟩ := Prod.mk.inj hr
    obtain ⟨hpre, hdrop⟩ := Option.ite_none_right_eq_some.mp hbehind
    obtain ⟨tail, rfl⟩ := List.isPrefixOf_iff_prefix.mp hpre
    obtain rfl := Option.some.inj hdrop
    exact ⟨word.toList, by simp, .word hmem⟩
  split at h
  · rename_i r hnumber
    subst h
    unfold takeNumber? at hnumber
    split at hnumber
    · obtain ⟨text, rfl, htext⟩ := takeUnsigned?_isNumber hnumber
      exact ⟨'-' :: text, rfl, @Denotes.number true _ _ htext⟩
    · obtain ⟨text, rfl, htext⟩ := takeUnsigned?_isNumber hnumber
      exact ⟨text, rfl, @Denotes.number false _ _ htext⟩
  · cases h

/-! The readers are given texts from which the blanks in front have been taken. -/

/-- What is read as a value within some fuel is a document of it. -/
def ValuesSound (fuel : Nat) : Prop :=
  ∀ cs v rest, readValue fuel (skipBlank cs) = .ok (v, rest) →
    ∃ text, cs = text ++ rest ∧ Denotes text v

def ItemsSound (fuel : Nat) : Prop :=
  ∀ cs vs rest, readItems fuel (skipBlank cs) = .ok (vs, rest) →
    ∃ items : List (List Char × Value), items ≠ [] ∧ (∀ item ∈ items, Denotes item.1 item.2) ∧
      cs = [','].intercalate (items.map Prod.fst) ++ ']' :: rest ∧ vs = items.map Prod.snd

def MembersSound (fuel : Nat) : Prop :=
  ∀ cs entries rest, readMembers fuel (skipBlank cs) = .ok (entries, rest) →
    ∃ members : List Member, members ≠ [] ∧ (∀ m ∈ members, m.IsNamed) ∧
      (∀ m ∈ members, Denotes m.valueText m.value) ∧
      cs = [','].intercalate (members.map Member.text) ++ '\x7d' :: rest ∧
      entries = members.map Member.entry

section Sound

variable {fuel : Nat} (hvalues : ValuesSound fuel) (hitems : ItemsSound fuel)
  (hmembers : MembersSound fuel)

include hitems hmembers in
theorem readValue_denotes {cs rest : List Char} {v : Value}
    (h : readValue (fuel + 1) cs = .ok (v, rest)) : ∃ text, cs = text ++ rest ∧ Denotes text v := by
  unfold readValue at h
  split at h
  · obtain ⟨⟨codes, behind⟩, hscan, h⟩ := exists_ok_of_bind h
    obtain ⟨rfl, rfl⟩ := Prod.mk.inj (Except.ok.inj h)
    obtain ⟨body, rfl, hspells⟩ := spells_of_scanString hscan
    exact ⟨'"' :: body ++ ['"'], by simp, .string hspells⟩
  · rename_i tail
    split at h
    · rename_i behind hclosed
      obtain ⟨rfl, rfl⟩ := Prod.mk.inj (Except.ok.inj h)
      obtain ⟨blanks, hblanks, htail⟩ := exists_blanks tail
      exact ⟨'[' :: blanks ++ [']'], by rw [htail, hclosed]; simp, .emptyArray hblanks⟩
    · obtain ⟨⟨vs, behind⟩, hread, h⟩ := exists_ok_of_bind h
      obtain ⟨rfl, rfl⟩ := Prod.mk.inj (Except.ok.inj h)
      obtain ⟨items, hne, hall, rfl, rfl⟩ := hitems _ _ _ hread
      exact ⟨_, by simp, .array hne hall⟩
  · rename_i tail
    split at h
    · rename_i behind hclosed
      obtain ⟨rfl, rfl⟩ := Prod.mk.inj (Except.ok.inj h)
      obtain ⟨blanks, hblanks, htail⟩ := exists_blanks tail
      exact ⟨'\x7b' :: blanks ++ ['\x7d'], by rw [htail, hclosed]; simp, .emptyObject hblanks⟩
    · obtain ⟨⟨entries, behind⟩, hread, h⟩ := exists_ok_of_bind h
      obtain ⟨rfl, rfl⟩ := Prod.mk.inj (Except.ok.inj h)
      obtain ⟨members, hne, hnames, hall, rfl, rfl⟩ := hmembers _ _ _ hread
      exact ⟨_, by simp, .object hne hnames hall⟩
  · exact readAtom_denotes h

include hitems hmembers in
theorem valuesSound_succ : ValuesSound (fuel + 1) := by
  intro cs v rest h
  obtain ⟨blanks, hblanks, hcs⟩ := exists_blanks cs
  obtain ⟨text, hskip, htext⟩ := readValue_denotes hitems hmembers h
  exact ⟨blanks ++ text, by rw [hcs, hskip, List.append_assoc], htext.blanksBefore hblanks⟩

include hvalues hitems in
theorem itemsSound_succ : ItemsSound (fuel + 1) := by
  intro cs vs rest h
  rw [readItems] at h
  obtain ⟨⟨v, behind⟩, hread, h⟩ := exists_ok_of_bind h
  obtain ⟨text, hcs, htext⟩ := hvalues _ _ _ hread
  obtain ⟨blanks, hblanks, hbehind⟩ := exists_blanks behind
  have hitem : Denotes (text ++ blanks) v := htext.blanksBehind hblanks
  rw [hcs, hbehind]
  dsimp only at h
  split at h
  · rename_i hclosed
    obtain ⟨rfl, rfl⟩ := Prod.mk.inj (Except.ok.inj h)
    exact ⟨[(text ++ blanks, v)], by simp, by simpa using hitem, by simp [hclosed], rfl⟩
  · rename_i hcomma
    obtain ⟨⟨more, after⟩, hmore, h⟩ := exists_ok_of_bind h
    obtain ⟨rfl, rfl⟩ := Prod.mk.inj (Except.ok.inj h)
    obtain ⟨items, hne, hall, rfl, rfl⟩ := hitems _ _ _ hmore
    refine ⟨(text ++ blanks, v) :: items, by simp, List.forall_mem_cons.mpr ⟨hitem, hall⟩, ?_, rfl⟩
    rw [List.map_cons, commaSeparated_cons _ (by simpa using hne), hcomma]
    simp
  · cases h

include hvalues hmembers in
theorem membersSound_succ : MembersSound (fuel + 1) := by
  intro cs entries rest h
  obtain ⟨before, hbefore, hcs⟩ := exists_blanks cs
  unfold readMembers at h
  split at h
  · rename_i tail hquote
    obtain ⟨⟨codes, behind⟩, hscan, h⟩ := exists_ok_of_bind h
    obtain ⟨body, hbody, hspells⟩ := spells_of_scanString hscan
    obtain ⟨blanks, hblanks, hbehind⟩ := exists_blanks behind
    dsimp only at h
    split at h
    · rename_i tail' hcolon
      obtain ⟨⟨v, after⟩, hread, h⟩ := exists_ok_of_bind h
      obtain ⟨text, htail, htext⟩ := hvalues _ _ _ hread
      obtain ⟨blanks', hblanks', hafter⟩ := exists_blanks after
      have hvalue : Denotes (text ++ blanks') v := htext.blanksBehind hblanks'
      let m : Member := ⟨before ++ '"' :: body ++ '"' :: blanks, codes, text ++ blanks', v⟩
      have hnamed : m.IsNamed := ⟨before, body, blanks, hbefore, hspells, hblanks, rfl⟩
      have hcs : cs = m.text ++ skipBlank after := by
        rw [hcs, hquote, hbody, hbehind, hcolon, htail]
        simp [m, Member.text, ← hafter]
      rw [hcs]
      dsimp only at h
      split at h
      · rename_i hclosed
        obtain ⟨rfl, rfl⟩ := Prod.mk.inj (Except.ok.inj h)
        exact ⟨[m], by simp, by simpa using hnamed, by simpa using hvalue, by simp [hclosed], rfl⟩
      · rename_i hcomma
        obtain ⟨⟨more, after'⟩, hmore, h⟩ := exists_ok_of_bind h
        obtain ⟨rfl, rfl⟩ := Prod.mk.inj (Except.ok.inj h)
        obtain ⟨members, hne, hnames, hall, rfl, rfl⟩ := hmembers _ _ _ hmore
        refine ⟨m :: members, by simp, List.forall_mem_cons.mpr ⟨hnamed, hnames⟩,
          List.forall_mem_cons.mpr ⟨hvalue, hall⟩, ?_, rfl⟩
        rw [List.map_cons, commaSeparated_cons _ (by simpa using hne), hcomma]
        simp
      · cases h
    · cases h
  · cases h

end Sound

/-- The induction is on the fuel, over all three readers at once. -/
theorem readers_sound (fuel : Nat) : ValuesSound fuel ∧ ItemsSound fuel ∧ MembersSound fuel := by
  induction fuel with
  | zero => simp [ValuesSound, ItemsSound, MembersSound, readValue, readItems, readMembers]
  | succ fuel ih =>
    obtain ⟨hvalues, hitems, hmembers⟩ := ih
    exact ⟨valuesSound_succ hitems hmembers, itemsSound_succ hvalues hitems,
      membersSound_succ hvalues hmembers⟩

/-! ## Documents are read -/

/-- A document is read, and of what follows it at most blanks with it. -/
def Reads (cs : List Char) (v : Value) : Prop :=
  ∀ fuel rest, cs.length ≤ fuel → EndsNumber rest →
    ∃ behind, readValue fuel (skipBlank (cs ++ rest)) = .ok (v, behind) ∧
      skipBlank behind = skipBlank rest

/-- Where a document starts behind the blanks in front, whatever follows it. -/
theorem Denotes.starts {cs : List Char} {v : Value} (h : Denotes cs v) :
    ∃ c tail, (∀ rest, skipBlank (cs ++ rest) = c :: (tail ++ rest)) ∧ isBlank c = false ∧
      c ≠ ']' ∧ c ≠ '\ufeff' := by
  have hfirst {c : Char} (tail : List Char) (hc : isBlank c = false) (rest : List Char) :
      skipBlank (c :: tail ++ rest) = c :: (tail ++ rest) := skipBlank_of_not_blank hc _
  induction h with
  | blankBefore hb _ ih =>
    obtain ⟨c, tail, hskip, hc⟩ := ih
    refine ⟨c, tail, fun rest => ?_, hc⟩
    rw [← hskip, List.cons_append, skipBlank, List.dropWhile_cons_of_pos hb]
    rfl
  | @blankBehind b cs v _ _ ih =>
    obtain ⟨c, tail, hskip, hc⟩ := ih
    exact ⟨c, tail ++ [b], fun rest => by simpa using hskip (b :: rest), hc⟩
  | @word word v hword =>
    have hall : ∀ w ∈ words, ∃ c tail, w.1.toList = c :: tail ∧ isBlank c = false ∧ c ≠ ']' ∧
        c ≠ '\ufeff' := by
      simp [words, isBlank]
    obtain ⟨c, tail, heq, hc⟩ := hall _ hword
    exact ⟨c, tail, fun rest => by rw [heq, hfirst tail hc.1], hc⟩
  | @number negative cs v h =>
    obtain ⟨c, tail, rfl, hdigit⟩ := h.starts
    obtain ⟨first, tail', heq, hblank, hne⟩ := signed_starts negative hdigit tail
    exact ⟨first, tail', fun rest => by rw [heq, hfirst tail' hblank], hblank, hne _ (by simp),
      hne _ (by simp)⟩
  | string => exact ⟨'"', _, hfirst _ rfl, rfl, by decide, by decide⟩
  | emptyArray | array => exact ⟨'[', _, hfirst _ rfl, rfl, by decide, by decide⟩
  | emptyObject | object => exact ⟨'\x7b', _, hfirst _ rfl, rfl, by decide, by decide⟩

theorem Reads.blankBefore {b : Char} {cs : List Char} {v : Value} (hb : isBlank b = true)
    (h : Reads cs v) : Reads (b :: cs) v := by
  intro fuel rest hf hr
  rw [List.cons_append, skipBlank, List.dropWhile_cons_of_pos hb]
  exact h fuel rest (by simp at hf; omega) hr

theorem Reads.blankBehind {b : Char} {cs : List Char} {v : Value} (hb : isBlank b = true)
    (h : Reads cs v) : Reads (cs ++ [b]) v := by
  intro fuel rest hf hr
  obtain ⟨behind, hread, hbehind⟩ :=
    h fuel (b :: rest) (by simp at hf; omega) (endsNumber_cons_of_blank hb rest)
  refine ⟨behind, by simpa using hread, ?_⟩
  rw [hbehind, skipBlank, List.dropWhile_cons_of_pos hb]
  rfl

/-- A text that is read up to its end, whatever follows it. -/
theorem reads_of_readValue {c : Char} {tail : List Char} {v : Value} (hc : isBlank c = false)
    (h : ∀ fuel rest, tail.length ≤ fuel → EndsNumber rest →
      readValue (fuel + 1) (c :: (tail ++ rest)) = .ok (v, rest)) : Reads (c :: tail) v := by
  rintro (_ | fuel) rest hf hr
  · simp at hf
  · rw [List.cons_append, skipBlank_of_not_blank hc]
    exact ⟨rest, h fuel rest (by simpa using hf) hr, rfl⟩

/-- A text between two delimiters that is read up to the second of them. -/
theorem reads_of_enclosed {c d : Char} {inner : List Char} {v : Value} (hc : isBlank c = false)
    (h : ∀ fuel rest, inner.length < fuel →
      readValue (fuel + 1) (c :: (inner ++ d :: rest)) = .ok (v, rest)) :
    Reads (c :: inner ++ [d]) v := by
  rw [List.cons_append]
  refine reads_of_readValue hc fun fuel rest hf _ => ?_
  rw [List.append_assoc, List.singleton_append]
  exact h fuel rest (by simp at hf; omega)

theorem takeWord?_append {word : String} {v : Value} (h : (word, v) ∈ words) (rest : List Char) :
    takeWord? (word.toList ++ rest) = some (v, rest) := by
  simp only [words, List.mem_cons, Prod.mk.injEq, List.not_mem_nil, or_false] at h
  rcases h with ⟨rfl, rfl⟩ | ⟨rfl, rfl⟩ | ⟨rfl, rfl⟩ | ⟨rfl, rfl⟩ | ⟨rfl, rfl⟩ | ⟨rfl, rfl⟩ <;> rfl

theorem reads_word {word : String} {v : Value} (h : (word, v) ∈ words) : Reads word.toList v := by
  have hall : ∀ w ∈ words, ∃ c tail, w.1.toList = c :: tail ∧ isBlank c = false ∧ c ≠ '"' ∧
      c ≠ '[' ∧ c ≠ '\x7b' := by
    simp [words, isBlank]
  obtain ⟨c, tail, heq, hblank, hne⟩ := hall _ h
  rw [heq]
  refine reads_of_readValue hblank fun fuel rest _ _ => ?_
  have hword := takeWord?_append h rest
  rw [heq] at hword
  rw [readValue_eq_readAtom hne.1 hne.2.1 hne.2.2, readAtom, ← List.cons_append, hword]

theorem reads_number {negative : Bool} {cs : List Char} {v : Value} (h : IsNumber negative cs v) :
    Reads (signed negative cs) v := by
  obtain ⟨c, tail, rfl, hdigit⟩ := h.starts
  obtain ⟨first, tail', heq, hblank, hne⟩ := signed_starts negative hdigit tail
  rw [heq]
  refine reads_of_readValue hblank fun fuel rest _ hr => ?_
  have hatom := readAtom_signed hdigit (fun _ => h.take_append) hr
  rw [readValue_eq_readAtom (hne _ (by simp)) (hne _ (by simp)) (hne _ (by simp)),
    ← List.cons_append, ← heq, hatom]

theorem reads_string {body : List Char} {codes : List Nat} (h : Spells body codes) :
    Reads ('"' :: body ++ ['"']) (.ofCodes codes) := by
  refine reads_of_enclosed rfl fun fuel rest _ => ?_
  rw [readValue, h.scanString]
  rfl

theorem reads_emptyArray {blanks : List Char} (h : AreBlank blanks) :
    Reads ('[' :: blanks ++ [']']) (.list []) := by
  refine reads_of_enclosed rfl fun fuel rest _ => ?_
  rw [readValue, h.skipBlank_append, skipBlank_of_not_blank rfl]
  rfl

theorem reads_emptyObject {blanks : List Char} (h : AreBlank blanks) :
    Reads ('\x7b' :: blanks ++ ['\x7d']) (.dict []) := by
  refine reads_of_enclosed rfl fun fuel rest _ => ?_
  rw [readValue, h.skipBlank_append, skipBlank_of_not_blank rfl]
  rfl

/-- Items up to the end of their array. -/
theorem readItems_items {items : List (List Char × Value)} (hne : items ≠ [])
    (h : ∀ item ∈ items, Reads item.1 item.2) :
    ∀ fuel rest, ([','].intercalate (items.map Prod.fst)).length < fuel →
      readItems fuel (skipBlank ([','].intercalate (items.map Prod.fst) ++ ']' :: rest)) =
        .ok (items.map Prod.snd, rest) := by
  induction items with
  | nil => exact absurd rfl hne
  | cons item items ih =>
    obtain ⟨hitem, hitems⟩ := List.forall_mem_cons.mp h
    rintro (_ | fuel) rest hf
    · omega
    by_cases hlast : items = []
    · subst hlast
      simp only [List.map_cons, List.map_nil, List.intercalate_singleton] at hf ⊢
      obtain ⟨behind, hread, hbehind⟩ := hitem fuel _ (by omega) (endsNumber_bracket rest)
      rw [readItems, hread]
      simp only [bind, Except.bind]
      rw [hbehind, skipBlank_of_not_blank rfl]
      rfl
    · rw [List.map_cons, commaSeparated_cons _ (by simpa using hlast)] at hf ⊢
      simp only [List.length_append, List.length_cons] at hf
      rw [List.append_assoc, List.cons_append]
      obtain ⟨behind, hread, hbehind⟩ := hitem fuel _ (by omega) (endsNumber_comma _)
      rw [readItems, hread]
      simp only [bind, Except.bind]
      rw [hbehind, skipBlank_of_not_blank rfl]
      simp only [ih hlast hitems fuel rest (by omega)]
      rfl

/-- A document in front of a text does not make it look like the end of an array. -/
theorem commaSeparated_starts {items : List (List Char × Value)} (hne : items ≠ [])
    (h : ∀ item ∈ items, Denotes item.1 item.2) (rest : List Char) :
    ∃ c tail, skipBlank ([','].intercalate (items.map Prod.fst) ++ rest) = c :: tail ∧ c ≠ ']' := by
  obtain ⟨item, items, rfl⟩ := List.exists_cons_of_ne_nil hne
  obtain ⟨c, tail, hskip, -, hc, -⟩ := (h item (List.mem_cons_self ..)).starts
  by_cases hlast : items = []
  · exact ⟨c, _, by simpa [hlast] using hskip rest, hc⟩
  · rw [List.map_cons, commaSeparated_cons _ (by simpa using hlast), List.append_assoc]
    exact ⟨c, _, hskip _, hc⟩

theorem reads_array {items : List (List Char × Value)} (hne : items ≠ [])
    (h : ∀ item ∈ items, Denotes item.1 item.2) (hreads : ∀ item ∈ items, Reads item.1 item.2) :
    Reads ('[' :: [','].intercalate (items.map Prod.fst) ++ [']']) (.list (items.map Prod.snd)) := by
  refine reads_of_enclosed rfl fun fuel rest hf => ?_
  have hitems := readItems_items hne hreads fuel rest hf
  obtain ⟨c, tail, hskip, hc⟩ := commaSeparated_starts hne h (']' :: rest)
  rw [readValue]
  rw [hskip] at hitems ⊢
  split
  · exact absurd (List.cons.inj ‹_›).1 hc
  · rw [hitems]
    rfl

/-- The name and the colon go first. -/
theorem readMembers_member {m : Member} (hname : m.IsNamed) (hvalue : Reads m.valueText m.value)
    {fuel : Nat} (hfuel : m.valueText.length ≤ fuel) {rest : List Char} (hr : EndsNumber rest) :
    (∃ tail, skipBlank (m.text ++ rest) = '"' :: tail) ∧
      ∃ behind, skipBlank behind = skipBlank rest ∧
        readMembers (fuel + 1) (skipBlank (m.text ++ rest)) = readMoreMembers fuel m.entry behind := by
  obtain ⟨before, body, blanks, hbefore, hspells, hblanks, htext⟩ := hname
  obtain ⟨behind, hread, hbehind⟩ := hvalue fuel rest hfuel hr
  have hskip : skipBlank (m.text ++ rest) =
      '"' :: (body ++ '"' :: (blanks ++ ':' :: (m.valueText ++ rest))) := by
    rw [Member.text, htext]
    simp only [List.append_assoc, List.cons_append]
    rw [hbefore.skipBlank_append, skipBlank_of_not_blank rfl]
  refine ⟨⟨_, hskip⟩, behind, hbehind, ?_⟩
  rw [hskip, readMembers, hspells.scanString]
  simp only [bind, Except.bind]
  rw [hblanks.skipBlank_append, skipBlank_of_not_blank rfl]
  simp only [hread]
  rfl

/-- Members up to the end of their object. -/
theorem readMembers_members {members : List Member} (hne : members ≠ [])
    (hnames : ∀ m ∈ members, m.IsNamed) (h : ∀ m ∈ members, Reads m.valueText m.value) :
    ∀ fuel rest, ([','].intercalate (members.map Member.text)).length < fuel →
      readMembers fuel (skipBlank ([','].intercalate (members.map Member.text) ++ '\x7d' :: rest)) =
        .ok (members.map Member.entry, rest) := by
  induction members with
  | nil => exact absurd rfl hne
  | cons m members ih =>
    obtain ⟨hname, hnames⟩ := List.forall_mem_cons.mp hnames
    obtain ⟨hvalue, hvalues⟩ := List.forall_mem_cons.mp h
    rintro (_ | fuel) rest hf
    · omega
    by_cases hlast : members = []
    · subst hlast
      simp only [List.map_cons, List.map_nil, List.intercalate_singleton] at hf ⊢
      have hlen : m.valueText.length ≤ fuel := by simp [Member.text] at hf; omega
      obtain ⟨-, behind, hbehind, hread⟩ := readMembers_member hname hvalue hlen (endsNumber_brace rest)
      rw [hread, readMoreMembers, hbehind, skipBlank_of_not_blank rfl]
      rfl
    · rw [List.map_cons, commaSeparated_cons _ (by simpa using hlast)] at hf ⊢
      have hlen : m.valueText.length ≤ fuel := by simp [Member.text] at hf; omega
      have hmore := ih hlast hnames hvalues fuel rest (by simp at hf ⊢; omega)
      rw [List.append_assoc, List.cons_append]
      obtain ⟨-, behind, hbehind, hread⟩ := readMembers_member hname hvalue hlen (endsNumber_comma _)
      rw [hread, readMoreMembers, hbehind, skipBlank_of_not_blank rfl]
      simp only [hmore]
      rfl

theorem reads_object {members : List Member} (hne : members ≠ [])
    (hnames : ∀ m ∈ members, m.IsNamed) (h : ∀ m ∈ members, Reads m.valueText m.value) :
    Reads ('\x7b' :: [','].intercalate (members.map Member.text) ++ ['\x7d'])
      (Value.dictOf (members.map Member.entry)) := by
  refine reads_of_enclosed rfl fun fuel rest hf => ?_
  have hmembers := readMembers_members hne hnames h fuel rest hf
  obtain ⟨tail, hskip⟩ : ∃ tail,
      skipBlank ([','].intercalate (members.map Member.text) ++ '\x7d' :: rest) = '"' :: tail := by
    obtain ⟨m, members, rfl⟩ := List.exists_cons_of_ne_nil hne
    have hstart (rest : List Char) (hr : EndsNumber rest) :=
      (readMembers_member (hnames m (List.mem_cons_self ..)) (h m (List.mem_cons_self ..)) (le_refl _)
        hr).1
    by_cases hlast : members = []
    · simpa [hlast] using hstart _ (endsNumber_brace rest)
    · rw [List.map_cons, commaSeparated_cons _ (by simpa using hlast), List.append_assoc]
      exact hstart _ (endsNumber_comma _)
  rw [readValue]
  rw [hskip] at hmembers ⊢
  split
  · exact absurd (List.cons.inj ‹_›).1 (by decide)
  · rw [hmembers]
    rfl

/-- A document is read as what it denotes. -/
theorem Denotes.reads {cs : List Char} {v : Value} (h : Denotes cs v) : Reads cs v := by
  induction h with
  | blankBefore hb _ ih => exact ih.blankBefore hb
  | blankBehind hb _ ih => exact ih.blankBehind hb
  | word h => exact reads_word h
  | number h => exact reads_number h
  | string h => exact reads_string h
  | emptyArray h => exact reads_emptyArray h
  | array hne h ih => exact reads_array hne h ih
  | emptyObject h => exact reads_emptyObject h
  | object hne hnames _ ih => exact reads_object hne hnames ih

/-- A document whose end has been reached, up to blanks. -/
theorem denotes_of_readValue {fuel : Nat} {cs behind : List Char} {v : Value}
    (h : readValue fuel (skipBlank cs) = .ok (v, behind)) (hbehind : skipBlank behind = []) :
    Denotes cs v := by
  obtain ⟨text, rfl, htext⟩ := (readers_sound fuel).1 _ _ _ h
  obtain ⟨blanks, hblanks, heq⟩ := exists_blanks behind
  rw [heq, hbehind, List.append_nil]
  exact htext.blanksBehind hblanks

/-- Blanks in front can be left out, since the reader starts behind them. -/
theorem Denotes.skipBlank {cs : List Char} {v : Value} (h : Denotes cs v) :
    Denotes (skipBlank cs) v := by
  obtain ⟨behind, hread, hbehind⟩ := h.reads cs.length [] (le_refl _) endsNumber_nil
  rw [List.append_nil, ← skipBlank_idem] at hread
  exact denotes_of_readValue hread hbehind

theorem Denotes.head?_ne {cs : List Char} {v : Value} (h : Denotes cs v) :
    cs.head? ≠ some '\ufeff' := by
  obtain ⟨c, tail, hskip, -, -, hmark⟩ := h.starts
  intro hfirst
  obtain ⟨more, rfl⟩ := List.head?_eq_some_iff.mp hfirst
  have hstart := hskip []
  rw [List.cons_append, skipBlank_of_not_blank (by decide)] at hstart
  exact hmark (List.cons.inj hstart).1.symm

/-- The texts that are read are the documents of the grammar. -/
theorem readDocument_eq_ok_iff {cs : List Char} {v : Value} :
    readDocument cs = .ok v ↔ Denotes cs v := by
  constructor
  · intro h
    unfold readDocument at h
    split at h
    · cases h
    obtain ⟨⟨w, behind⟩, hread, h⟩ := exists_ok_of_bind h
    dsimp only at h
    split at h
    · rename_i hend
      obtain rfl := Except.ok.inj h
      exact denotes_of_readValue hread hend
    · cases h
  · intro h
    obtain ⟨behind, hread, hbehind⟩ := h.skipBlank.reads (2 * (Json.skipBlank cs).length + 2) []
      (by omega) endsNumber_nil
    rw [List.append_nil, skipBlank_idem] at hread
    simp only [readDocument, h.head?_ne, if_false, hread, bind, Except.bind, pure, Except.pure]
    rw [hbehind]
    rfl

theorem read_eq_ok_iff {s : String} {v : Value} : read s = .ok v ↔ Denotes s.toList v := by
  rw [← readDocument_eq_ok_iff, read]
  cases readDocument s.toList <;> simp [Except.mapError]

/-! ## Objects -/

/-- The texts that are documents of an object, with the members in the order in which they are
written. -/
inductive IsObject : List Char → List Member → Prop
  | blankBefore {b : Char} {cs : List Char} {members : List Member} (hb : isBlank b = true)
      (h : IsObject cs members) : IsObject (b :: cs) members
  | blankBehind {b : Char} {cs : List Char} {members : List Member} (hb : isBlank b = true)
      (h : IsObject cs members) : IsObject (cs ++ [b]) members
  | empty {blanks : List Char} (h : AreBlank blanks) :
      IsObject ('\x7b' :: blanks ++ ['\x7d']) []
  | members {members : List Member} (hne : members ≠ []) (hnames : ∀ m ∈ members, m.IsNamed)
      (h : ∀ m ∈ members, Denotes m.valueText m.value) :
      IsObject ('\x7b' :: [','].intercalate (members.map Member.text) ++ ['\x7d']) members

theorem IsObject.denotes {cs : List Char} {members : List Member} (h : IsObject cs members) :
    Denotes cs (Value.dictOf (members.map Member.entry)) := by
  induction h with
  | blankBefore hb _ ih => exact .blankBefore hb ih
  | blankBehind hb _ ih => exact .blankBehind hb ih
  | empty h => exact .emptyObject h
  | members hne hnames h => exact .object hne hnames h

/-- A document of a dictionary is one of an object, whose members make up the dictionary. -/
theorem Denotes.exists_members {cs : List Char} {v : Value} (h : Denotes cs v) :
    ∀ {entries : Entries Value}, v = .dict entries →
      ∃ members, IsObject cs members ∧ entries = Entries.ofList (members.map Member.entry) := by
  induction h with
  | blankBefore hb _ ih =>
    intro entries heq
    obtain ⟨members, hobject, hentries⟩ := ih heq
    exact ⟨members, .blankBefore hb hobject, hentries⟩
  | blankBehind hb _ ih =>
    intro entries heq
    obtain ⟨members, hobject, hentries⟩ := ih heq
    exact ⟨members, .blankBehind hb hobject, hentries⟩
  | emptyObject h =>
    intro entries heq
    exact ⟨[], .empty h, (Value.dict.inj heq).symm⟩
  | @object members hne hnames h =>
    intro entries heq
    exact ⟨members, .members hne hnames h, (Value.dict.inj heq).symm⟩
  | word h =>
    rintro entries rfl
    simp [words] at h
  | number h =>
    rintro entries rfl
    cases h
  | string =>
    intro entries heq
    rw [Value.ofCodes] at heq
    split at heq <;> cases heq
  | emptyArray | array => simp

end PlotStream.Json
