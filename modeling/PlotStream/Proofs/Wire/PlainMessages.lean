import PlotStream.Proofs.Json.Documents
import PlotStream.Proofs.Json.Written
import PlotStream.Proofs.Wire.Messages

/-!
# Plain messages survive the wire in both directions

`IsPlain` is the data that a message may hold without losing anything: nothing, truth values, integers
of limited length, text, and lists, tuples and dictionaries of such data. It comes back with every
tuple as a list (`IsPlain.comesBack`). Conversely, what is read without a number that is no integer
and without torn text is plain and has no tuples (`Value.IsRead.plain`), so that it is written and read
again as itself. `plain_messages_survive` says both of messages.
-/

namespace PlotStream

/-! ## Entries -/

namespace Entries

variable {α : Type}

theorem keys_insert (es : Entries α) (key : Value) (x : α) :
    (insert es key x).keys = es.keys ∨
      (insert es key x).keys = es.keys ++ [key] ∧ ∀ k ∈ es.keys, k.keyEqual key = false := by
  induction es with
  | nil => exact .inr ⟨rfl, by simp [keys]⟩
  | cons e es ih =>
    rw [insert]
    split
    · exact .inl rfl
    rename_i hne
    rcases ih with hsame | ⟨hmore, hfresh⟩
    · exact .inl (congrArg (e.1 :: ·) hsame)
    · refine .inr ⟨congrArg (e.1 :: ·) hmore, ?_⟩
      exact List.forall_mem_cons.mpr ⟨by simpa using hne, hfresh⟩

theorem Distinct.insert {es : Entries α} (h : Distinct es) (key : Value) (x : α) :
    Distinct (insert es key x) := by
  rw [Distinct]
  rcases keys_insert es key x with hkeys | ⟨hkeys, hfresh⟩
  · rw [hkeys]
    exact h
  · rw [hkeys]
    exact List.pairwise_append.mpr ⟨h, List.pairwise_singleton .., by simpa using hfresh⟩

/-- Entries that have been put in one after the other are distinct. -/
theorem distinct_ofList (es : List (Value × α)) : Distinct (ofList es) :=
  List.foldlRecOn es _ List.Pairwise.nil fun _ h e _ => h.insert e.1 e.2

/-- What holds of all keys and what holds of all values, one entry put in. -/
theorem forall_mem_insert {P : Value → Prop} {Q : α → Prop} {es : Entries α} {key : Value} {x : α}
    (h : ∀ e ∈ es, P e.1 ∧ Q e.2) (hkey : P key) (hx : Q x) :
    ∀ e ∈ insert es key x, P e.1 ∧ Q e.2 := by
  induction es with
  | nil => simpa [insert] using ⟨hkey, hx⟩
  | cons e es ih =>
    obtain ⟨he, hes⟩ := List.forall_mem_cons.mp h
    rw [insert]
    split
    · exact List.forall_mem_cons.mpr ⟨⟨he.1, hx⟩, hes⟩
    · exact List.forall_mem_cons.mpr ⟨he, ih hes⟩

theorem forall_mem_ofList {P : Value → Prop} {Q : α → Prop} {es : List (Value × α)}
    (h : ∀ e ∈ es, P e.1 ∧ Q e.2) : ∀ e ∈ ofList es, P e.1 ∧ Q e.2 := by
  have hnil : ∀ e ∈ ([] : Entries α), P e.1 ∧ Q e.2 := by simp
  have hinsert (acc : Entries α) (hacc : ∀ e ∈ acc, P e.1 ∧ Q e.2) (e : Value × α) (he : e ∈ es) :
      ∀ e' ∈ insert acc e.1 e.2, P e'.1 ∧ Q e'.2 :=
    forall_mem_insert hacc (h e he).1 (h e he).2
  exact List.foldlRecOn es _ hnil hinsert

end Entries

/-! ## Plain data -/

namespace Value

/-- Data that can be sent and read again, tuples apart. -/
inductive IsPlain : Value → Prop
  | none : IsPlain .none
  | bool (b : Bool) : IsPlain (.bool b)
  | int {n : Int} (h : n.natAbs < 10 ^ digitLimit) : IsPlain (.int n)
  | text (s : String) : IsPlain (.text s)
  | list {items : List Value} (h : ∀ v ∈ items, IsPlain v) : IsPlain (.list items)
  | tuple {items : List Value} (h : ∀ v ∈ items, IsPlain v) : IsPlain (.tuple items)
  | dict {entries : Entries Value} (hkeys : entries.Distinct)
      (hnames : ∀ e ∈ entries, ∃ name, e.1 = .text name) (h : ∀ e ∈ entries, IsPlain e.2) :
      IsPlain (.dict entries)

theorem IsPlain.wrapped (n : Nat) : (wrapped n).IsPlain := by
  induction n with
  | zero => exact .list (by simp)
  | succ n ih => exact .list (by simpa using ih)

mutual

/-- Every tuple as a list. -/
def listed : Value → Value
  | .list items => .list (listedItems items)
  | .tuple items => .list (listedItems items)
  | .dict entries => .dict (listedEntries entries)
  | v => v

/-- Values one by one. -/
def listedItems : List Value → List Value
  | [] => []
  | v :: vs => v.listed :: listedItems vs

/-- The values of entries one by one. -/
def listedEntries : List (Value × Value) → List (Value × Value)
  | [] => []
  | (k, v) :: es => (k, v.listed) :: listedEntries es

end

theorem listedItems_eq_map (vs : List Value) : listedItems vs = vs.map listed := by
  induction vs with
  | nil => rfl
  | cons v vs ih => rw [listedItems, ih, List.map_cons]

theorem listedEntries_eq_map (es : List (Value × Value)) :
    listedEntries es = es.map fun e => (e.1, e.2.listed) := by
  induction es with
  | nil => rfl
  | cons e es ih => rw [listedEntries, ih, List.map_cons]

theorem keys_listedEntries (es : Entries Value) :
    Entries.keys (listedEntries es) = es.keys := by
  simp [Entries.keys, listedEntries_eq_map]

/-- Values without tuples stay what they are. -/
theorem listedItems_of_forall {vs : List Value} (h : ∀ v ∈ vs, v.listed = v) :
    listedItems vs = vs := by
  rw [listedItems_eq_map]
  exact (List.map_congr_left h).trans (List.map_id vs)

theorem listedEntries_of_forall {es : List (Value × Value)} (h : ∀ e ∈ es, e.2.listed = e.2) :
    listedEntries es = es := by
  rw [listedEntries_eq_map]
  exact (List.map_congr_left fun e he => congrArg (e.1, ·) (h e he)).trans (List.map_id es)

end Value

namespace Json

/-! ## Writing and reading plain data -/

theorem forall₂_listedItems {how : Scalars} {vs : List Value}
    (h : ∀ v ∈ vs, ComesBack how v v.listed) :
    List.Forall₂ (ComesBack how) vs (Value.listedItems vs) := by
  rw [Value.listedItems_eq_map, List.forall₂_map_right_iff, List.forall₂_same]
  exact h

theorem forall₂_listedEntries {how : Scalars} {es : Entries Value}
    (hnames : ∀ e ∈ es, ∃ name, e.1 = .text name) (h : ∀ e ∈ es, ComesBack how e.2 e.2.listed) :
    List.Forall₂ (MemberComesBack how) es (Value.listedEntries es) := by
  rw [Value.listedEntries_eq_map, List.forall₂_map_right_iff, List.forall₂_same]
  rintro ⟨key, v⟩ he
  obtain ⟨name, rfl⟩ : ∃ name, key = .text name := hnames _ he
  exact .intro name (h _ he)

/-- Plain data comes back with its tuples as lists. -/
theorem comesBack_of_isPlain {v : Value} (h : v.IsPlain) (how : Scalars) :
    ComesBack how v v.listed := by
  induction h with
  | none => exact comesBack_null
  | bool b => exact comesBack_bool b
  | int h => exact comesBack_int h
  | text s => exact comesBack_text s
  | list _ ih => exact comesBack_list (forall₂_listedItems ih)
  | tuple _ ih => exact comesBack_tuple (forall₂_listedItems ih)
  | @dict entries hkeys hnames _ ih =>
    have hdistinct : Entries.Distinct (Value.listedEntries entries) := by
      rw [Entries.Distinct, Value.keys_listedEntries]
      exact hkeys
    have hback := comesBack_dict (forall₂_listedEntries hnames ih)
    rwa [Value.dictOf, Entries.ofList_of_distinct hdistinct] at hback

end Json

/-! ## What is read is plain -/

namespace Value

mutual

/-- Whether a value holds neither a number that is no integer nor torn text, its keys included. -/
def isExact : Value → Bool
  | .float _ | .torn _ => false
  | .list items => areExact items
  | .dict entries => entriesExact entries
  | _ => true

/-- Values one by one. -/
def areExact : List Value → Bool
  | [] => true
  | v :: vs => v.isExact && areExact vs

/-- Keys and values of entries one by one. -/
def entriesExact : List (Value × Value) → Bool
  | [] => true
  | (k, v) :: es => k.isExact && v.isExact && entriesExact es

end

theorem areExact_iff {vs : List Value} : areExact vs = true ↔ ∀ v ∈ vs, v.isExact = true := by
  induction vs with
  | nil => simp [areExact]
  | cons v vs ih => simp [areExact, ih]

theorem entriesExact_iff {es : List (Value × Value)} :
    entriesExact es = true ↔ ∀ e ∈ es, e.1.isExact = true ∧ e.2.isExact = true := by
  induction es with
  | nil => simp [entriesExact]
  | cons e es ih => simp [entriesExact, ih]

/-- Text of either form, as the name of a member is read. -/
inductive IsMemberName : Value → Prop
  | text (s : String) : IsMemberName (.text s)
  | torn (codes : List Nat) : IsMemberName (.torn codes)

/-- What is read from some text. -/
inductive IsRead : Value → Prop
  | none : IsRead .none
  | bool (b : Bool) : IsRead (.bool b)
  | int {n : Int} (h : n.natAbs < 10 ^ digitLimit) : IsRead (.int n)
  | float (x : Double) : IsRead (.float x)
  | name {v : Value} (h : IsMemberName v) : IsRead v
  | list {items : List Value} (h : ∀ v ∈ items, IsRead v) : IsRead (.list items)
  | dict {entries : Entries Value} (hkeys : entries.Distinct)
      (hnames : ∀ e ∈ entries, IsMemberName e.1) (h : ∀ e ∈ entries, IsRead e.2) :
      IsRead (.dict entries)

theorem isMemberName_ofCodes (codes : List Nat) : (ofCodes codes).IsMemberName := by
  rw [ofCodes]
  split
  · exact .text _
  · exact .torn codes

/-- The members of an object, of which the last of a name counts. -/
theorem IsRead.dictOf {members : List (Value × Value)}
    (h : ∀ e ∈ members, e.1.IsMemberName ∧ e.2.IsRead) : (dictOf members).IsRead := by
  have hmembers := Entries.forall_mem_ofList h
  exact .dict (Entries.distinct_ofList members) (fun e he => (hmembers e he).1)
    fun e he => (hmembers e he).2

/-- Exact text is not torn. -/
theorem IsMemberName.exists_text {v : Value} (h : v.IsMemberName) (hexact : v.isExact = true) :
    ∃ s, v = .text s := by
  cases h with
  | text s => exact ⟨s, rfl⟩
  | torn codes => cases hexact

/-- What is read is plain and has no tuples, provided that it is exact. -/
theorem IsRead.plain {v : Value} (h : v.IsRead) (hexact : v.isExact = true) :
    v.IsPlain ∧ v.listed = v := by
  induction h with
  | none => exact ⟨.none, rfl⟩
  | bool b => exact ⟨.bool b, rfl⟩
  | int h => exact ⟨.int h, rfl⟩
  | float x => cases hexact
  | name h =>
    obtain ⟨s, rfl⟩ := h.exists_text hexact
    exact ⟨.text s, rfl⟩
  | list _ ih =>
    rw [isExact, areExact_iff] at hexact
    refine ⟨.list fun v hv => (ih v hv (hexact v hv)).1, ?_⟩
    rw [listed, listedItems_of_forall fun v hv => (ih v hv (hexact v hv)).2]
  | dict hkeys hnames _ ih =>
    rw [isExact, entriesExact_iff] at hexact
    refine ⟨.dict hkeys ?_ fun e he => (ih e he (hexact e he).2).1, ?_⟩
    · exact fun e he => (hnames e he).exists_text (hexact e he).1
    · rw [listed, listedEntries_of_forall fun e he => (ih e he (hexact e he).2).2]

end Value

namespace Json

theorem digitValue_le {c : Char} (h : c.isDigit = true) : c.toNat - '0'.toNat ≤ 9 := by
  simp only [Char.isDigit, Bool.and_eq_true, decide_eq_true_eq, UInt32.le_iff_toNat_le, ge_iff_le] at h
  change 48 ≤ c.toNat ∧ c.toNat ≤ 57 at h
  change c.toNat - 48 ≤ 9
  omega

theorem ofDigitChars_lt {ds : List Char} (h : ∀ c ∈ ds, c.isDigit = true) (n : Nat) :
    Nat.ofDigitChars 10 ds n < (n + 1) * 10 ^ ds.length := by
  induction ds generalizing n with
  | nil => simp
  | cons c ds ih =>
    obtain ⟨hc, hds⟩ := List.forall_mem_cons.mp h
    have hdigit : c.toNat - '0'.toNat ≤ 9 := digitValue_le hc
    rw [Nat.ofDigitChars_cons, List.length_cons]
    refine Nat.lt_of_lt_of_le (ih hds _) ?_
    rw [Nat.pow_succ, Nat.mul_comm _ 10, ← Nat.mul_assoc]
    exact Nat.mul_le_mul_right _ (by omega)

/-- An integer with as many digits as are read. -/
theorem digits_lt {ds : List Char} (h : ∀ c ∈ ds, c.isDigit = true)
    (hlen : ds.length ≤ digitLimit) : Numeral.digits ds < 10 ^ digitLimit := by
  have hlt := ofDigitChars_lt h 0
  rw [Nat.zero_add, Nat.one_mul] at hlt
  exact Nat.lt_of_lt_of_le hlt (Nat.pow_le_pow_right (by decide) hlen)

theorem IsNumber.isRead {negative : Bool} {text : List Char} {v : Value}
    (h : IsNumber negative text v) : v.IsRead := by
  cases h with
  | integer hwhole hlen =>
    refine Value.IsRead.int ?_
    have hlt := digits_lt hwhole.digits hlen
    split <;> simpa using hlt
  | real => exact Value.IsRead.float _

theorem Denotes.isRead {cs : List Char} {v : Value} (h : Denotes cs v) : v.IsRead := by
  induction h with
  | blankBefore _ _ ih | blankBehind _ _ ih => exact ih
  | word hword =>
    have hall : ∀ w ∈ words, w.2.IsRead := by
      simp [words, Value.IsRead.none, Value.IsRead.bool, Value.IsRead.float]
    exact hall _ hword
  | number h => exact h.isRead
  | string => exact .name (Value.isMemberName_ofCodes _)
  | emptyArray => exact Value.IsRead.list (by simp)
  | array _ _ ih => exact Value.IsRead.list (List.forall_mem_map.mpr ih)
  | emptyObject => exact @Value.IsRead.dictOf [] (by simp)
  | object _ _ _ ih =>
    exact Value.IsRead.dictOf <| List.forall_mem_map.mpr fun m hm =>
      ⟨Value.isMemberName_ofCodes m.name, ih m hm⟩

theorem isRead_of_read {t : String} {v : Value} (h : read t = .ok v) : v.IsRead :=
  (read_eq_ok_iff.mp h).isRead

end Json

/-! ## Messages -/

namespace Message

/-- A message that holds plain data under other names than that of the kind. -/
def IsPlain (m : Message) : Prop :=
  (Value.dict m.fields).IsPlain ∧ kindKey ∉ Entries.keys m.fields

/-- A message with every tuple as a list. -/
def listed (m : Message) : Message :=
  ⟨m.kind, Value.listedEntries m.fields⟩

theorem IsPlain.distinct_members {m : Message} (h : m.IsPlain) : Entries.Distinct m.members := by
  obtain ⟨hplain, hkind⟩ := h
  cases hplain with
  | dict hkeys hnames _ =>
    refine List.pairwise_cons.mpr ⟨fun key hkey => ?_, hkeys⟩
    obtain ⟨e, he, rfl⟩ := List.mem_map.mp hkey
    obtain ⟨name, hname⟩ := hnames e he
    rw [hname] at hkey ⊢
    rw [kindKey, Value.keyEqual_text, decide_eq_false_iff_not]
    rintro rfl
    exact hkind hkey

theorem IsPlain.fieldsComeBack {m : Message} (h : m.IsPlain) :
    List.Forall₂ (Json.MemberComesBack .refuse) m.fields (Value.listedEntries m.fields) := by
  cases h.1 with
  | dict _ hnames hvalues =>
    exact Json.forall₂_listedEntries hnames fun e he => Json.comesBack_of_isPlain (hvalues e he) _

theorem IsPlain.survives {m : Message} (h : m.IsPlain) {room : Nat} (hroom : m.calls ≤ room) :
    ∃ s, m.toJson room = .ok s ∧ ofJson s = .ok m.listed := by
  obtain ⟨s, hs⟩ := exists_toJson h.fieldsComeBack h.distinct_members hroom
  exact ⟨s, hs, ofJson_of_toJson h.fieldsComeBack h.distinct_members hs⟩

/-- What is left of an object without the member that holds the kind. -/
theorem isPlain_of_ofValue {v : Value} {m : Message} (hread : v.IsRead) (h : ofValue v = .ok m)
    (hexact : (Value.dict m.fields).isExact = true) : m.IsPlain ∧ m.listed = m := by
  unfold ofValue at h
  split at h
  · rename_i entries
    obtain ⟨kind, -, h⟩ := Json.exists_ok_of_bind h
    obtain rfl := Except.ok.inj h
    have hsub : (entries.filter fun e => !e.1.keyEqual kindKey) ⊆ entries :=
      List.filter_subset_self _
    have hfields : (Value.dict (entries.filter fun e => !e.1.keyEqual kindKey)).IsRead := by
      cases hread with
      | name h => cases h
      | dict hkeys hnames hvalues =>
        refine .dict ?_ (fun e he => hnames e (hsub he)) fun e he => hvalues e (hsub he)
        exact List.Pairwise.sublist (List.filter_sublist.map Prod.fst) hkeys
    obtain ⟨hplain, hlisted⟩ := hfields.plain hexact
    refine ⟨⟨hplain, fun hkey => ?_⟩, ?_⟩
    · obtain ⟨e, he, hkey⟩ := List.mem_map.mp hkey
      have hother := (List.mem_filter.mp he).2
      simp [hkey, kindKey] at hother
    · rw [listed]
      rw [Value.listed] at hlisted
      rw [Value.dict.inj hlisted]
  · cases h

theorem isPlain_of_ofJson {t : String} {m : Message} (h : ofJson t = .ok m)
    (hexact : (Value.dict m.fields).isExact = true) : m.IsPlain ∧ m.listed = m := by
  obtain ⟨v, hread, h⟩ := Json.exists_ok_of_bind h
  exact isPlain_of_ofValue (Json.isRead_of_read hread) h hexact

end Message

/-- Plain messages survive the wire as far as calls may nest. If the data of one is nested no deeper,
what is written for it is printable ASCII without line breaks, and read as the same kind of message
with the same data under the same names in the same order, tuples being read as lists; and if it is
nested deeper, nothing is written, and the fault tells of the nesting. A text that is read as a message
without torn text and without numbers that are no integers may be spelled in any way: what is written
for the message, if it is not nested deeper, is read as the message, and written for what is read. -/
theorem plain_messages_survive (room : Nat) :
    (∀ m : Message, m.IsPlain →
      (m.calls ≤ room → ∃ s, m.toJson room = .ok s ∧ (∀ c ∈ s.toList, Json.IsPrinted c) ∧
        Message.ofJson s = .ok m.listed) ∧
      (room < m.calls → ∃ fault, m.toJson room = .error fault ∧ fault.kind = .recursion)) ∧
    (∀ (t : String) (m : Message), Message.ofJson t = .ok m →
      (Value.dict m.fields).isExact = true → m.calls ≤ room →
        ∃ s, m.toJson room = .ok s ∧ Message.ofJson s = .ok m ∧
          (Message.ofJson s >>= Message.toJson room) = .ok s) := by
  refine ⟨fun m h => ⟨fun hroom => ?_, fun hroom => ?_⟩, fun t m hread hexact hroom => ?_⟩
  · obtain ⟨s, hs, hback⟩ := h.survives hroom
    exact ⟨s, hs, Json.write_printed hs, hback⟩
  · exact Message.toJson_of_lt h.fieldsComeBack h.distinct_members hroom
  · obtain ⟨hplain, hlisted⟩ := Message.isPlain_of_ofJson hread hexact
    obtain ⟨s, hs, hback⟩ := hplain.survives hroom
    rw [hlisted] at hback
    exact ⟨s, hs, hback, by rw [hback]; exact hs⟩

namespace Message

/-- A call with a tuple, a line break and an empty name. -/
def nestedCall : Message :=
  ⟨.call, [(.text "a\n\"", .tuple [.int (-3), .none]), (.text "", .dict [(.text "b", .bool true)])]⟩

theorem isPlain_nestedCall : nestedCall.IsPlain := by
  have hint : ((-3 : Int).natAbs) < 10 ^ digitLimit :=
    calc (-3 : Int).natAbs < 10 ^ 1 := by decide
      _ ≤ 10 ^ digitLimit := Nat.pow_le_pow_right (by decide) (by decide)
  have htuple : (Value.tuple [.int (-3), .none]).IsPlain := by
    refine .tuple (List.forall_mem_cons.mpr ⟨.int hint, ?_⟩)
    simpa using Value.IsPlain.none
  have hdict : (Value.dict [(.text "b", .bool true)]).IsPlain :=
    .dict (by simp [Entries.Distinct, Entries.keys]) (by simp) (by simpa using Value.IsPlain.bool true)
  refine ⟨.dict ?_ ?_ ?_, ?_⟩
  · simp [nestedCall, Entries.Distinct, Entries.keys]
  · simp [nestedCall]
  · simpa [nestedCall] using ⟨htuple, hdict⟩
  · simp [nestedCall, kindKey, Entries.keys]

/-- A keep-alive with blanks, an escaped name and a name that comes twice. -/
def respelledPing : String :=
  "\x7b \"b\":[1,2], \"type\" : \"ping\",\n\"\\u0062\":null\x7d"

end Message

theorem plain_messages_survive_samples :
    (∃ s, Message.nestedCall.toJson Room.standard.calls = .ok s ∧
      (∀ c ∈ s.toList, Json.IsPrinted c) ∧ Message.ofJson s = .ok Message.nestedCall.listed) ∧
    (∃ fault, Message.nestedCall.toJson 6 = .error fault ∧ fault.kind = .recursion) ∧
    ∃ m s, Message.ofJson Message.respelledPing = .ok m ∧ m.toJson Room.standard.calls = .ok s ∧
      Message.ofJson s = .ok m ∧ (Message.ofJson s >>= Message.toJson Room.standard.calls) = .ok s := by
  have hread : (Message.ofJson Message.respelledPing).toOption.any
      (fun m => (Value.dict m.fields).isExact && m.calls ≤ Room.standard.calls) = true := by
    decide +kernel
  obtain ⟨m, hread, hfits⟩ := Json.exists_ok_of_any hread
  obtain ⟨hexact, hcalls⟩ := Bool.and_eq_true_iff.mp hfits
  have hnested := (plain_messages_survive Room.standard.calls).1 _ Message.isPlain_nestedCall
  have hdeep := (plain_messages_survive 6).1 _ Message.isPlain_nestedCall
  obtain ⟨s, h⟩ := (plain_messages_survive _).2 _ m hread hexact (of_decide_eq_true hcalls)
  exact ⟨hnested.1 (by decide), hdeep.2 (by decide), m, s, hread, h⟩

/-- A message that holds an empty list in so many lists. -/
def Message.wrapped (n : Nat) : Message :=
  ⟨.msg, [(.text "a", .wrapped n)]⟩

theorem Message.isPlain_wrapped (n : Nat) : (wrapped n).IsPlain := by
  refine ⟨.dict ?_ ?_ ?_, ?_⟩
  · simp [wrapped, Entries.Distinct, Entries.keys]
  · simp [wrapped]
  · simpa [wrapped] using Value.IsPlain.wrapped n
  · simp [wrapped, kindKey, Entries.keys]

theorem Message.toJson_wrapped {n room : Nat} (h : room < n + 7) :
    ∃ fault, (wrapped n).toJson room = .error fault ∧ fault.kind = .recursion := by
  have hplain := isPlain_wrapped n
  refine toJson_of_lt hplain.fieldsComeBack hplain.distinct_members ?_
  simpa [calls, wrapped, Value.depth, Value.entriesDepth, writingCalls] using h

/-- Plain data may be nested too deeply for the room there is by default. -/
theorem plain_messages_fail_wrapped :
    (Message.wrapped 20000).IsPlain ∧
      ∃ fault, (Message.wrapped 20000).toJson Room.standard.calls = .error fault ∧
        fault.kind = .recursion :=
  ⟨Message.isPlain_wrapped 20000, Message.toJson_wrapped (by decide)⟩

example : (Message.ofJson Message.respelledPing >>= Message.toJson Room.standard.calls).toOption =
    some "\x7b\"type\": \"ping\", \"b\": null\x7d" := by
  decide +kernel

end PlotStream
