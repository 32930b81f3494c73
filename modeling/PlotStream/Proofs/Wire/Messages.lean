import PlotStream.Message
import PlotStream.Proofs.Json.RoundTrip

/-!
# Messages survive the wire

A message whose fields have distinct names of text, none of them the one that holds the kind, is
written and read back as the same kind with the same fields in the same order. Each field comes back
as its value does.
-/

namespace PlotStream

/-! ## Names of text as keys -/

@[simp] theorem Value.keyEqual_text (a b : String) :
    (Value.text a).keyEqual (.text b) = decide (a = b) := by
  have hinj : ((a.toList.map Char.toNat) == (b.toList.map Char.toNat)) = decide (a = b) := by
    rw [Bool.eq_iff_iff, beq_iff_eq, decide_eq_true_iff]
    constructor
    · intro h
      have hlist := List.map_injective_iff.mpr (fun c d => Char.toNat_inj.mp) h
      exact String.toList_inj.mp hlist
    · rintro rfl
      rfl
  simpa [Value.keyEqual, Value.atomEqual, Value.number?, Value.real?, Value.codes?] using hinj

namespace Entries

variable {α : Type}

/-- No two entries have the same key. -/
def Distinct (es : Entries α) : Prop :=
  es.keys.Pairwise fun a b => a.keyEqual b = false

/-- A key that is not present goes to the end. -/
theorem insert_of_fresh {es : Entries α} {key : Value} (h : ∀ k ∈ es.keys, k.keyEqual key = false)
    (x : α) : insert es key x = es ++ [(key, x)] := by
  induction es with
  | nil => rfl
  | cons e es ih =>
    rw [insert, h e.1 (by simp [keys]), ih fun k hk => h k (List.mem_cons_of_mem _ hk)]
    rfl

theorem foldl_insert_of_distinct {acc es : Entries α} (h : Distinct (acc ++ es)) :
    es.foldl (fun es e => insert es e.1 e.2) acc = acc ++ es := by
  induction es generalizing acc with
  | nil => simp
  | cons e es ih =>
    have hfresh : ∀ k ∈ acc.keys, k.keyEqual e.1 = false := by
      intro k hk
      rw [Distinct, keys, List.map_append] at h
      exact (List.pairwise_append.mp h).2.2 k hk e.1 (by simp)
    rw [List.foldl_cons, insert_of_fresh hfresh, ih (by simpa using h)]
    simp

theorem ofList_of_distinct {es : Entries α} (h : Distinct es) : ofList es = es := by
  rw [ofList, foldl_insert_of_distinct (by simpa using h)]
  rfl

end Entries

theorem Json.keys_comesBack {how : Scalars} {es ms : Entries Value}
    (h : List.Forall₂ (MemberComesBack how) es ms) :
    ms.keys = es.keys ∧ ∀ k ∈ es.keys, ∃ name, k = .text name := by
  induction h with
  | nil => simp [Entries.keys]
  | cons he _ ih =>
    obtain ⟨name, -⟩ := he
    obtain ⟨hkeys, htext⟩ := ih
    refine ⟨congrArg (Value.text name :: ·) hkeys, ?_⟩
    intro k hk
    rcases List.mem_cons.mp hk with rfl | hk
    · exact ⟨name, rfl⟩
    · exact htext k hk

/-! ## Reading back a message -/

namespace Message

theorem ofName?_name (kind : MessageKind) : MessageKind.ofName? kind.name = some kind := by
  cases kind <;> decide

theorem kindOf_name (kind : MessageKind) : kindOf (.text kind.name) = .ok kind := by
  rw [kindOf, ofName?_name]

/-- The fields of a message with its kind in front. -/
def members (m : Message) : Entries Value :=
  (kindKey, .text m.kind.name) :: m.fields

theorem toValue_of_distinct {m : Message} (h : Entries.Distinct m.members) :
    m.toValue = .dict m.members :=
  congrArg Value.dict (Entries.foldl_insert_of_distinct h)

theorem ofValue_members {m : Message} (h : Entries.Distinct m.members)
    (hnames : ∀ k ∈ m.fields.keys, ∃ name, k = .text name) : ofValue (.dict m.members) = .ok m := by
  have hothers : ∀ e ∈ m.fields, e.1.keyEqual kindKey = false := by
    intro e he
    have hk : e.1 ∈ m.fields.keys := List.mem_map_of_mem he
    obtain ⟨name, hname⟩ := hnames _ hk
    have hne := (List.pairwise_cons.mp h).1 _ hk
    rw [hname, kindKey, Value.keyEqual_text] at hne ⊢
    simpa [eq_comm] using hne
  have hfilter : m.members.filter (fun e => !e.1.keyEqual kindKey) = m.fields := by
    rw [members, List.filter_cons_of_neg (by simp [kindKey])]
    exact List.filter_eq_self.mpr fun e he => by simp [hothers e he]
  have hkind : Entries.get? m.members kindKey = some (.text m.kind.name) := by
    simp [Entries.get?, members, kindKey]
  rw [ofValue, hkind, Option.getD_some, kindOf_name, hfilter]
  rfl

/-- The calls that nest inside of one another where a message is written. -/
def calls (m : Message) : Nat :=
  (Value.dict m.fields).depth + writingCalls

theorem depth_toValue {m : Message} (h : Entries.Distinct m.members) :
    m.toValue.depth = (Value.dict m.fields).depth := by
  simp [toValue_of_distinct h, members, Value.depth, Value.entriesDepth]

/-- A message comes back if each of its fields does. -/
theorem comesBack_toValue {m : Message} {fields : Entries Value}
    (hfields : List.Forall₂ (Json.MemberComesBack .refuse) m.fields fields)
    (h : Entries.Distinct m.members) :
    ∃ v, Json.ComesBack .refuse m.toValue v ∧ ofValue v = .ok ⟨m.kind, fields⟩ := by
  obtain ⟨hkeys, hnames⟩ := Json.keys_comesBack hfields
  let m' : Message := ⟨m.kind, fields⟩
  have h' : Entries.Distinct m'.members := by
    have hsame : m'.members.keys = m.members.keys := congrArg (kindKey :: ·) hkeys
    rw [Entries.Distinct, hsame]
    exact h
  refine ⟨.dict m'.members, ?_, ofValue_members h' (hkeys ▸ hnames)⟩
  rw [toValue_of_distinct h, ← Entries.ofList_of_distinct h']
  exact Json.comesBack_dict (.cons (.intro _ (Json.comesBack_text _)) hfields)

/-- What is written for a message is read as the same message. -/
theorem ofJson_of_toJson {m : Message} {fields : Entries Value}
    (hfields : List.Forall₂ (Json.MemberComesBack .refuse) m.fields fields)
    (h : Entries.Distinct m.members) {room : Nat} {s : String} (hs : m.toJson room = .ok s) :
    ofJson s = .ok ⟨m.kind, fields⟩ := by
  obtain ⟨v, hback, hvalue⟩ := comesBack_toValue hfields h
  rw [ofJson, hback.read_of_write hs]
  exact hvalue

/-- A message is written wherever there is room for it, and nowhere else. -/
theorem exists_toJson {m : Message} {fields : Entries Value}
    (hfields : List.Forall₂ (Json.MemberComesBack .refuse) m.fields fields)
    (h : Entries.Distinct m.members) {room : Nat} (hroom : m.calls ≤ room) :
    ∃ s, m.toJson room = .ok s := by
  obtain ⟨v, hback, -⟩ := comesBack_toValue hfields h
  rw [calls, ← depth_toValue h] at hroom
  obtain ⟨s, hs, -⟩ := hback.read_write hroom
  exact ⟨s, hs⟩

theorem toJson_of_lt {m : Message} {fields : Entries Value}
    (hfields : List.Forall₂ (Json.MemberComesBack .refuse) m.fields fields)
    (h : Entries.Distinct m.members) {room : Nat} (hroom : room < m.calls) :
    ∃ fault, m.toJson room = .error fault ∧ fault.kind = .recursion := by
  obtain ⟨v, hback, -⟩ := comesBack_toValue hfields h
  rw [calls, ← depth_toValue h] at hroom
  exact hback.write_of_lt hroom

section Text

variable {kind : MessageKind} {name text : String}

theorem fieldComesBack_text : List.Forall₂ (Json.MemberComesBack .refuse)
    [(.text name, .text text)] [(.text name, .text text)] :=
  .cons (.intro name (Json.comesBack_text text)) .nil

theorem distinct_members_text (hname : name ≠ "type") :
    Entries.Distinct (members ⟨kind, [(.text name, .text text)]⟩) := by
  simpa [Entries.Distinct, Entries.keys, members, kindKey] using hname.symm

/-- What is written for a message that holds text in one field is read as it was. -/
theorem ofJson_of_toJson_of_text {room : Nat} {s : String}
    (hs : toJson room ⟨kind, [(.text name, .text text)]⟩ = .ok s) (hname : name ≠ "type") :
    ofJson s = .ok ⟨kind, [(.text name, .text text)]⟩ :=
  ofJson_of_toJson fieldComesBack_text (distinct_members_text hname) hs

/-- A message that holds text in one field is written. -/
theorem exists_toJson_of_text (room : Room) (hname : name ≠ "type") :
    ∃ s, toJson room.calls ⟨kind, [(.text name, .text text)]⟩ = .ok s := by
  apply exists_toJson fieldComesBack_text (distinct_members_text hname)
  refine Nat.le_trans ?_ room.enough
  simp [calls, Value.depth, Value.entriesDepth, writingCalls, messageLevels]

end Text

end Message

end PlotStream
