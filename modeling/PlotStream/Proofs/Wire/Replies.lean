import PlotStream.Proofs.Json.Documents
import PlotStream.Proofs.Session.Runs
import PlotStream.Proofs.Wire.PlainMessages

/-!
# Every text has its answer

A text is a message if it is a JSON object whose last member of the name `type` names a kind of
message, or if it is one without such a member (`NamesKind`); this is said in terms of the grammar.
Only a keep-alive among the messages is answered. Every other text is answered by a report, and so the
reader of messages is never stopped by a text (`every_text_answered`).
-/

namespace PlotStream

/-! ## Members by name -/

namespace Value

theorem codes?_ofCodes (codes : List Nat) : (ofCodes codes).codes? = some codes := by
  rw [ofCodes]
  split
  · rename_i hvalid
    have hback : ∀ c ∈ codes, (Char.ofNat c).toNat = c := by
      intro c hc
      have hvalid : c.isValidChar := by simpa using List.all_eq_true.mp hvalid c hc
      rw [Char.ofNat, dif_pos hvalid]
      rfl
    simp only [codes?, String.toList_ofList, List.map_map]
    exact congrArg some ((List.map_congr_left hback).trans (List.map_id codes))
  · rfl

/-- Names of members are equal as keys if they have the same code points. -/
theorem keyEqual_ofCodes (a b : List Nat) : (ofCodes a).keyEqual (ofCodes b) = decide (a = b) := by
  have hnumber (codes : List Nat) : (ofCodes codes).number? = Option.none := by
    rw [ofCodes]
    split <;> rfl
  have hatom : (ofCodes a).keyEqual (ofCodes b) = (ofCodes a).atomEqual (ofCodes b) := by
    rw [ofCodes, ofCodes]
    split <;> split <;> rw [keyEqual] <;> simp
  rw [hatom, atomEqual, hnumber, codes?_ofCodes, codes?_ofCodes]
  exact Bool.beq_eq_decide_eq a b

end Value

namespace Entries

variable {α : Type}

theorem get?_cons (e : Value × α) (es : Entries α) (key : Value) :
    get? (e :: es) key = if e.1.keyEqual key then some e.2 else get? es key := by
  unfold get?
  rw [List.find?_cons]
  cases e.1.keyEqual key <;> rfl

/-- What is put in is found under its name, and nothing else has another value than before. -/
theorem get?_insert_ofCodes {es : Entries α} (h : ∀ e ∈ es, ∃ c, e.1 = Value.ofCodes c)
    (c name : List Nat) (x : α) :
    get? (insert es (.ofCodes c) x) (.ofCodes name) =
      if c = name then some x else get? es (.ofCodes name) := by
  induction es with
  | nil => simp [insert, get?_cons, Value.keyEqual_ofCodes]
  | cons e es ih =>
    obtain ⟨⟨d, hd⟩, hes⟩ := List.forall_mem_cons.mp h
    rw [insert, hd, Value.keyEqual_ofCodes]
    by_cases hdc : d = c
    · simp only [hdc, decide_true, if_true, get?_cons, hd, Value.keyEqual_ofCodes, decide_eq_true_eq]
      split <;> rfl
    · simp only [hdc, decide_false, Bool.false_eq_true, if_false, get?_cons, hd,
        Value.keyEqual_ofCodes, decide_eq_true_eq, ih hes]
      by_cases hdn : d = name
      · have hcn : c ≠ name := fun hcn => hdc (hdn.trans hcn.symm)
        simp only [hdn, if_true, hcn, if_false]
      · simp only [hdn, if_false]

end Entries

namespace Json

/-- The value of the last member of a name. -/
def lastNamed (name : String) (members : List Member) : Option Value :=
  ((members.filter fun m => m.name = Text.codes name).getLast?).map Member.value

theorem lastNamed_append_singleton (name : String) (members : List Member) (m : Member) :
    lastNamed name (members ++ [m]) =
      if m.name = Text.codes name then some m.value else lastNamed name members := by
  by_cases hm : m.name = Text.codes name <;> simp [lastNamed, hm]

/-- The dictionary of an object holds the last member of every name. -/
theorem get?_ofList_members (name : String) (members : List Member) :
    Entries.get? (Entries.ofList (members.map Member.entry)) (.text name) =
      lastNamed name members := by
  induction members using List.reverseRecOn with
  | nil => rfl
  | append_singleton members m ih =>
    have hnames : ∀ e ∈ Entries.ofList (members.map Member.entry), ∃ c, e.1 = Value.ofCodes c := by
      have hall : ∀ e ∈ members.map Member.entry, (∃ c, e.1 = Value.ofCodes c) ∧ True := by
        intro e he
        obtain ⟨m, -, rfl⟩ := List.mem_map.mp he
        exact ⟨⟨m.name, rfl⟩, trivial⟩
      exact fun e he => (Entries.forall_mem_ofList (P := fun key => ∃ c, key = Value.ofCodes c)
        (Q := fun _ => True) hall e he).1
    have hinsert : Entries.ofList ((members ++ [m]).map Member.entry) =
        Entries.insert (Entries.ofList (members.map Member.entry)) (.ofCodes m.name) m.value := by
      simp [Entries.ofList, Member.entry]
    rw [lastNamed_append_singleton, hinsert, ← ih, ← ofCodes_codes,
      Entries.get?_insert_ofCodes hnames]

end Json

/-! ## The kind of a message -/

/-- A text that is a JSON object, with the kind that its last member called `type` names, or none if it
has no such member. -/
def NamesKind (text : String) (named : Option MessageKind) : Prop :=
  ∃ members, Json.IsObject text.toList members ∧
    Json.lastNamed "type" members = named.map fun kind => .text kind.name

namespace Message

theorem eq_name_of_ofName? {s : String} {kind : MessageKind}
    (h : MessageKind.ofName? s = some kind) : s = kind.name := by
  have hname := List.find?_some h
  exact (of_decide_eq_true hname).symm

/-- A value that names no kind of message is refused. -/
theorem exists_fault_of_kindOf {v : Value} (h : ∀ kind : MessageKind, v ≠ .text kind.name) :
    ∃ fault, kindOf v = .error fault := by
  unfold kindOf
  split
  · rename_i s
    cases hs : MessageKind.ofName? s with
    | none => exact ⟨_, rfl⟩
    | some kind => exact absurd (congrArg Value.text (eq_name_of_ofName? hs)) (h kind)
  · cases v.repr with
    | error fault => exact ⟨fault, rfl⟩
    | ok shown => exact ⟨_, rfl⟩

theorem ofJson_of_isObject {text : String} {members : List Json.Member}
    (h : Json.IsObject text.toList members) : ∃ fields, ofJson text = do
      return ⟨← kindOf ((Json.lastNamed "type" members).getD (.text MessageKind.error.name)), fields⟩ := by
  have hread := Json.read_eq_ok_iff.mpr h.denotes
  let entries := Entries.ofList (members.map Json.Member.entry)
  refine ⟨entries.filter fun e => !e.1.keyEqual kindKey, ?_⟩
  rw [ofJson, hread, ← Json.get?_ofList_members]
  rfl

/-- A text that is a message is read as one of its kind. -/
theorem exists_ofJson_of_namesKind {text : String} {named : Option MessageKind}
    (h : NamesKind text named) :
    ∃ m, ofJson text = .ok m ∧ m.kind = named.getD .error := by
  obtain ⟨members, hobject, hlast⟩ := h
  obtain ⟨fields, hjson⟩ := ofJson_of_isObject hobject
  cases named with
  | none =>
    rw [hlast, Option.map_none, Option.getD_none, kindOf_name] at hjson
    exact ⟨_, hjson, rfl⟩
  | some kind =>
    rw [hlast, Option.map_some, Option.getD_some, kindOf_name] at hjson
    exact ⟨_, hjson, rfl⟩

/-- A text that is no message is refused. -/
theorem exists_fault_of_not_namesKind {text : String} (h : ∀ named, ¬ NamesKind text named) :
    ∃ fault, ofJson text = .error fault := by
  cases hread : Json.read text with
  | error fault => exact ⟨fault, by rw [ofJson, hread]; rfl⟩
  | ok v =>
    cases v with
    | dict entries =>
      obtain ⟨members, hobject, -⟩ := (Json.read_eq_ok_iff.mp hread).exists_members rfl
      obtain ⟨fields, hjson⟩ := ofJson_of_isObject hobject
      cases hlast : Json.lastNamed "type" members with
      | none => exact absurd ⟨members, hobject, hlast⟩ (h none)
      | some v =>
        have hkind : ∀ kind : MessageKind, v ≠ .text kind.name := by
          rintro kind rfl
          exact h (some kind) ⟨members, hobject, hlast⟩
        obtain ⟨fault, hfault⟩ := exists_fault_of_kindOf hkind
        rw [hlast, Option.getD_some, hfault] at hjson
        exact ⟨fault, hjson⟩
    | _ => exact ⟨.messageNotObject, by rw [ofJson, hread]; rfl⟩

end Message

/-! ## The faults of reading -/

theorem exists_integerText {n : Int} (h : n.natAbs < 10 ^ digitLimit) :
    ∃ s, integerText n = .ok s := by
  rw [integerText, Nat.pow_eq, if_neg (Nat.not_le.mpr h)]
  exact ⟨_, rfl⟩

namespace Value

theorem IsMemberName.exists_repr {v : Value} (h : v.IsMemberName) : ∃ s, v.repr = .ok s := by
  cases h with
  | text s => exact ⟨_, rfl⟩
  | torn codes => exact ⟨_, rfl⟩

theorem exists_reprAll {vs : List Value} (h : ∀ v ∈ vs, ∃ s, v.repr = .ok s) :
    ∃ parts, reprAll vs = .ok parts := by
  induction vs with
  | nil => exact ⟨[], rfl⟩
  | cons v vs ih =>
    obtain ⟨⟨s, hs⟩, hvs⟩ := List.forall_mem_cons.mp h
    obtain ⟨parts, hparts⟩ := ih hvs
    exact ⟨s :: parts, by rw [reprAll, hs, hparts]; rfl⟩

theorem exists_reprEntries {es : Entries Value} (hnames : ∀ e ∈ es, e.1.IsMemberName)
    (h : ∀ e ∈ es, ∃ s, e.2.repr = .ok s) : ∃ parts, reprEntries es = .ok parts := by
  induction es with
  | nil => exact ⟨[], rfl⟩
  | cons e es ih =>
    obtain ⟨hname, hnames⟩ := List.forall_mem_cons.mp hnames
    obtain ⟨name, hname⟩ := hname.exists_repr
    obtain ⟨⟨s, hs⟩, hes⟩ := List.forall_mem_cons.mp h
    obtain ⟨parts, hparts⟩ := ih hnames hes
    exact ⟨_ :: parts, by rw [reprEntries, hname, hs, hparts]; rfl⟩

/-- Whatever has been read can be shown. -/
theorem IsRead.exists_repr {v : Value} (h : v.IsRead) : ∃ s, v.repr = .ok s := by
  induction h with
  | none | bool b | float x => exact ⟨_, rfl⟩
  | @int n h =>
    have hrepr : (Value.int n).repr = integerText n := by simp only [repr, atomText]
    rw [hrepr]
    exact exists_integerText h
  | name h => exact h.exists_repr
  | list _ ih =>
    obtain ⟨parts, hparts⟩ := exists_reprAll ih
    exact ⟨_, by rw [repr, hparts]; rfl⟩
  | dict _ hnames _ ih =>
    obtain ⟨parts, hparts⟩ := exists_reprEntries hnames ih
    exact ⟨_, by rw [repr, hparts]; rfl⟩

end Value

namespace Message

/-- A value under the name `type` is read like any other. -/
theorem isRead_kind {entries : Entries Value} (h : (Value.dict entries).IsRead) :
    ((Entries.get? entries kindKey).getD (.text MessageKind.error.name)).IsRead := by
  cases hget : Entries.get? entries kindKey with
  | none => exact .name (.text _)
  | some v =>
    obtain ⟨e, hfind, rfl⟩ := Option.map_eq_some_iff.mp hget
    cases h with
    | name h => cases h
    | dict _ _ hvalues => exact hvalues e (List.mem_of_find?_eq_some hfind)

theorem kind_of_kindOf {v : Value} (hread : v.IsRead) {fault : Fault}
    (h : kindOf v = .error fault) : fault.kind = .value := by
  unfold kindOf at h
  split at h
  · split at h
    · cases h
    · obtain rfl := Except.error.inj h
      rfl
  · obtain ⟨shown, hshown⟩ := hread.exists_repr
    rw [hshown] at h
    obtain rfl := Except.error.inj h
    rfl

/-- A text is no message because it is no JSON or because it holds a wrong value. -/
theorem kind_of_ofJson {text : String} {fault : Fault} (h : ofJson text = .error fault) :
    fault.kind = .json ∨ fault.kind = .value := by
  rw [ofJson] at h
  cases hread : Json.read text with
  | error e =>
    rw [hread] at h
    obtain rfl : e = fault := Except.error.inj h
    rw [Json.read] at hread
    cases hdocument : Json.readDocument text.toList with
    | ok v =>
      rw [hdocument] at hread
      cases hread
    | error defect =>
      rw [hdocument] at hread
      obtain rfl := Except.error.inj hread
      cases defect with
      | malformed => exact .inl rfl
      | tooManyDigits => exact .inr rfl
  | ok v =>
    have hv := Json.isRead_of_read hread
    rw [hread] at h
    change ofValue v = .error fault at h
    unfold ofValue at h
    split at h
    · rename_i entries
      cases hkind : kindOf ((Entries.get? entries kindKey).getD (.text MessageKind.error.name)) with
      | ok kind =>
        rw [hkind] at h
        cases h
      | error e =>
        rw [hkind] at h
        obtain rfl : e = fault := Except.error.inj h
        exact .inr (kind_of_kindOf (isRead_kind hv) hkind)
    · obtain rfl := Except.error.inj h
      exact .inr rfl

/-- Whatever answers a text can be written as JSON. -/
theorem exists_toJson_of_reply {time text : String} {m : Message} (h : reply time text = some m)
    (room : Room) : ∃ json, m.toJson room.calls = .ok json := by
  unfold reply at h
  split at h
  · obtain rfl := Option.some.inj h
    exact exists_toJson_of_text room (by decide)
  · obtain ⟨-, h⟩ := Option.ite_none_right_eq_some.mp h
    obtain rfl := Option.some.inj h
    exact exists_toJson_of_text room (by decide)

theorem reply_of_namesKind {text : String} {named : Option MessageKind} (h : NamesKind text named)
    (time : String) : reply time text = if named = some .ping then some (pong time) else none := by
  obtain ⟨m, hjson, hkind⟩ := exists_ofJson_of_namesKind h
  rw [reply, hjson]
  cases named with
  | none => simp [hkind]
  | some kind => simp [hkind]

theorem exists_report_of_not_namesKind {text : String} (h : ∀ named, ¬ NamesKind text named) :
    ∃ report, ∀ time,
      reply time text = some (failure ("Invalid message format: " ++ report)) := by
  obtain ⟨fault, hfault⟩ := exists_fault_of_not_namesKind h
  exact ⟨fault.message, fun time => by rw [reply, hfault]⟩

end Message

/-! ## Answers -/

/-- How a task ends that answers a text: with nothing, or with a message as JSON. -/
def AnswersWith (room : Room) (answer : Option Message) (outcome : Except Fault TaskResult) : Prop :=
  match answer with
  | none => outcome = .ok (.reply none)
  | some m => ∃ json, m.toJson room.calls = .ok json ∧ outcome = .ok (.reply (some json))

/-- Answering a text neither waits nor fails, and may only look at the clock. -/
theorem Hub.handle_answers (h : Hub) (text : String) :
    ∃ outcome readings, h.handle text = (.ends outcome, { h with clockReadings := readings }) ∧
      AnswersWith h.world.room (Message.reply (h.world.clock h.clockReadings) text) outcome := by
  cases hreply : Message.reply (h.world.clock h.clockReadings) text with
  | none => exact ⟨_, h.clockReadings, by rw [handle, replyFrame, hreply], rfl⟩
  | some m =>
    obtain ⟨json, hjson⟩ := Message.exists_toJson_of_reply hreply h.world.room
    have hframe : h.replyFrame text =
        (some (.ok (.text json)), if m.kind = .pong then h.readClock.2 else h) := by
      rw [replyFrame, hreply]
      simp only [hjson]
      rfl
    by_cases hkind : m.kind = .pong
    · rw [if_pos hkind] at hframe
      exact ⟨_, h.clockReadings + 1, by rw [handle, hframe]; rfl, json, hjson, rfl⟩
    · rw [if_neg hkind] at hframe
      exact ⟨_, h.clockReadings, by rw [handle, hframe], json, hjson, rfl⟩

/-- Every text has its answer, whatever the state of the session. A message is answered with the time
if it is a keep-alive and not at all otherwise. A text that is no message is answered with a report,
which can be written, and what is wrong with it is that it is no JSON or holds a wrong value, nothing
else. In any case the answer is given at once, and nothing but the clock has been looked at. -/
theorem every_text_answered (h : Hub) (text : String) :
    (∀ named, NamesKind text named → ∀ time, Message.reply time text =
      if named = some .ping then some (Message.pong time) else none) ∧
    ((∀ named, ¬ NamesKind text named) → ∃ report json, (∀ time, Message.reply time text =
        some (Message.failure ("Invalid message format: " ++ report))) ∧
      (Message.failure ("Invalid message format: " ++ report)).toJson h.world.room.calls = .ok json) ∧
    (∀ fault, Message.ofJson text = .error fault → fault.kind = .json ∨ fault.kind = .value) ∧
    ∃ outcome readings, h.handle text = (.ends outcome, { h with clockReadings := readings }) ∧
      AnswersWith h.world.room (Message.reply (h.world.clock h.clockReadings) text) outcome := by
  refine ⟨fun named hnamed => Message.reply_of_namesKind hnamed, fun hnone => ?_,
    fun fault => Message.kind_of_ofJson, h.handle_answers text⟩
  obtain ⟨report, hreply⟩ := Message.exists_report_of_not_namesKind hnone
  obtain ⟨json, hjson⟩ := Message.exists_toJson_of_reply (hreply "") h.world.room
  exact ⟨report, json, hreply, hjson⟩

/-- A keep-alive whose kind comes second and in escapes. -/
def respelledKeepAlive : String :=
  "\x7b\"type\": 5, \"ty\\u0070e\" :\"ping\"\x7d"

/-- Characters that stand for themselves in a string. -/
theorem Json.spells_codes {cs : List Char}
    (h : ∀ c ∈ cs, c ≠ '"' ∧ c ≠ '\\' ∧ 0x20 ≤ c.toNat) : Spells cs (cs.map Char.toNat) := by
  induction cs with
  | nil => exact .nil
  | cons c cs ih =>
    obtain ⟨⟨hq, hb, hc⟩, hcs⟩ := List.forall_mem_cons.mp h
    exact .plain hq hb hc (ih hcs)

theorem namesKind_respelledKeepAlive : NamesKind respelledKeepAlive (some .ping) := by
  let first : Json.Member :=
    ⟨['"', 't', 'y', 'p', 'e', '"'], [116, 121, 112, 101], [' ', '5'], .int 5⟩
  let second : Json.Member :=
    ⟨[' ', '"', 't', 'y', '\\', 'u', '0', '0', '7', '0', 'e', '"', ' '], [116, 121, 112, 101],
      ['"', 'p', 'i', 'n', 'g', '"'], .text "ping"⟩
  have hfirst : first.IsNamed ∧ Json.Denotes first.valueText first.value := by
    refine ⟨⟨[], ['t', 'y', 'p', 'e'], [], by simp [Json.AreBlank], ?_, by simp [Json.AreBlank], rfl⟩,
      .blankBefore rfl ?_⟩
    · exact Json.spells_codes (by simp)
    · exact @Json.Denotes.number false ['5'] (.int 5) (.integer (Json.isWhole_toDigits 5) (by decide))
  have hsecond : second.IsNamed ∧ Json.Denotes second.valueText second.value := by
    have hblank : Json.AreBlank [' '] := by simp [Json.AreBlank, Json.isBlank]
    have hescape : Json.Spells ['\\', 'u', '0', '0', '7', '0', 'e'] [112, 101] :=
      .unit ⟨'0', '0', '7', '0', rfl, by decide⟩ (fun hjoins => absurd hjoins.1 (by decide))
        (Json.spells_codes (by simp))
    refine ⟨⟨[' '], ['t', 'y', '\\', 'u', '0', '0', '7', '0', 'e'], [' '], hblank, ?_, hblank, rfl⟩, ?_⟩
    · exact .plain (by decide) (by decide) (by decide)
        (.plain (by decide) (by decide) (by decide) hescape)
    · exact @Json.Denotes.string ['p', 'i', 'n', 'g'] [112, 105, 110, 103] (Json.spells_codes (by simp))
  refine ⟨[first, second], ?_, rfl⟩
  exact @Json.IsObject.members [first, second] (by simp) (by simp [hfirst.1, hsecond.1])
    (by simp [hfirst.2, hsecond.2])

theorem not_namesKind_unfinished (named : Option MessageKind) : ¬ NamesKind "[1" named := by
  intro h
  obtain ⟨m, hjson, -⟩ := Message.exists_ofJson_of_namesKind h
  have hnone : (Message.ofJson "[1").toOption.isSome = false := by decide +kernel
  rw [hjson] at hnone
  cases hnone

theorem every_text_answered_samples :
    (∀ time, Message.reply time respelledKeepAlive = some (Message.pong time)) ∧
    ∃ report json, (∀ time, Message.reply time "[1" =
        some (Message.failure ("Invalid message format: " ++ report))) ∧
      (Message.failure ("Invalid message format: " ++ report)).toJson Room.standard.calls = .ok json :=
  ⟨fun time => (every_text_answered (Hub.initial World.ideal) respelledKeepAlive).1 _
      namesKind_respelledKeepAlive time,
    (every_text_answered (Hub.initial World.ideal) "[1").2.1 not_namesKind_unfinished⟩

example : (Message.reply "now" "\x7b\"type\": [1, null]\x7d").map (fun m => (m.toJson 1000).toOption) =
    some (some ("\x7b\"type\": \"error\", " ++
      "\"error\": \"Invalid message format: [1, None] is not a valid MessageType\"\x7d")) := by
  decide +kernel

end PlotStream
