import Mathlib.Algebra.Group.Nat.Defs
import PlotStream.Proofs.Json.Depth

/-!
# What can be written

A value is written exactly when nothing in it stands in the way, at any depth, and there is room for its
nesting (`encode_unwrap_succeeds_iff`): everything it holds is of a type that has JSON (`isEncodable`), has
an end, and is no integer with too many digits (`isModest`). A scalar or an array is as good as what it
holds.
-/

namespace PlotStream

/-! ## Success -/

/-- There is a result. -/
def Succeeds {α : Type} (x : Except Fault α) : Prop :=
  ∃ a, x = .ok a

section Succeeds

variable {α β γ : Type}

@[simp] theorem succeeds_ok (a : α) : Succeeds (.ok a) :=
  ⟨a, rfl⟩

@[simp] theorem not_succeeds_error (fault : Fault) : ¬ Succeeds (.error fault : Except Fault α) := by
  rintro ⟨a, h⟩
  cases h

@[simp] theorem succeeds_pure (a : α) : Succeeds (pure a) :=
  succeeds_ok a

@[simp] theorem not_succeeds_throw (fault : Fault) : ¬ Succeeds (throw fault : Except Fault α) :=
  not_succeeds_error fault

theorem exists_error_iff {x : Except Fault α} : (∃ fault, x = .error fault) ↔ ¬ Succeeds x := by
  cases x with
  | error fault => simp
  | ok a => simp

/-- Steps succeed one after the other. -/
theorem succeeds_bind_iff {x : Except Fault α} {f : α → Except Fault β} :
    Succeeds (x >>= f) ↔ ∃ a, x = .ok a ∧ Succeeds (f a) := by
  cases x with
  | error fault => simp [bind, Except.bind]
  | ok a => simp [bind, Except.bind]

/-- What the next step needs may not depend on what the step before gives. -/
theorem succeeds_bind_of_forall {x : Except Fault α} {f : α → Except Fault β} {p : Prop}
    (h : ∀ a, Succeeds (f a) ↔ p) : Succeeds (x >>= f) ↔ Succeeds x ∧ p := by
  rw [succeeds_bind_iff]
  constructor
  · rintro ⟨a, ha, hf⟩
    exact ⟨⟨a, ha⟩, (h a).mp hf⟩
  · rintro ⟨⟨a, ha⟩, hp⟩
    exact ⟨a, ha, (h a).mpr hp⟩

theorem succeeds_map_iff {x : Except Fault α} {f : α → β} :
    Succeeds (do return f (← x)) ↔ Succeeds x := by
  have hpure : ∀ a, Succeeds (pure (f a) : Except Fault β) ↔ True := by simp
  rw [succeeds_bind_of_forall hpure, and_true]

/-- What is made piece by piece is made if every piece is. -/
theorem succeeds_row_iff (one : α → Except Fault β) (row : List α → Except Fault γ) (put : β → γ → γ)
    {start : γ} (hnil : row [] = .ok start)
    (hcons : ∀ a as, row (a :: as) = do return put (← one a) (← row as)) {as : List α} :
    Succeeds (row as) ↔ ∀ a ∈ as, Succeeds (one a) := by
  induction as with
  | nil => simp [hnil]
  | cons a as ih =>
    rw [hcons, succeeds_bind_of_forall fun piece => succeeds_map_iff, ih, List.forall_mem_cons]

/-- What nests inside of some calls succeeds if there is room for these and for itself. -/
theorem succeeds_descend_iff {fault : Fault} {calls room depth : Nat} {inner : Nat → Except Fault α}
    {p : Prop} (h : ∀ room, Succeeds (inner room) ↔ p ∧ depth ≤ room) :
    Succeeds (descend fault calls room inner) ↔ p ∧ depth + calls ≤ room := by
  by_cases hcalls : calls ≤ room
  · rw [descend_of_le hcalls, h]
    exact and_congr_right fun _ => Nat.le_sub_iff_add_le hcalls
  · rw [descend_of_lt (Nat.not_le.mp hcalls)]
    refine iff_of_false (not_succeeds_error fault) ?_
    rintro ⟨-, hdepth⟩
    omega

end Succeeds

namespace Value

/-! ## What a value holds -/

/-- The values right inside of data: the items of lists, tuples and arrays, the item of a scalar, the
keys and the values of dictionaries. -/
def contents : Value → List Value
  | list items | tuple items | array _ _ items => items
  | dict entries => entries.flatMap fun e => [e.1, e.2]
  | scalar _ item => [item]
  | _ => []

/-- What is found in a value at any depth, the value itself included, where `inner` gives the values right
inside of one. -/
inductive Within (inner : Value → List Value) : Value → Value → Prop
  | self (v : Value) : Within inner v v
  | inside {v u d : Value} (hu : u ∈ inner v) (h : Within inner u d) : Within inner v d

section Within

variable {inner : Value → List Value} {p : Value → Prop} {v : Value}

theorem forall_within_iff :
    (∀ d, Within inner v d → p d) ↔ p v ∧ ∀ u ∈ inner v, ∀ d, Within inner u d → p d := by
  constructor
  · intro h
    exact ⟨h v (.self v), fun u hu d hd => h d (.inside hu hd)⟩
  · rintro ⟨hv, hinner⟩ d hd
    cases hd with
    | self => exact hv
    | inside hu hd => exact hinner _ hu d hd

theorem forall_within_of_nil (h : inner v = []) : (∀ d, Within inner v d → p d) ↔ p v := by
  rw [forall_within_iff, h]
  simp

end Within

/-- What is found in data, at any depth, the data itself included. -/
def Holds : Value → Value → Prop :=
  Within contents

/-- Something is true of everything that a value holds. -/
def Throughout (p : Value → Prop) (v : Value) : Prop :=
  ∀ d, v.Holds d → p d

theorem throughout_iff {p : Value → Prop} {v : Value} :
    Throughout p v ↔ p v ∧ ∀ u ∈ v.contents, Throughout p u :=
  forall_within_iff

theorem throughout_of_no_contents {p : Value → Prop} {v : Value} (h : v.contents = []) :
    Throughout p v ↔ p v :=
  forall_within_of_nil h

/-! ## What stands in the way -/

/-- Whether a value may be a key of a written dictionary: text, a number, a truth value or nothing. Of the
scalars of a kind those of text are text, and those of 64 bits with a fraction are numbers. -/
def isMemberKey : Value → Bool
  | none | bool _ | int _ | float _ | scalar .float64 (float _) => true
  | v => v.codes?.isSome

/-- Whether a value is of a type that has JSON. What it holds is not looked at, but for its keys. -/
def isEncodable : Value → Bool
  | none | bool _ | int _ | float _ | text _ | torn _ | list _ | tuple _ | cyclicList | cyclicDict
  | scalar _ _ | array _ _ _ => true
  | dict entries => entries.all fun e => e.1.isMemberKey
  | _ => false

/-- Whether a value is neither without end nor an integer with too many digits. -/
def isModest : Value → Bool
  | cyclicList | cyclicDict => false
  | int n => n.natAbs < 10 ^ digitLimit
  | _ => true

/-- Nothing stands in the way of writing a value but perhaps something that it holds. -/
def IsWritable (v : Value) : Prop :=
  v.isEncodable = true ∧ v.isModest = true

end Value

namespace Json

theorem succeeds_intJson_iff {n : Int} : Succeeds (intJson n) ↔ n.natAbs < 10 ^ digitLimit := by
  rw [intJson, succeeds_map_iff, integerText, Nat.pow_eq]
  split <;> simp <;> omega

theorem succeeds_memberName_iff {key : Value} :
    Succeeds (memberName key) ↔ key.isMemberKey = true ∧ key.isModest = true := by
  unfold memberName
  split
  · rename_i codes hcodes
    have hmodest : key.isModest = true := by
      unfold Value.codes? at hcodes
      split at hcodes <;> simp [Value.isModest] at hcodes ⊢
    have hkey : key.isMemberKey = true := by
      unfold Value.isMemberKey
      split <;> simp [hcodes]
    simp [hmodest, hkey]
  · rename_i hcodes
    split
    · simp [Value.isMemberKey, Value.isModest]
    · simp [Value.isMemberKey, Value.isModest]
    · rw [succeeds_map_iff, succeeds_intJson_iff]
      simp [Value.isMemberKey, Value.isModest]
    · simp [Value.isMemberKey, Value.isModest]
    · simp [Value.isMemberKey, Value.isModest]
    · have hkey : key.isMemberKey = false := by
        unfold Value.isMemberKey
        split <;> simp_all
      simp [hkey]

/-- A key of a written dictionary holds no more than a text or a number. -/
theorem throughout_of_isMemberKey {key : Value} (hkey : key.isMemberKey = true)
    (hmodest : key.isModest = true) : key.Throughout Value.IsWritable := by
  cases key with
  | none | bool | int | float | text | torn =>
    exact (Value.throughout_of_no_contents rfl).mpr ⟨rfl, hmodest⟩
  | scalar kind item =>
    have hitem : (∃ s, item = .text s) ∨ ∃ x, item = .float x := by
      cases kind <;> cases item <;> simp_all [Value.isMemberKey, Value.codes?]
    have hwritable : item.Throughout Value.IsWritable := by
      rcases hitem with ⟨s, rfl⟩ | ⟨x, rfl⟩ <;>
        exact (Value.throughout_of_no_contents rfl).mpr ⟨rfl, rfl⟩
    rw [Value.throughout_iff]
    exact ⟨⟨rfl, rfl⟩, by simpa [Value.contents] using hwritable⟩
  | _ => simp [Value.isMemberKey, Value.codes?] at hkey

theorem throughout_dict_iff {entries : List (Value × Value)} :
    (Value.dict entries).Throughout Value.IsWritable ↔
      ∀ e ∈ entries, Succeeds (memberName e.1) ∧ e.2.Throughout Value.IsWritable := by
  have hcontents : (∀ u ∈ (Value.dict entries).contents, u.Throughout Value.IsWritable) ↔
      ∀ e ∈ entries, e.1.Throughout Value.IsWritable ∧ e.2.Throughout Value.IsWritable := by
    simp only [Value.contents, List.forall_mem_flatMap, List.forall_mem_cons]
    simp
  rw [Value.throughout_iff, hcontents]
  simp only [succeeds_memberName_iff]
  constructor
  · rintro ⟨⟨hkeys, -⟩, hentries⟩ e he
    have hkey : e.1.isMemberKey = true := List.all_eq_true.mp hkeys e he
    exact ⟨⟨hkey, ((hentries e he).1 _ (.self _)).2⟩, (hentries e he).2⟩
  · intro h
    refine ⟨⟨List.all_eq_true.mpr fun e he => (h e he).1.1, rfl⟩, fun e he => ⟨?_, (h e he).2⟩⟩
    exact throughout_of_isMemberKey (h e he).1.1 (h e he).1.2

theorem throughout_scalar_iff {kind : ElementKind} {item : Value} :
    (Value.scalar kind item).Throughout Value.IsWritable ↔ item.Throughout Value.IsWritable := by
  rw [Value.throughout_iff]
  simp [Value.contents, Value.IsWritable, Value.isEncodable, Value.isModest]

mutual

/-- A value is written if and only if everything that it holds is writable, and there is room for it. -/
theorem encode_unwrap_succeeds_iff : ∀ (v : Value) (room : Nat),
    Succeeds (encode .unwrap room v) ↔ v.Throughout Value.IsWritable ∧ v.depth ≤ room
  | .list items | .tuple items => by
    intro room
    rw [encode, level, Value.depth, Value.throughout_iff]
    refine succeeds_descend_iff fun room => ?_
    rw [succeeds_map_iff, encodeItems_succeeds_iff items room]
    simp [Value.contents, Value.IsWritable, Value.isEncodable, Value.isModest]
  | .dict entries => by
    intro room
    rw [encode, level, Value.depth, throughout_dict_iff]
    refine succeeds_descend_iff fun room => ?_
    rw [succeeds_map_iff, encodeEntries_succeeds_iff entries room]
  | .scalar kind item => by
    intro room
    rw [throughout_scalar_iff]
    rcases scalar_cases kind item with ⟨rfl, x, rfl⟩ | ⟨width, rfl⟩ | ⟨hdepth, hencode⟩
    · rw [Value.throughout_of_no_contents rfl]
      simp [encode, Value.depth, Value.IsWritable, Value.isEncodable, Value.isModest]
    · rw [encode, Value.depth]
      exact encode_unwrap_succeeds_iff item room
    · rw [hdepth, hencode, if_pos rfl]
      exact succeeds_descend_iff (encode_unwrap_succeeds_iff item)
  | .array kind shape items => by
    intro room
    rw [encode, if_pos rfl, converted, Value.depth, Value.throughout_iff]
    refine succeeds_descend_iff fun room => ?_
    rw [succeeds_map_iff, encodeItems_succeeds_iff items room]
    simp [Value.contents, Value.IsWritable, Value.isEncodable, Value.isModest]
  | .int n => by
    intro room
    rw [Value.throughout_of_no_contents rfl]
    simpa [encode, atomJson, Value.depth, Value.IsWritable, Value.isEncodable, Value.isModest] using
      succeeds_intJson_iff
  | .none | .bool _ | .float _ | .text _ | .torn _ | .bytes _ | .complex _ _ | .set _
  | .cyclicList | .cyclicDict | .literal _ | .field _ | .constant _ | .model _ _
  | .glyph _ _ _ | .layout _ _ | .glyphAttrs _ _ | .figureAttrs _ | .source _ => by
    intro room
    rw [Value.throughout_of_no_contents rfl]
    simp [encode, atomJson, Value.depth, Value.IsWritable, Value.isEncodable, Value.isModest]

theorem encodeItems_succeeds_iff : ∀ (vs : List Value) (room : Nat),
    Succeeds (encodeItems .unwrap room vs) ↔
      (∀ v ∈ vs, v.Throughout Value.IsWritable) ∧ Value.itemsDepth vs ≤ room
  | [] => by simp [encodeItems, Value.itemsDepth]
  | v :: vs => by
    intro room
    rw [encodeItems, succeeds_bind_of_forall fun _ => succeeds_map_iff, encode_unwrap_succeeds_iff v room,
      encodeItems_succeeds_iff vs room, List.forall_mem_cons, Value.itemsDepth, Nat.max_le,
      and_and_and_comm]

theorem encodeEntries_succeeds_iff : ∀ (es : List (Value × Value)) (room : Nat),
    Succeeds (encodeEntries .unwrap room es) ↔
      (∀ e ∈ es, Succeeds (memberName e.1) ∧ e.2.Throughout Value.IsWritable) ∧
        Value.entriesDepth es ≤ room
  | [] => by simp [encodeEntries, Value.entriesDepth]
  | (k, v) :: es => by
    intro room
    rw [encodeEntries, succeeds_bind_of_forall fun _ => succeeds_bind_of_forall fun _ => succeeds_map_iff,
      encode_unwrap_succeeds_iff v room, encodeEntries_succeeds_iff es room, List.forall_mem_cons,
      Value.entriesDepth, Nat.max_le, and_and_and_comm]
    simp only [and_assoc]

end

end Json

end PlotStream
