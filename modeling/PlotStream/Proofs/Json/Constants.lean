import PlotStream.Plot.Code
import PlotStream.Proofs.Json.Encodable
import PlotStream.Proofs.Value.NestedLists
import PlotStream.Proofs.Wire.PlainMessages

/-!
# Constants come back

A constant of a plot is written as JSON, its scalars and arrays too, in whatever list, tuple or
dictionary they stand. `IsConstant` is the data that loses nothing on the way: besides plain data the
scalars and the arrays of truth values and of integers, of any shape. It is read again with every tuple
as a list, every scalar as its item and every array as nested lists (`IsConstant.comesBack`), wherever there
is room for its nesting.
-/

namespace PlotStream

/-! ## Items of scalars and arrays -/

/-- What an array of truth values or of integers of a kind holds. -/
inductive ElementKind.HasItem : ElementKind → Value → Prop
  | boolean (b : Bool) : HasItem .boolean (.bool b)
  | integer {kind : ElementKind} {signed : Bool} {bits : Nat} {n : Int}
      (hkind : kind.integer? = some (signed, bits)) (hfits : fitsInteger signed bits n = true) :
      HasItem kind (.int n)

theorem natAbs_lt_of_fitsInteger {signed : Bool} {bits : Nat} {n : Int}
    (h : fitsInteger signed bits n = true) : n.natAbs < 2 ^ bits := by
  have hpos : 0 < 2 ^ bits := Nat.pow_pos (by decide)
  have hwrap : wrapInteger signed bits n = n := of_decide_eq_true h
  simp only [wrapInteger, Nat.pow_eq] at hwrap
  generalize 2 ^ bits = m at hpos hwrap ⊢
  cases signed with
  | true =>
    have hlow : -((m : Int) / 2) ≤ n.bmod m := Int.le_bmod hpos
    have hhigh : n.bmod m < ((m : Int) + 1) / 2 := Int.bmod_lt hpos
    simp only [if_true] at hwrap
    omega
  | false =>
    have hlow : 0 ≤ n % (m : Int) := Int.emod_nonneg n (by omega)
    have hhigh : n % (m : Int) < m := Int.emod_lt_of_pos n (by omega)
    simp only [Bool.false_eq_true, if_false] at hwrap
    omega

theorem ElementKind.bits_le {kind : ElementKind} {signed : Bool} {bits : Nat}
    (h : kind.integer? = some (signed, bits)) : bits ≤ 64 := by
  cases kind <;> simp [ElementKind.integer?] at h <;> omega

/-- The integers of every kind have few digits. -/
theorem ElementKind.natAbs_lt {kind : ElementKind} {signed : Bool} {bits : Nat} {n : Int}
    (hkind : kind.integer? = some (signed, bits)) (hfits : fitsInteger signed bits n = true) :
    n.natAbs < 10 ^ digitLimit := by
  calc n.natAbs < 2 ^ bits := natAbs_lt_of_fitsInteger hfits
    _ ≤ 2 ^ 64 := Nat.pow_le_pow_right (by decide) (bits_le hkind)
    _ ≤ 10 ^ 20 := by decide
    _ ≤ 10 ^ digitLimit := Nat.pow_le_pow_right (by decide) (by decide)

namespace Value

/-! ## Constants -/

/-- Data that means the same in the browser. -/
inductive IsConstant : Value → Prop
  | none : IsConstant .none
  | bool (b : Bool) : IsConstant (.bool b)
  | int {n : Int} (h : n.natAbs < 10 ^ digitLimit) : IsConstant (.int n)
  | text (s : String) : IsConstant (.text s)
  | list {items : List Value} (h : ∀ v ∈ items, IsConstant v) : IsConstant (.list items)
  | tuple {items : List Value} (h : ∀ v ∈ items, IsConstant v) : IsConstant (.tuple items)
  | dict {entries : Entries Value} (hkeys : entries.Distinct)
      (hnames : ∀ e ∈ entries, ∃ name, e.1 = .text name) (h : ∀ e ∈ entries, IsConstant e.2) :
      IsConstant (.dict entries)
  | scalar {kind : ElementKind} {item : Value} (h : kind.HasItem item) :
      IsConstant (.scalar kind item)
  | array {kind : ElementKind} {shape : List Nat} {items : List Value}
      (hlength : items.length = itemCount shape) (h : ∀ v ∈ items, kind.HasItem v) :
      IsConstant (.array kind shape items)

theorem IsConstant.wrapped (n : Nat) : (wrapped n).IsConstant := by
  induction n with
  | zero => exact .list (by simp)
  | succ n ih => exact .list (by simpa using ih)

mutual

/-- Every tuple as a list, every scalar as its item, every array as nested lists. -/
def unwrapped : Value → Value
  | .list items => .list (unwrappedItems items)
  | .tuple items => .list (unwrappedItems items)
  | .dict entries => .dict (unwrappedEntries entries)
  | .scalar _ item => item
  | .array _ shape items => nested shape items
  | v => v

/-- Values one by one. -/
def unwrappedItems : List Value → List Value
  | [] => []
  | v :: vs => v.unwrapped :: unwrappedItems vs

/-- The values of entries one by one. -/
def unwrappedEntries : List (Value × Value) → List (Value × Value)
  | [] => []
  | (k, v) :: es => (k, v.unwrapped) :: unwrappedEntries es

end

theorem unwrappedItems_eq_map (vs : List Value) : unwrappedItems vs = vs.map unwrapped := by
  induction vs with
  | nil => rfl
  | cons v vs ih => rw [unwrappedItems, ih, List.map_cons]

theorem unwrappedEntries_eq_map (es : List (Value × Value)) :
    unwrappedEntries es = es.map fun e => (e.1, e.2.unwrapped) := by
  induction es with
  | nil => rfl
  | cons e es ih => rw [unwrappedEntries, ih, List.map_cons]

theorem keys_unwrappedEntries (es : Entries Value) :
    Entries.keys (unwrappedEntries es) = es.keys := by
  simp [Entries.keys, unwrappedEntries_eq_map]

/-- A transposed array is a constant if the array is. -/
theorem IsConstant.transpose {kind : ElementKind} {shape : List Nat} {items : List Value}
    (h : (Value.array kind shape items).IsConstant) :
    (Value.array kind shape items).transpose.IsConstant := by
  cases h with
  | array hlength hitems =>
    rw [transpose_array]
    apply IsConstant.array (length_transposedItems hlength)
    intro v hv
    exact hitems v (mem_transposedItems hv)

/-- The kept parts of an array make a constant if the array is one. -/
theorem IsConstant.strided {kind : ElementKind} {n : Nat} {shape : List Nat} {items : List Value}
    (h : (Value.array kind (n :: shape) items).IsConstant) (step : Int) :
    (Value.array kind ((keptParts step n shape items).length :: shape)
      (keptParts step n shape items).flatten).IsConstant := by
  cases h with
  | array hlength hitems =>
    have hparts : ∀ part ∈ keptParts step n shape items, part.length = itemCount shape :=
      fun part => length_of_mem_keptParts hlength
    apply IsConstant.array
    · rw [length_flatten_of_forall hparts, itemCount_cons]
    · intro v hv
      obtain ⟨part, hpart, hv⟩ := List.mem_flatten.mp hv
      exact hitems v (Json.mem_of_mem_chunks (mem_of_mem_everyNth hpart) hv)

end Value

namespace Json

/-! ## Scalars and arrays -/

theorem comesBack_item {kind : ElementKind} {item : Value} (h : kind.HasItem item) (how : Scalars) :
    ComesBack how item item := by
  cases h with
  | boolean b => exact comesBack_bool b
  | integer hkind hfits => exact comesBack_int (ElementKind.natAbs_lt hkind hfits)

/-- Runs of written items are those of the items. -/
theorem forall₂_chunks {size n : Nat} {parts : List (List Char)} {vs : List Value}
    (h : List.Forall₂ ReadsAs parts vs) (hlength : vs.length = n * size) :
    List.Forall₂ (fun run chunk => List.Forall₂ ReadsAs run chunk ∧ chunk.length = size)
      (chunks size n parts) (chunks size n vs) := by
  induction n generalizing parts vs with
  | zero => exact .nil
  | succ n ih =>
    rw [Nat.succ_mul] at hlength
    refine .cons ⟨List.forall₂_take size h, ?_⟩ (ih (List.forall₂_drop size h) ?_)
    · simp [hlength]
    · simp [hlength]

/-- The innermost lists are written without a level of their own. -/
theorem chunks_one {α : Type} {n : Nat} {xs : List α} (h : xs.length = n) :
    chunks 1 n xs = xs.map fun x => [x] := by
  induction n generalizing xs with
  | zero => simp [List.length_eq_zero_iff.mp h, chunks]
  | succ n ih =>
    cases xs with
    | nil => simp at h
    | cons x xs => simp [chunks, ih (by simpa using h)]

theorem nestedJson_cons {n : Nat} {shape : List Nat} {parts : List (List Char)}
    (h : parts.length = n * itemCount shape) :
    nestedJson (n :: shape) parts =
      arrayText ((chunks (itemCount shape) n parts).map (nestedJson shape)) := by
  cases shape with
  | nil =>
    rw [itemCount_nil, Nat.mul_one] at h
    rw [nestedJson, itemCount_nil, chunks_one h, List.map_map]
    congr 1
    exact (List.map_id'' (fun part => by simp [nestedJson]) parts).symm
  | cons m shape => rw [nestedJson]; simp

/-- The items of an array are read as nested lists. The induction is on the axes. -/
theorem readsAs_nestedJson {shape : List Nat} {parts : List (List Char)} {vs : List Value}
    (h : List.Forall₂ ReadsAs parts vs) (hlength : vs.length = itemCount shape) :
    ReadsAs (nestedJson shape parts) (Value.nested shape vs) := by
  induction shape generalizing parts vs with
  | nil =>
    obtain ⟨v, rfl⟩ := List.length_eq_one_iff.mp hlength
    obtain ⟨part, parts, hpart, hparts, rfl⟩ := List.forall₂_cons_right_iff.mp h
    obtain rfl := List.forall₂_nil_right_iff.mp hparts
    simpa [nestedJson, Value.nested] using hpart
  | cons n shape ih =>
    rw [itemCount_cons] at hlength
    rw [nestedJson_cons (h.length_eq.trans hlength), Value.nested]
    apply readsAs_array
    rw [List.forall₂_map_left_iff, List.forall₂_map_right_iff]
    exact (forall₂_chunks h hlength).imp fun _ _ hrun => ih hrun.1 hrun.2

theorem comesBack_array {kind : ElementKind} {shape : List Nat} {items : List Value}
    (hlength : items.length = itemCount shape) (h : ∀ v ∈ items, kind.HasItem v) :
    ComesBack .unwrap (.array kind shape items) (Value.nested shape items) := by
  have hitems : List.Forall₂ (ComesBack .unwrap) items items :=
    List.forall₂_same.mpr fun v hv => comesBack_item (h v hv) _
  obtain ⟨parts, hparts, hreads⟩ := encodeItems_comesBack hitems
  refine ⟨nestedJson shape parts, fun room hroom => ?_, readsAs_nestedJson hreads hlength⟩
  rw [Value.depth] at hroom
  rw [encode, if_pos rfl, converted, descend_of_le (Nat.le_of_add_left_le hroom),
    hparts _ (Nat.le_sub_of_add_le hroom)]
  rfl

theorem comesBack_scalar {kind : ElementKind} {item : Value} (h : kind.HasItem item) :
    ComesBack .unwrap (.scalar kind item) item := by
  obtain ⟨cs, hcs, hreads⟩ := comesBack_item h .unwrap
  refine ⟨cs, fun room hroom => ?_, hreads⟩
  rcases scalar_cases kind item with ⟨rfl, x, rfl⟩ | ⟨width, rfl⟩ | ⟨hdepth, hencode⟩
  · cases h
  · rw [encode]
    exact hcs room hroom
  · rw [hdepth] at hroom
    rw [hencode, if_pos rfl, converted, descend_of_le (Nat.le_of_add_left_le hroom)]
    exact hcs _ (Nat.le_sub_of_add_le hroom)

/-! ## Constants -/

theorem forall₂_unwrappedItems {vs : List Value} (h : ∀ v ∈ vs, ComesBack .unwrap v v.unwrapped) :
    List.Forall₂ (ComesBack .unwrap) vs (Value.unwrappedItems vs) := by
  rw [Value.unwrappedItems_eq_map, List.forall₂_map_right_iff, List.forall₂_same]
  exact h

theorem forall₂_unwrappedEntries {es : Entries Value} (hnames : ∀ e ∈ es, ∃ name, e.1 = .text name)
    (h : ∀ e ∈ es, ComesBack .unwrap e.2 e.2.unwrapped) :
    List.Forall₂ (MemberComesBack .unwrap) es (Value.unwrappedEntries es) := by
  rw [Value.unwrappedEntries_eq_map, List.forall₂_map_right_iff, List.forall₂_same]
  rintro ⟨key, v⟩ he
  obtain ⟨name, rfl⟩ : ∃ name, key = .text name := hnames _ he
  exact .intro name (h _ he)

end Json

/-- The induction is on the value; scalars and arrays are written as what they hold. -/
theorem Value.IsConstant.comesBack {v : Value} (h : v.IsConstant) :
    Json.ComesBack .unwrap v v.unwrapped := by
  induction h with
  | none => exact Json.comesBack_null
  | bool b => exact Json.comesBack_bool b
  | int h => exact Json.comesBack_int h
  | text s => exact Json.comesBack_text s
  | list _ ih => exact Json.comesBack_list (Json.forall₂_unwrappedItems ih)
  | tuple _ ih => exact Json.comesBack_tuple (Json.forall₂_unwrappedItems ih)
  | @dict entries hkeys hnames _ ih =>
    have hdistinct : Entries.Distinct (unwrappedEntries entries) := by
      rw [Entries.Distinct, keys_unwrappedEntries]
      exact hkeys
    have hback := Json.comesBack_dict (Json.forall₂_unwrappedEntries hnames ih)
    rwa [dictOf, Entries.ofList_of_distinct hdistinct] at hback
  | scalar h => exact Json.comesBack_scalar h
  | array hlength h => exact Json.comesBack_array hlength h

namespace Code

/-- A constant becomes printable ASCII that is read as the same value. -/
theorem json_of_isConstant {v : Value} (h : v.IsConstant) {room : Nat}
    (hroom : v.depth + writingCalls ≤ room) :
    ∃ s, json room v = .ok s ∧ (∀ c ∈ s.toList, Json.IsPrinted c) ∧ Json.read s = .ok v.unwrapped := by
  obtain ⟨s, hwrite, hread⟩ := h.comesBack.read_write hroom
  exact ⟨s, hwrite, Json.write_printed hwrite, hread⟩

end Code

theorem Code.json_wrapped {n room : Nat} (h : room < n + 6) :
    ∃ fault, json room (.wrapped n) = .error fault ∧ fault.kind = .recursion := by
  refine (Value.IsConstant.wrapped n).comesBack.write_of_lt ?_
  simpa [writingCalls] using h

end PlotStream
