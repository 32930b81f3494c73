import Mathlib.Algebra.Ring.Nat
import Mathlib.Data.List.Forall2
import PlotStream.Value.Array

/-!
# Arrays as nested lists

`Value.nested` makes lists within lists of the items of an array, along its axes. The item at an index
stands at the row-major `position` of the index among the items (`Value.at?_nested`). Transposition and
striding rearrange the items so that the nested lists change as the array does: of a transposed array
the item at an index is that at the reversed index (`Value.at?_transposed`), and of a strided one the
outermost list keeps every `step`-th of its parts (`Value.nested_strided`).
-/

namespace PlotStream

/-! ## Runs of equal length -/

section Chunks

variable {α : Type} {size n : Nat} {xs : List α}

theorem getElem?_chunks {i : Nat} (hi : i < n) :
    (chunks size n xs)[i]? = some ((xs.drop (i * size)).take size) := by
  induction n generalizing xs i with
  | zero => omega
  | succ n ih =>
    cases i with
    | zero => simp [chunks]
    | succ i =>
      rw [chunks, List.getElem?_cons_succ, ih (by omega), List.drop_drop]
      congr 3
      rw [Nat.succ_mul]
      omega

theorem length_of_mem_chunks (h : xs.length = n * size) {chunk : List α}
    (hchunk : chunk ∈ chunks size n xs) : chunk.length = size := by
  induction n generalizing xs with
  | zero => cases hchunk
  | succ n ih =>
    rw [Nat.succ_mul] at h
    rcases List.mem_cons.mp hchunk with rfl | hchunk
    · simp [h]
    · exact ih (by simp [h]) hchunk

theorem chunks_flatten {rows : List (List α)} (h : ∀ row ∈ rows, row.length = size) :
    chunks size rows.length rows.flatten = rows := by
  induction rows with
  | nil => rfl
  | cons row rows ih =>
    obtain ⟨hrow, hrows⟩ := List.forall_mem_cons.mp h
    rw [List.length_cons, chunks, List.flatten_cons, List.take_left' hrow, List.drop_left' hrow,
      ih hrows]

theorem length_flatten_of_forall {rows : List (List α)} (h : ∀ row ∈ rows, row.length = size) :
    rows.flatten.length = rows.length * size := by
  rw [List.length_flatten, List.map_congr_left h]
  simp

/-- Of rows of equal length, put together, the item of a row. -/
theorem getElem?_flatten {rows : List (List α)} (h : ∀ row ∈ rows, row.length = size) (i : Nat)
    {p : Nat} (hp : p < size) : rows.flatten[i * size + p]? = rows[i]?.bind fun row => row[p]? := by
  induction rows generalizing i with
  | nil => simp
  | cons row rows ih =>
    obtain ⟨hrow, hrows⟩ := List.forall_mem_cons.mp h
    rw [List.flatten_cons]
    cases i with
    | zero => simp [List.getElem?_append_left, hrow, hp]
    | succ i =>
      have hskip : (i + 1) * size + p - row.length = i * size + p := by
        rw [Nat.succ_mul]
        omega
      rw [List.getElem?_append_right (by rw [Nat.succ_mul]; omega), hskip, ih hrows,
        List.getElem?_cons_succ]

end Chunks

theorem itemCount_eq_prod (shape : List Nat) : itemCount shape = shape.prod :=
  List.prod_eq_foldl.symm

@[simp] theorem itemCount_nil : itemCount [] = 1 := rfl

@[simp] theorem itemCount_cons (n : Nat) (shape : List Nat) :
    itemCount (n :: shape) = n * itemCount shape := by
  simp [itemCount_eq_prod]

/-! ## Indices -/

/-- One number for each axis, below its length. -/
abbrev IsIndex (index shape : List Nat) : Prop :=
  List.Forall₂ (· < ·) index shape

theorem IsIndex.reverse {index shape : List Nat} (h : IsIndex index shape) :
    IsIndex index.reverse shape.reverse :=
  List.rel_reverse h

/-- Where the item at an index stands among the items of an array. -/
def position : List Nat → List Nat → Nat
  | _ :: shape, i :: index => i * itemCount shape + position shape index
  | _, _ => 0

theorem position_lt {index shape : List Nat} (h : IsIndex index shape) :
    position shape index < itemCount shape := by
  induction h with
  | nil => simp [position]
  | @cons i n index shape hi _ ih =>
    have hrow : (i + 1) * itemCount shape ≤ n * itemCount shape := Nat.mul_le_mul_right _ hi
    rw [Nat.succ_mul] at hrow
    rw [position, itemCount_cons]
    omega

namespace Value

/-! ## Nested lists -/

/-- The items of an array as lists within lists, one level for each axis. -/
def nested : List Nat → List Value → Value
  | [], items => items.head?.getD none
  | n :: shape, items => list ((chunks (itemCount shape) n items).map (nested shape))

/-- The part of lists within lists that an index leads to. -/
def at? : List Nat → Value → Option Value
  | [], v => some v
  | i :: index, list items => items[i]?.bind (at? index)
  | _ :: _, _ => Option.none

/-- The item that an index leads to is the one at its position. -/
theorem at?_nested {index shape : List Nat} (h : IsIndex index shape) {items : List Value}
    (hlength : items.length = itemCount shape) :
    at? index (nested shape items) = items[position shape index]? := by
  induction h generalizing items with
  | nil =>
    obtain ⟨item, rfl⟩ := List.length_eq_one_iff.mp hlength
    rfl
  | @cons i n index shape hi hindex ih =>
    rw [itemCount_cons] at hlength
    have hrow : (chunks (itemCount shape) n items)[i]? =
        some ((items.drop (i * itemCount shape)).take (itemCount shape)) := getElem?_chunks hi
    have hrowLength := length_of_mem_chunks hlength (List.mem_of_getElem? hrow)
    rw [nested, at?, List.getElem?_map, hrow, Option.map_some, Option.bind_some, ih hrowLength,
      List.getElem?_take_of_lt (position_lt hindex), List.getElem?_drop, position]

/-! ## Transposition -/

/-- The sum of the steps along each axis. -/
def offset (index strides : List Nat) : Nat :=
  (List.zipWith (· * ·) index strides).sum

@[simp] theorem offset_cons (i stride : Nat) (index strides : List Nat) :
    offset (i :: index) (stride :: strides) = i * stride + offset index strides := by
  simp [offset]

/-- The order in which the steps are taken does not matter. -/
theorem offset_reverse {index strides : List Nat} (h : index.length = strides.length) :
    offset index.reverse strides.reverse = offset index strides := by
  rw [offset, ← List.reverse_zipWith h, List.sum_reverse, offset]

@[simp] theorem length_strides (shape : List Nat) : (strides shape).length = shape.length := by
  induction shape with
  | nil => rfl
  | cons n shape ih => simp [strides, ih]

theorem position_eq_offset (shape index : List Nat) :
    position shape index = offset index (strides shape) := by
  induction shape generalizing index with
  | nil => simp [position, strides, offset]
  | cons n shape ih =>
    cases index with
    | nil => rfl
    | cons i index => rw [position, strides, offset_cons, ih]

theorem length_reversedPositions {shape strides : List Nat} (h : strides.length = shape.length) :
    (reversedPositions shape strides).length = itemCount shape := by
  induction shape generalizing strides with
  | nil => simp [reversedPositions]
  | cons n shape ih =>
    cases strides with
    | nil => simp at h
    | cons stride strides =>
      simp [reversedPositions, ih (by simpa using h)]

/-- The positions are listed in the order of the indices. -/
theorem getElem?_reversedPositions {index shape : List Nat} (hindex : IsIndex index shape)
    {strides : List Nat} (h : strides.length = shape.length) :
    (reversedPositions shape strides)[position shape index]? = some (offset index strides) := by
  induction hindex generalizing strides with
  | nil => simp [reversedPositions, position, offset]
  | @cons i n index shape hi hindex ih =>
    cases strides with
    | nil => simp at h
    | cons stride strides =>
      have hstrides : strides.length = shape.length := by simpa using h
      have hrows : ∀ row ∈ (List.range n).map fun k =>
          (reversedPositions shape strides).map (k * stride + ·), row.length = itemCount shape := by
        intro row hrow
        obtain ⟨k, -, rfl⟩ := List.mem_map.mp hrow
        rw [List.length_map, length_reversedPositions hstrides]
      rw [reversedPositions, position, List.flatMap_def, getElem?_flatten hrows i (position_lt hindex)]
      simp [hi, ih hstrides]

/-- No other positions are listed. -/
theorem mem_reversedPositions {shape strides : List Nat} (h : strides.length = shape.length) {p : Nat}
    (hp : p ∈ reversedPositions shape strides) :
    ∃ index, IsIndex index shape ∧ p = offset index strides := by
  induction shape generalizing strides p with
  | nil =>
    rw [reversedPositions, List.mem_singleton] at hp
    · exact ⟨[], .nil, hp⟩
    · simp
  | cons n shape ih =>
    cases strides with
    | nil => simp at h
    | cons stride strides =>
      rw [reversedPositions] at hp
      obtain ⟨i, hi, hp⟩ := List.mem_flatMap.mp hp
      obtain ⟨q, hq, rfl⟩ := List.mem_map.mp hp
      obtain ⟨index, hindex, rfl⟩ := ih (by simpa using h) hq
      exact ⟨i :: index, .cons (List.mem_range.mp hi) hindex, by rw [offset_cons]⟩

/-- The items of an array whose axes are in reverse order. -/
def transposedItems (shape : List Nat) (items : List Value) : List Value :=
  (reversedPositions shape.reverse (strides shape).reverse).filterMap fun p => items[p]?

theorem transpose_array (kind : ElementKind) (shape : List Nat) (items : List Value) :
    (array kind shape items).transpose = array kind shape.reverse (transposedItems shape items) := by
  simp [transpose, transposedItems]

section Transposed

variable {shape : List Nat} {items : List Value} (hlength : items.length = itemCount shape)

include hlength

/-- Every position is that of an item. -/
theorem lt_length_of_mem_reversedPositions {p : Nat}
    (hp : p ∈ reversedPositions shape.reverse (strides shape).reverse) : p < items.length := by
  obtain ⟨index, hindex, rfl⟩ := mem_reversedPositions (by simp) hp
  have hback : IsIndex index.reverse shape := by simpa using hindex.reverse
  have hsame : offset index (strides shape).reverse = position shape index.reverse := by
    have hreverse : offset index.reverse (strides shape).reverse.reverse =
        offset index (strides shape).reverse := offset_reverse (by simpa using hindex.length_eq)
    rw [List.reverse_reverse] at hreverse
    rw [position_eq_offset, hreverse]
  rw [hsame, hlength]
  exact position_lt hback

theorem transposedItems_eq_map :
    (transposedItems shape items).map some =
      (reversedPositions shape.reverse (strides shape).reverse).map fun p => items[p]? := by
  rw [transposedItems, List.map_filterMap]
  have hall : ∀ p ∈ reversedPositions shape.reverse (strides shape).reverse, p < items.length :=
    fun p => lt_length_of_mem_reversedPositions hlength
  generalize reversedPositions shape.reverse (strides shape).reverse = positions at hall
  induction positions with
  | nil => rfl
  | cons p positions ih =>
    obtain ⟨hp, hpositions⟩ := List.forall_mem_cons.mp hall
    simp [hp, ih hpositions]

theorem length_transposedItems : (transposedItems shape items).length = itemCount shape.reverse := by
  have hsame := congrArg List.length (transposedItems_eq_map hlength)
  simpa [length_reversedPositions] using hsame

omit hlength in
theorem mem_transposedItems {item : Value} (h : item ∈ transposedItems shape items) : item ∈ items := by
  obtain ⟨p, -, hp⟩ := List.mem_filterMap.mp h
  exact List.mem_of_getElem? hp

/-- The item at an index of the transposed array is the one at the reversed index. -/
theorem at?_transposed {index : List Nat} (hindex : IsIndex index shape) :
    at? index.reverse (nested shape.reverse (transposedItems shape items)) =
      at? index (nested shape items) := by
  have hposition : (transposedItems shape items)[position shape.reverse index.reverse]?.map some =
      some items[position shape index]? := by
    rw [← List.getElem?_map, transposedItems_eq_map hlength, List.getElem?_map,
      getElem?_reversedPositions hindex.reverse (by simp),
      offset_reverse (by simpa using hindex.length_eq), ← position_eq_offset]
    rfl
  obtain ⟨item, hitem, hsame⟩ := Option.map_eq_some_iff.mp hposition
  rw [at?_nested hindex.reverse (length_transposedItems hlength), at?_nested hindex hlength, hitem, hsame]

end Transposed

/-! ## Striding -/

section EveryNth

variable {α β : Type}

/-- The next item that is kept is `ahead` items ahead. -/
theorem getElem?_filter_zipIdx {m : Nat} (hm : 0 < m) (xs : List α) {k ahead : Nat}
    (hahead : ahead < m) (hk : m ∣ k + ahead) (i : Nat) :
    ((xs.zipIdx k).filter fun x => x.2 % m = 0)[i]?.map Prod.fst = xs[i * m + ahead]? := by
  induction xs generalizing k ahead i with
  | nil => simp
  | cons x xs ih =>
    rw [List.zipIdx_cons]
    cases ahead with
    | zero =>
      -- The item in front is kept, and the next one is a whole step ahead of it.
      rw [List.filter_cons_of_pos (by simpa using Nat.mod_eq_zero_of_dvd hk)]
      cases i with
      | zero => simp
      | succ i =>
        have hnext : m ∣ k + 1 + (m - 1) := by
          have hsum : k + 1 + (m - 1) = k + m := by omega
          rw [hsum]
          exact Nat.dvd_add hk (Nat.dvd_refl m)
        have hindex : (i + 1) * m + 0 = i * m + (m - 1) + 1 := by
          rw [Nat.succ_mul]
          omega
        rw [List.getElem?_cons_succ, ih (by omega) hnext, hindex, List.getElem?_cons_succ]
    | succ ahead =>
      have hdropped : ¬ m ∣ k := by
        intro hdvd
        have hle := Nat.le_of_dvd (by omega) ((Nat.dvd_add_right hdvd).mp hk)
        omega
      have hnext : m ∣ k + 1 + ahead := by rwa [Nat.add_assoc, Nat.add_comm 1]
      rw [List.filter_cons_of_neg (by simpa [Nat.dvd_iff_mod_eq_zero] using hdropped),
        ih (by omega) hnext, ← Nat.add_assoc, List.getElem?_cons_succ]

/-- The items that are kept are those at the multiples of the step, counted from the end that the step
starts at. -/
theorem getElem?_everyNth {step : Int} (hstep : step ≠ 0) (xs : List α) (i : Nat) :
    (everyNth step xs)[i]? = (if step < 0 then xs.reverse else xs)[i * step.natAbs]? := by
  rw [everyNth, List.getElem?_map]
  have hm : 0 < step.natAbs := Int.natAbs_pos.mpr hstep
  exact getElem?_filter_zipIdx hm _ hm (Nat.dvd_zero _) i

theorem everyNth_map (step : Int) (f : α → β) (xs : List α) :
    everyNth step (xs.map f) = (everyNth step xs).map f := by
  have hreverse : (if step < 0 then (xs.map f).reverse else xs.map f) =
      (if step < 0 then xs.reverse else xs).map f := by
    split <;> simp
  simp only [everyNth, hreverse, List.zipIdx_map, List.filter_map, List.map_map]
  rfl

theorem mem_of_mem_everyNth {step : Int} {xs : List α} {x : α} (h : x ∈ everyNth step xs) : x ∈ xs := by
  obtain ⟨⟨y, k⟩, hy, rfl⟩ := List.mem_map.mp h
  have hmem := List.fst_mem_of_mem_zipIdx (List.mem_filter.mp hy).1
  split at hmem
  · exact List.mem_reverse.mp hmem
  · exact hmem

end EveryNth

/-- The parts along the first axis that striding keeps. -/
def keptParts (step : Int) (n : Nat) (shape : List Nat) (items : List Value) : List (List Value) :=
  everyNth step (chunks (itemCount shape) n items)

theorem stride_array {step : Int} (hstep : step ≠ 0) (kind : ElementKind) (n : Nat) (shape : List Nat)
    (items : List Value) :
    (array kind (n :: shape) items).stride step =
      .ok (array kind ((keptParts step n shape items).length :: shape)
        (keptParts step n shape items).flatten) := by
  rw [stride, if_neg hstep]
  rfl

section Strided

variable {step : Int} {n : Nat} {shape : List Nat} {items : List Value}
  (hlength : items.length = itemCount (n :: shape))

include hlength

theorem length_of_mem_keptParts {part : List Value} (h : part ∈ keptParts step n shape items) :
    part.length = itemCount shape :=
  length_of_mem_chunks (by rw [hlength, itemCount_cons]) (mem_of_mem_everyNth h)

/-- Of a strided array the outermost list keeps every `step`-th of its parts. -/
theorem nested_strided :
    nested ((keptParts step n shape items).length :: shape) (keptParts step n shape items).flatten =
      list (everyNth step ((chunks (itemCount shape) n items).map (nested shape))) := by
  rw [nested, chunks_flatten fun part => length_of_mem_keptParts hlength, everyNth_map]
  rfl

end Strided

end Value

end PlotStream
