import PlotStream.Json.Writer

/-!
# How deep a value is

`Value.depth` counts the calls that nest inside of one another where a value is written. Room for so
many calls is just enough: with it or with more the same is written, or the same fault is found, and
with less nothing is written (`Json.curtails_encode`). The fault is then that of the nesting, unless
another one comes before it.
-/

namespace PlotStream

/-! ## Nested calls -/

section Descend

variable {α : Type} {fault : Fault} {calls room : Nat} {inner : Nat → Except Fault α}

theorem descend_of_le (h : calls ≤ room) : descend fault calls room inner = inner (room - calls) :=
  if_pos h

theorem descend_of_lt (h : room < calls) : descend fault calls room inner = .error fault :=
  if_neg (Nat.not_le.mpr h)

theorem descend_eq_ok_iff {a : α} :
    descend fault calls room inner = .ok a ↔ calls ≤ room ∧ inner (room - calls) = .ok a := by
  unfold descend
  split <;> simp [*]

end Descend

namespace Value

/-! ## Depth -/

mutual

/-- The calls that nest inside of one another where a value is written. -/
def depth : Value → Nat
  | .list items | .tuple items => itemsDepth items + 1
  | .dict entries => entriesDepth entries + 1
  | .scalar .float64 (.float _) => 0
  | .scalar (.text _) item => item.depth
  | .scalar _ item => item.depth + conversionCalls 0
  | .array _ shape items => itemsDepth items + conversionCalls shape.length
  | _ => 0

/-- The depth of the deepest of some values. -/
def itemsDepth : List Value → Nat
  | [] => 0
  | v :: vs => max v.depth (itemsDepth vs)

/-- The depth of the deepest value of some entries. -/
def entriesDepth : List (Value × Value) → Nat
  | [] => 0
  | (_, v) :: es => max v.depth (entriesDepth es)

end

@[simp] theorem depth_text (s : String) : (text s).depth = 0 :=
  rfl

theorem itemsDepth_le_iff {vs : List Value} {n : Nat} : itemsDepth vs ≤ n ↔ ∀ v ∈ vs, v.depth ≤ n := by
  induction vs with
  | nil => simp [itemsDepth]
  | cons v vs ih => rw [itemsDepth, Nat.max_le, ih, List.forall_mem_cons]

/-- A list around a list, and so on, around nothing. -/
def wrapped : Nat → Value
  | 0 => .list []
  | n + 1 => .list [wrapped n]

@[simp] theorem depth_wrapped (n : Nat) : (wrapped n).depth = n + 1 := by
  induction n with
  | zero => rfl
  | succ n ih => simp [wrapped, depth, itemsDepth, ih]

end Value

namespace Json

/-! ## What becomes of a value for want of room -/

/-- `x` is what becomes of `y`, for which so many calls nest, where there is room for `room` of them:
it is `y` if they fit, and otherwise a fault, that of the nesting unless `y` is a fault as well. -/
def Curtails {α : Type} (depth room : Nat) (x y : Except Fault α) : Prop :=
  (depth ≤ room → x = y) ∧
    (room < depth → x = .error .nestedTooDeeply ∨ ∃ fault, x = .error fault ∧ y = .error fault)

section Curtails

variable {α β : Type} {d d' room room' : Nat}

theorem Curtails.refl (room : Nat) (x : Except Fault α) : Curtails 0 room x x :=
  ⟨fun _ => rfl, fun h => absurd h (Nat.not_lt_zero _)⟩

theorem Curtails.error (depth room : Nat) (fault : Fault) :
    Curtails depth room (.error fault : Except Fault α) (.error fault) :=
  ⟨fun _ => rfl, fun _ => .inr ⟨fault, rfl, rfl⟩⟩

/-- One step after the other takes the room that either of them takes. -/
theorem Curtails.bind {x y : Except Fault α} {f g : α → Except Fault β} (h : Curtails d room x y)
    (hf : ∀ a, Curtails d' room (f a) (g a)) : Curtails (max d d') room (x >>= f) (y >>= g) := by
  refine ⟨fun hle => ?_, fun hlt => ?_⟩
  · obtain rfl := h.1 (by omega)
    exact bind_congr fun a => (hf a).1 (by omega)
  · by_cases hd : d ≤ room
    · obtain rfl := h.1 hd
      cases x with
      | error fault => exact .inr ⟨fault, rfl, rfl⟩
      | ok a => exact (hf a).2 (by omega)
    · rcases h.2 (by omega) with rfl | ⟨fault, rfl, rfl⟩
      · exact .inl rfl
      · exact .inr ⟨fault, rfl, rfl⟩

theorem Curtails.map {x y : Except Fault α} (h : Curtails d room x y) (f : α → β) :
    Curtails d room (do return f (← x)) (do return f (← y)) := by
  have hbind := h.bind fun a => Curtails.refl room (pure (f a))
  rwa [Nat.max_zero] at hbind

/-- What nests inside of some calls takes their room as well. -/
theorem Curtails.descend {calls : Nat} {inner : Nat → Except Fault α} (hroom : d + calls ≤ room')
    (h : ∀ room, Curtails d room (inner room) (inner (room' - calls))) :
    Curtails (d + calls) room (descend .nestedTooDeeply calls room inner)
      (PlotStream.descend .nestedTooDeeply calls room' inner) := by
  have henough : calls ≤ room' := Nat.le_of_add_left_le hroom
  rw [descend_of_le henough]
  by_cases hcalls : calls ≤ room
  · rw [descend_of_le hcalls]
    exact ⟨fun _ => (h _).1 (by omega), fun _ => (h _).2 (by omega)⟩
  · rw [descend_of_lt (Nat.not_le.mp hcalls)]
    exact ⟨fun _ => absurd hcalls (by omega), fun _ => .inl rfl⟩

end Curtails

variable {how : Scalars}

/-- A scalar with a fraction of 64 bits is a number, one that holds text is text, and any other one is
converted. -/
theorem scalar_cases (kind : ElementKind) (item : Value) :
    (kind = .float64 ∧ ∃ x, item = .float x) ∨ (∃ width, kind = .text width) ∨
      (Value.scalar kind item).depth = item.depth + conversionCalls 0 ∧
        ∀ how room, encode how room (.scalar kind item) =
          if how = .unwrap then converted room 0 fun room => encode how room item
          else .error (.notEncodable kind.name) := by
  cases kind with
  | text width => exact .inr (.inl ⟨width, rfl⟩)
  | float64 => cases item <;> simp [encode, Value.depth]
  | _ => simp [encode, Value.depth]

mutual

/-- Room for as many calls as the depth of a value is just enough to write it. -/
theorem curtails_encode : ∀ (v : Value) (room room' : Nat), v.depth ≤ room' →
    Curtails v.depth room (encode how room v) (encode how room' v)
  | .list items | .tuple items => by
    intro room room' h
    rw [Value.depth] at h ⊢
    rw [encode, encode]
    exact Curtails.descend h fun room =>
      (curtails_encodeItems items room _ (Nat.le_sub_of_add_le h)).map _
  | .dict entries => by
    intro room room' h
    rw [Value.depth] at h ⊢
    rw [encode, encode]
    exact Curtails.descend h fun room =>
      (curtails_encodeEntries entries room _ (Nat.le_sub_of_add_le h)).map _
  | .scalar kind item => by
    intro room room' h
    rcases scalar_cases kind item with ⟨rfl, x, rfl⟩ | ⟨width, rfl⟩ | ⟨hdepth, hencode⟩
    · exact .refl ..
    · rw [Value.depth] at h ⊢
      rw [encode, encode]
      exact curtails_encode item room room' h
    · rw [hdepth] at h ⊢
      rw [hencode, hencode]
      split
      · exact Curtails.descend h fun room =>
          curtails_encode item room _ (Nat.le_sub_of_add_le h)
      · exact .error ..
  | .array kind shape items => by
    intro room room' h
    rw [Value.depth] at h ⊢
    rw [encode, encode]
    split
    · exact Curtails.descend h fun room =>
        (curtails_encodeItems items room _ (Nat.le_sub_of_add_le h)).map _
    · exact .error ..
  | .none | .bool _ | .int _ | .float _ | .text _ | .torn _ | .bytes _ | .complex _ _ | .set _
  | .cyclicList | .cyclicDict | .literal _ | .field _ | .constant _ | .model _ _
  | .glyph _ _ _ | .layout _ _ | .glyphAttrs _ _ | .figureAttrs _ | .source _ => by
    intro room room' _
    simpa only [encode, Value.depth] using .refl ..

theorem curtails_encodeItems : ∀ (vs : List Value) (room room' : Nat), Value.itemsDepth vs ≤ room' →
    Curtails (Value.itemsDepth vs) room (encodeItems how room vs) (encodeItems how room' vs)
  | [] => fun _ _ _ => .refl ..
  | v :: vs => by
    intro room room' h
    rw [Value.itemsDepth] at h ⊢
    obtain ⟨hv, hvs⟩ := Nat.max_le.mp h
    rw [encodeItems, encodeItems]
    exact (curtails_encode v room room' hv).bind fun _ => (curtails_encodeItems vs room room' hvs).map _

theorem curtails_encodeEntries : ∀ (es : List (Value × Value)) (room room' : Nat),
    Value.entriesDepth es ≤ room' →
    Curtails (Value.entriesDepth es) room (encodeEntries how room es) (encodeEntries how room' es)
  | [] => fun _ _ _ => .refl ..
  | (k, v) :: es => by
    intro room room' h
    rw [Value.entriesDepth] at h ⊢
    obtain ⟨hv, hes⟩ := Nat.max_le.mp h
    rw [encodeEntries, encodeEntries]
    have hmember := (Curtails.refl room (memberName k)).bind fun name =>
      (curtails_encode v room room' hv).bind fun value =>
        (curtails_encodeEntries es room room' hes).map (memberText (stringText name) value :: ·)
    rwa [Nat.zero_max] at hmember

end

section Encode

variable {v : Value} {room room' : Nat}

theorem depth_le_of_encode {cs : List Char} (h : encode how room v = .ok cs) : v.depth ≤ room := by
  refine Nat.le_of_not_lt fun hlt => ?_
  rcases (curtails_encode v room v.depth (Nat.le_refl _)).2 hlt with hdeep | ⟨fault, hfault, -⟩
  · cases h.symm.trans hdeep
  · cases h.symm.trans hfault

/-- What is written does not depend on the room. -/
theorem encode_of_depth_le {cs : List Char} (h : encode how room v = .ok cs) (hroom : v.depth ≤ room') :
    encode how room' v = .ok cs := by
  rw [← (curtails_encode v room room' hroom).1 (depth_le_of_encode h)]
  exact h

/-- What can be written with more room is nested too deeply for less. -/
theorem encode_of_lt_depth {cs : List Char} (h : encode how room' v = .ok cs) (hroom : room < v.depth) :
    encode how room v = .error .nestedTooDeeply := by
  rcases (curtails_encode v room room' (depth_le_of_encode h)).2 hroom with
    hdeep | ⟨fault, -, hfault⟩
  · exact hdeep
  · cases h.symm.trans hfault

theorem write_eq_ok_iff {s : String} : write how room v = .ok s ↔
    writingCalls ≤ room ∧ ∃ cs, encode how (room - writingCalls) v = .ok cs ∧ String.ofList cs = s := by
  rw [write, descend_eq_ok_iff]
  refine and_congr_right fun _ => ?_
  cases encode how (room - writingCalls) v <;> simp [bind, Except.bind, pure, Except.pure]

theorem depth_le_of_write {s : String} (h : write how room v = .ok s) :
    v.depth + writingCalls ≤ room := by
  obtain ⟨hroom, cs, hcs, -⟩ := write_eq_ok_iff.mp h
  exact Nat.add_le_of_le_sub hroom (depth_le_of_encode hcs)

/-- What is written does not depend on the room. -/
theorem write_of_depth_le {s : String} (h : write how room v = .ok s)
    (hroom : v.depth + writingCalls ≤ room') : write how room' v = .ok s := by
  obtain ⟨-, cs, hcs, hs⟩ := write_eq_ok_iff.mp h
  exact write_eq_ok_iff.mpr ⟨Nat.le_of_add_left_le hroom, cs,
    encode_of_depth_le hcs (Nat.le_sub_of_add_le hroom), hs⟩

/-- A value that could be written in itself is not written for want of room. -/
theorem write_of_lt_depth {cs : List Char} (h : encode how room' v = .ok cs)
    (hroom : room < v.depth + writingCalls) :
    ∃ fault, write how room v = .error fault ∧ fault.kind = .recursion := by
  by_cases hcalls : writingCalls ≤ room
  · rw [write, descend_of_le hcalls, encode_of_lt_depth h (by omega)]
    exact ⟨_, rfl, rfl⟩
  · rw [write, descend_of_lt (Nat.not_le.mp hcalls)]
    exact ⟨_, rfl, rfl⟩

end Encode

end Json

end PlotStream
