import PlotStream.Plot.Code
import PlotStream.Proofs.Value.Texts

/-!
# Code fails exactly on windows that are ill-formed or nested too deeply

A window may hold any value as an operation, as an argument or as the part of a path. It has no code
exactly when one of four things is found in it (`Window.IllFormed`): an operation that is none, an
argument at any depth of models that is none, a part of a path that is no text, or in a constant or a
reference, at any depth, a value that has no JSON; or when its models and constants take more nested calls
than there is room for (`Window.NestsBeyond`). Each piece of code asks for what its own part of the
tree has to be, and a piece that is made of others for what all of them ask.
-/

namespace PlotStream

namespace Value

/-! ## Labels -/

/-- An integer that can be written; a truth value is one as well. -/
inductive IsShortInteger : Value → Prop
  | int {n : Int} (h : n.natAbs < 10 ^ digitLimit) : IsShortInteger (.int n)
  | bool (b : Bool) : IsShortInteger (.bool b)
  | scalar {kind : ElementKind} {n : Int} (h : n.natAbs < 10 ^ digitLimit) :
      IsShortInteger (.scalar kind (.int n))

/-- The labels of an operation are what they should be: methods, constructors and argument names are
text, and data sources are named by integers. -/
def IsLabelledOperation : Value → Prop
  | glyph method src args => method.IsText ∧ src.IsShortInteger ∧ ∀ e ∈ args, e.1.IsText
  | layout ctor args => ctor.IsText ∧ ∀ e ∈ args, e.1.IsText
  | glyphAttrs ctor _ => ctor.IsText
  | _ => True

/-- The constructor and the argument names of a model are text. -/
def IsLabelledModel : Value → Prop
  | model ctor args => ctor.IsText ∧ ∀ e ∈ args, e.1.IsText
  | _ => True

theorem IsShortInteger.interpolate {v : Value} (h : v.IsShortInteger) : Succeeds v.interpolate := by
  have htext {n : Int} (hn : n.natAbs < 10 ^ digitLimit) : Succeeds (integerText n) := by
    rw [integerText, Nat.pow_eq, if_neg (by omega)]
    exact succeeds_ok _
  cases h with
  | int hn => simpa [Value.interpolate, toText, repr, atomText] using htext hn
  | bool b => simp [Value.interpolate, toText, repr, atomText]
  | @scalar kind n hn =>
    cases kind <;> simpa [Value.interpolate, toText, itemText, ElementKind.format?, atomText] using htext hn

/-! ## Arguments -/

/-- Whether a value is one of the four operations. -/
def isOperation : Value → Bool
  | glyph _ _ _ | layout _ _ | glyphAttrs _ _ | figureAttrs _ => true
  | _ => false

/-- The values that an operation is given: its arguments, or what it assigns. -/
def operands : Value → List Value
  | glyph _ _ args | layout _ args => args.map Prod.snd
  | glyphAttrs _ pairs | figureAttrs pairs => pairs.map Prod.snd
  | _ => []

/-- The paths that an operation assigns to. -/
def paths : Value → List (List Value)
  | glyphAttrs _ pairs | figureAttrs pairs => pairs.map Prod.fst
  | _ => []

/-- What a constant or a reference is written from. -/
def payload? : Value → Option Value
  | literal v | field v | constant v => some v
  | _ => Option.none

/-- The values that a model is constructed with. -/
def arguments : Value → List Value
  | model _ args => args.map Prod.snd
  | _ => []

/-- The values that stand where an argument is expected: an argument itself, and at any depth the
arguments of models. -/
def HasArgument : Value → Value → Prop :=
  Within arguments

/-- What is asked of a value that stands where an argument is expected: it is one, and its constant or
reference can be written. -/
def IsSound (v : Value) : Prop :=
  v.isPlotValue = true ∧ ∀ c, v.payload? = some c → c.Throughout IsWritable

mutual

/-- The calls that nest inside of one another where the code of an argument is made. -/
def calls : Value → Nat
  | literal v | field v | constant v => v.depth + writingCalls
  | model _ args => argumentCalls args + modelCalls
  | _ => 0

/-- The calls that the most nested of some arguments takes. -/
def argumentCalls : List (Value × Value) → Nat
  | [] => 0
  | (_, v) :: args => max v.calls (argumentCalls args)

end

theorem forall_hasArgument_model {p : Value → Prop} {ctor : Value} {args : List (Value × Value)} :
    (∀ u, (model ctor args).HasArgument u → p u) ↔
      p (model ctor args) ∧ ∀ e ∈ args, ∀ u, e.2.HasArgument u → p u := by
  rw [HasArgument, forall_within_iff, arguments, List.forall_mem_map]

/-- What is no model has no further arguments. -/
theorem forall_hasArgument_of_lone {p : Value → Prop} {v : Value} (h : v.arguments = []) :
    (∀ u, v.HasArgument u → p u) ↔ p v :=
  forall_within_of_nil h

end Value

namespace Code

/-! ## Arguments -/

variable {room : Nat}

theorem succeeds_json_iff {v : Value} :
    Succeeds (json room v) ↔ v.Throughout Value.IsWritable ∧ v.depth + writingCalls ≤ room := by
  rw [json, Json.write]
  exact succeeds_descend_iff fun room => succeeds_map_iff.trans (Json.encode_unwrap_succeeds_iff v room)

theorem succeeds_ofEntries_iff {args : List (Value × Value)} (hnames : ∀ e ∈ args, e.1.IsText) :
    Succeeds (ofEntries room args) ↔ ∀ v ∈ args.map Prod.snd, Succeeds (ofValue room v) := by
  induction args with
  | nil => simp [ofEntries]
  | cons e args ih =>
    obtain ⟨name, v⟩ := e
    obtain ⟨hname, hnames⟩ := List.forall_mem_cons.mp hnames
    rw [ofEntries, List.map_cons, List.forall_mem_cons,
      succeeds_bind_of_forall fun _ => succeeds_bind_of_forall fun _ => succeeds_map_iff, ih hnames]
    simp [hname.interpolate]

mutual

/-- An argument has code if and only if all is sound that stands where an argument is expected, and there
is room for its nesting. -/
theorem succeeds_ofValue_iff : ∀ (v : Value) (room : Nat), (∀ u, v.HasArgument u → u.IsLabelledModel) →
    (Succeeds (ofValue room v) ↔ (∀ u, v.HasArgument u → u.IsSound) ∧ v.calls ≤ room)
  | .model ctor args => by
    intro room h
    obtain ⟨⟨hctor, hnames⟩, hargs⟩ := Value.forall_hasArgument_model.mp h
    have hentries (room : Nat) : Succeeds (ofEntries room args) ↔
        (∀ e ∈ args, ∀ u, e.2.HasArgument u → u.IsSound) ∧ Value.argumentCalls args ≤ room := by
      rw [succeeds_ofEntries_iff hnames, List.forall_mem_map, succeeds_ofValues_iff args room hargs]
    rw [ofValue, Value.forall_hasArgument_model, succeeds_bind_of_forall fun _ => succeeds_map_iff,
      succeeds_descend_iff hentries, Value.calls]
    simp [hctor.interpolate, Value.IsSound, Value.isPlotValue, Value.payload?]
  | .literal v => by
    intro room _
    rw [Value.forall_hasArgument_of_lone rfl, ofValue, succeeds_json_iff, Value.calls]
    simp [Value.IsSound, Value.isPlotValue, Value.payload?]
  | .field v | .constant v => by
    intro room _
    rw [Value.forall_hasArgument_of_lone rfl, ofValue, succeeds_map_iff,
      succeeds_json_iff, Value.calls]
    simp [Value.IsSound, Value.isPlotValue, Value.payload?]
  | .none | .bool _ | .int _ | .float _ | .text _ | .torn _ | .bytes _ | .complex _ _ | .list _
  | .tuple _ | .set _ | .dict _ | .cyclicList | .cyclicDict | .scalar _ _ | .array _ _ _
  | .glyph _ _ _ | .layout _ _ | .glyphAttrs _ _ | .figureAttrs _ | .source _ => by
    intro room _
    rw [Value.forall_hasArgument_of_lone rfl]
    simp [ofValue, succeeds_bind_iff, Value.IsSound, Value.isPlotValue]

theorem succeeds_ofValues_iff : ∀ (args : List (Value × Value)) (room : Nat),
    (∀ e ∈ args, ∀ u, e.2.HasArgument u → u.IsLabelledModel) →
    ((∀ e ∈ args, Succeeds (ofValue room e.2)) ↔
      (∀ e ∈ args, ∀ u, e.2.HasArgument u → u.IsSound) ∧ Value.argumentCalls args ≤ room)
  | [] => by simp [Value.argumentCalls]
  | (name, v) :: args => by
    intro room h
    obtain ⟨hv, hargs⟩ := List.forall_mem_cons.mp h
    rw [List.forall_mem_cons, List.forall_mem_cons, succeeds_ofValue_iff v room hv,
      succeeds_ofValues_iff args room hargs, Value.argumentCalls, Nat.max_le, and_and_and_comm]

end

/-! ## Operations -/

theorem succeeds_pathParts_iff {path : List Value} (index : Nat) :
    Succeeds (pathParts index path) ↔ ∀ part ∈ path, part.IsText := by
  induction path generalizing index with
  | nil => simp [pathParts]
  | cons part path ih =>
    rw [List.forall_mem_cons]
    unfold pathParts
    split
    · rw [succeeds_map_iff, ih]
      simp [Value.IsText, Value.codes?]
    · rw [succeeds_map_iff, ih]
      simp [Value.IsText, Value.codes?]
    · rw [succeeds_map_iff, ih]
      simp [Value.IsText, Value.codes?]
    · have hnone : ¬ part.IsText := by
        unfold Value.IsText Value.codes?
        split <;> simp_all
      simp [hnone]

theorem succeeds_assignments_iff {indent root : String} {pairs : Assignments} :
    Succeeds (assignments room indent root pairs) ↔
      (∀ path ∈ pairs.map Prod.fst, ∀ part ∈ path, part.IsText) ∧
        ∀ v ∈ pairs.map Prod.snd, Succeeds (ofValue room v) := by
  induction pairs with
  | nil => simp [assignments]
  | cons pair pairs ih =>
    obtain ⟨path, v⟩ := pair
    have haccessor : Succeeds (accessor root path) ↔ ∀ part ∈ path, part.IsText := by
      rw [accessor, succeeds_map_iff, succeeds_pathParts_iff]
    rw [assignments, succeeds_bind_of_forall fun _ => succeeds_bind_of_forall fun _ => succeeds_map_iff,
      ih, haccessor, List.map_cons, List.map_cons, List.forall_mem_cons, List.forall_mem_cons]
    constructor
    · rintro ⟨hparts, hv, hothers, hvs⟩
      exact ⟨⟨hparts, hothers⟩, hv, hvs⟩
    · rintro ⟨⟨hparts, hothers⟩, hv, hvs⟩
      exact ⟨hparts, hv, hothers, hvs⟩

/-- An operation has code if and only if it is one, its paths are text, and its operands have code. -/
theorem succeeds_ofOperation_iff {op : Value} (h : op.IsLabelledOperation) :
    Succeeds (ofOperation room op) ↔
      op.isOperation = true ∧ (∀ path ∈ op.paths, ∀ part ∈ path, part.IsText) ∧
        ∀ v ∈ op.operands, Succeeds (ofValue room v) := by
  cases op with
  | glyph method src args =>
    obtain ⟨hmethod, hsource, hnames⟩ := h
    rw [ofOperation, succeeds_bind_of_forall fun _ => succeeds_bind_of_forall fun _ => succeeds_map_iff,
      succeeds_ofEntries_iff hnames]
    simp [hmethod.interpolate, hsource.interpolate, Value.isOperation, Value.paths, Value.operands]
  | layout ctor args =>
    obtain ⟨hctor, hnames⟩ := h
    rw [ofOperation, succeeds_bind_of_forall fun _ => succeeds_map_iff, succeeds_ofEntries_iff hnames]
    simp [hctor.interpolate, Value.isOperation, Value.paths, Value.operands]
  | glyphAttrs ctor pairs =>
    have hctor : Succeeds ctor.interpolate := Value.IsText.interpolate h
    rw [ofOperation, succeeds_bind_of_forall fun _ => succeeds_map_iff, succeeds_assignments_iff]
    simp [hctor, Value.isOperation, Value.paths, Value.operands]
  | figureAttrs pairs =>
    rw [ofOperation, succeeds_assignments_iff]
    simp [Value.isOperation, Value.paths, Value.operands]
  | _ => simp [ofOperation, succeeds_bind_iff, Value.isOperation]

end Code

/-! ## Figures and windows -/

namespace Figure

/-- The values that a figure is given: the operands of its operations, and its own arguments. -/
def operands (f : Figure) : List Value :=
  f.operations.flatMap Value.operands ++ f.arguments.map Prod.snd

/-- A value stands in a figure where an argument is expected. -/
def HasPlace (f : Figure) (v : Value) : Prop :=
  ∃ a ∈ f.operands, a.HasArgument v

/-- What is taken for granted of a figure: names, methods, constructors and the group are text, data
sources and axes are named by integers, and no constant or reference is without end or has an integer
of too many digits. Operations, arguments and the parts of paths may be anything. -/
structure Ordinary (f : Figure) : Prop where
  group : f.groupId.IsText
  operations : ∀ op ∈ f.operations, op.IsLabelledOperation
  names : ∀ e ∈ f.arguments, e.1.IsText
  links : ∀ e ∈ f.links, e.1.IsText ∧ e.2.IsShortInteger
  models : ∀ v, f.HasPlace v → v.IsLabelledModel
  modest : ∀ v c, f.HasPlace v → v.payload? = some c → c.Throughout fun d => d.isModest = true

/-- Nothing in a figure stands in the way of its code. -/
structure WellFormed (f : Figure) : Prop where
  operations : ∀ op ∈ f.operations, op.isOperation = true
  paths : ∀ op ∈ f.operations, ∀ path ∈ op.paths, ∀ part ∈ path, part.IsText
  places : ∀ v, f.HasPlace v → v.isPlotValue = true
  constants : ∀ v c, f.HasPlace v → v.payload? = some c → c.Throughout fun d => d.isEncodable = true

end Figure

namespace Code

theorem succeeds_ofLink (room : Room) {group range axis : Value} (hgroup : group.IsText)
    (hrange : range.IsText) (haxis : axis.IsShortInteger) :
    Succeeds (ofLink room.calls group range axis) := by
  have hkey : Succeeds (linkKey group axis) := by
    rw [linkKey, succeeds_bind_of_forall fun _ => succeeds_map_iff]
    exact ⟨hgroup.interpolate, haxis.interpolate⟩
  have htext (key : String) : Succeeds (json room.calls (.text key)) := by
    rw [succeeds_json_iff, Value.throughout_of_no_contents rfl, Value.depth_text]
    exact ⟨⟨rfl, rfl⟩, Nat.le_trans (by decide) room.enough⟩
  rw [ofLink, succeeds_bind_of_forall fun _ => succeeds_bind_of_forall fun key =>
    succeeds_map_iff.trans (iff_true_intro (htext key))]
  exact ⟨hrange.interpolate, hkey, trivial⟩

section Figures

variable (room : Room) {f : Figure} (h : f.Ordinary)

include h

/-- The operands of a figure have code if and only if all is sound that stands in it where an argument
is expected, and there is room for all of them. -/
theorem succeeds_operands_iff :
    (∀ v ∈ f.operands, Succeeds (ofValue room.calls v)) ↔
      (∀ u, f.HasPlace u → u.IsSound) ∧ ∀ v ∈ f.operands, v.calls ≤ room.calls := by
  have hone : ∀ v ∈ f.operands, Succeeds (ofValue room.calls v) ↔
      (∀ u, v.HasArgument u → u.IsSound) ∧ v.calls ≤ room.calls :=
    fun v hv => succeeds_ofValue_iff v room.calls fun u hu => h.models u ⟨v, hv, hu⟩
  constructor
  · intro hall
    refine ⟨?_, fun v hv => ((hone v hv).mp (hall v hv)).2⟩
    rintro u ⟨v, hv, hu⟩
    exact ((hone v hv).mp (hall v hv)).1 u hu
  · rintro ⟨hsound, hroom⟩ v hv
    exact (hone v hv).mpr ⟨fun u hu => hsound u ⟨v, hv, hu⟩, hroom v hv⟩

/-- The operations of a figure have code if and only if they are operations, their paths are text, and
their operands have code. -/
theorem succeeds_ofOperations_iff :
    Succeeds (ofOperations room.calls f.operations) ↔
      (∀ op ∈ f.operations, op.isOperation = true) ∧
      (∀ op ∈ f.operations, ∀ path ∈ op.paths, ∀ part ∈ path, part.IsText) ∧
      ∀ v ∈ f.operations.flatMap Value.operands, Succeeds (ofValue room.calls v) := by
  rw [succeeds_row_iff (ofOperation room.calls) (ofOperations room.calls) (· ++ ·) rfl fun _ _ => rfl]
  constructor
  · intro hall
    have hone := fun op hop =>
      (succeeds_ofOperation_iff (h.operations op hop)).mp (hall op hop)
    refine ⟨fun op hop => (hone op hop).1, fun op hop => (hone op hop).2.1, fun v hv => ?_⟩
    obtain ⟨op, hop, hv⟩ := List.mem_flatMap.mp hv
    exact (hone op hop).2.2 v hv
  · rintro ⟨hoperations, hpaths, hoperands⟩ op hop
    rw [succeeds_ofOperation_iff (h.operations op hop)]
    refine ⟨hoperations op hop, hpaths op hop, fun v hv => ?_⟩
    exact hoperands v (List.mem_flatMap.mpr ⟨op, hop, hv⟩)

theorem succeeds_ofLinks : Succeeds (ofLinks room.calls f.groupId f.links) := by
  rw [succeeds_row_iff (fun link : Value × Value => ofLink room.calls f.groupId link.1 link.2)
    (ofLinks room.calls f.groupId) (· ++ ·) rfl fun _ _ => rfl]
  intro link hlink
  exact succeeds_ofLink room h.group (h.links link hlink).1 (h.links link hlink).2

/-- What stands where an argument is expected is sound if and only if it is an argument and its constant
or reference is encodable: that it is modest has been taken for granted. -/
theorem isSound_iff {v : Value} (hv : f.HasPlace v) :
    v.IsSound ↔ v.isPlotValue = true ∧
      ∀ c, v.payload? = some c → c.Throughout fun d => d.isEncodable = true := by
  constructor
  · rintro ⟨hplot, hconstants⟩
    exact ⟨hplot, fun c hc d hd => (hconstants c hc d hd).1⟩
  · rintro ⟨hplot, hconstants⟩
    exact ⟨hplot, fun c hc d hd => ⟨hconstants c hc d hd, h.modest v c hv hc d hd⟩⟩

/-- A figure has code if and only if it is well formed, and there is room for all that it is given. -/
theorem succeeds_ofFigure_iff :
    Succeeds (ofFigure room.calls f) ↔ f.WellFormed ∧ ∀ v ∈ f.operands, v.calls ≤ room.calls := by
  have harguments : Succeeds (ofArguments room.calls f.arguments) ↔
      ∀ v ∈ f.arguments.map Prod.snd, Succeeds (ofValue room.calls v) := by
    rw [ofArguments, succeeds_map_iff, succeeds_ofEntries_iff h.names]
  have hplaces := succeeds_operands_iff room h
  have hsplit : (∀ v ∈ f.operands, Succeeds (ofValue room.calls v)) ↔ _ := List.forall_mem_append
  rw [ofFigure, succeeds_bind_of_forall fun _ => succeeds_bind_of_forall fun _ => succeeds_map_iff,
    succeeds_ofOperations_iff room h, harguments]
  constructor
  · rintro ⟨⟨hoperations, hpaths, hoperands⟩, -, hargs⟩
    obtain ⟨hsound, hroom⟩ := hplaces.mp (hsplit.mpr ⟨hoperands, hargs⟩)
    refine ⟨⟨hoperations, hpaths, fun v hv => (hsound v hv).1, fun v c hv hc => ?_⟩, hroom⟩
    exact ((isSound_iff h hv).mp (hsound v hv)).2 c hc
  · rintro ⟨hwell, hroom⟩
    obtain ⟨hoperands, hargs⟩ := hsplit.mp <| hplaces.mpr ⟨fun u hu =>
      (isSound_iff h hu).mpr ⟨hwell.places u hu, fun c => hwell.constants u c hu⟩, hroom⟩
    exact ⟨⟨hwell.operations, hwell.paths, hoperands⟩, succeeds_ofLinks room h, hargs⟩

end Figures

theorem succeeds_ofWindow_iff (room : Room) {w : Window} (h : ∀ f ∈ w.figures, f.Ordinary) :
    Succeeds (ofWindow room.calls w) ↔
      ∀ f ∈ w.figures, f.WellFormed ∧ ∀ v ∈ f.operands, v.calls ≤ room.calls := by
  rw [ofWindow, succeeds_map_iff,
    succeeds_row_iff (ofFigure room.calls) (ofFigures room.calls) (· ++ ·) rfl fun _ _ => rfl]
  exact forall₂_congr fun f hf => succeeds_ofFigure_iff room (h f hf)

end Code

namespace Window

/-- What makes a window ill-formed: an operation that is none, a value that is no argument where one is
expected, at any depth of models, a part of a path that is no text, or a constant or a reference that
holds, at any depth, a value without JSON. -/
inductive IllFormed (w : Window) : Prop
  | operation {f : Figure} {op : Value} (hf : f ∈ w.figures) (hop : op ∈ f.operations)
      (h : op.isOperation = false)
  | place {f : Figure} {v : Value} (hf : f ∈ w.figures) (hv : f.HasPlace v) (h : v.isPlotValue = false)
  | path {f : Figure} {op part : Value} {path : List Value} (hf : f ∈ w.figures)
      (hop : op ∈ f.operations) (hpath : path ∈ op.paths) (hpart : part ∈ path) (h : part.codes? = none)
  | constant {f : Figure} {v c d : Value} (hf : f ∈ w.figures) (hv : f.HasPlace v)
      (hc : v.payload? = some c) (hd : c.Holds d) (h : d.isEncodable = false)

theorem not_illFormed_iff {w : Window} : ¬ w.IllFormed ↔ ∀ f ∈ w.figures, f.WellFormed := by
  constructor
  · intro hnot f hf
    refine ⟨fun op hop => ?_, fun op hop path hpath part hpart => ?_, fun v hv => ?_,
      fun v c hv hc d hd => ?_⟩
    · exact eq_true_of_ne_false fun h => hnot (.operation hf hop h)
    · exact Option.isSome_iff_ne_none.mpr fun h => hnot (.path hf hop hpath hpart h)
    · exact eq_true_of_ne_false fun h => hnot (.place hf hv h)
    · exact eq_true_of_ne_false fun h => hnot (.constant hf hv hc hd h)
  · intro hwell hill
    cases hill with
    | operation hf hop h => exact Bool.false_ne_true (h.symm.trans ((hwell _ hf).operations _ hop))
    | place hf hv h => exact Bool.false_ne_true (h.symm.trans ((hwell _ hf).places _ hv))
    | path hf hop hpath hpart h =>
      exact Option.isSome_iff_ne_none.mp ((hwell _ hf).paths _ hop _ hpath _ hpart) h
    | constant hf hv hc hd h =>
      exact Bool.false_ne_true (h.symm.trans ((hwell _ hf).constants _ _ hv hc _ hd))

/-- What a window is given takes more nested calls than there is room for: some models are nested too
deeply in each other, or a constant or a reference in itself and in the models around it. -/
def NestsBeyond (room : Nat) (w : Window) : Prop :=
  ∃ f ∈ w.figures, ∃ v ∈ f.operands, room < v.calls

theorem not_nestsBeyond_iff {room : Nat} {w : Window} :
    ¬ w.NestsBeyond room ↔ ∀ f ∈ w.figures, ∀ v ∈ f.operands, v.calls ≤ room := by
  simp [NestsBeyond]

end Window

/-- A figure with a set in a list, in a constant that a model is constructed with. -/
def Figure.withSet : Figure where
  windowId := "w"
  groupId := .text "g"
  operations := [.glyph (.text "line") (.int 0) [(.text "x", .field (.text "x")),
    (.text "range", .model (.text "Range1d") [(.text "start", .literal (.list [.none, .set []]))])]]
  arguments := []
  links := [(.text "x_range", .int 1)]

/-- Three values stand where an argument is expected. -/
theorem Figure.hasPlace_withSet {v : Value} (h : withSet.HasPlace v) :
    v = .field (.text "x") ∨
      v = .model (.text "Range1d") [(.text "start", .literal (.list [.none, .set []]))] ∨
      v = .literal (.list [.none, .set []]) := by
  have hfield : ∀ u, (Value.field (.text "x")).HasArgument u → u = .field (.text "x") :=
    (Value.forall_hasArgument_of_lone rfl).mpr rfl
  have hmodel : ∀ u, (Value.model (.text "Range1d")
      [(.text "start", .literal (.list [.none, .set []]))]).HasArgument u →
      u = .model (.text "Range1d") [(.text "start", .literal (.list [.none, .set []]))] ∨
        u = .literal (.list [.none, .set []]) := by
    rw [Value.forall_hasArgument_model, List.forall_mem_singleton,
      Value.forall_hasArgument_of_lone rfl]
    exact ⟨.inl rfl, .inr rfl⟩
  obtain ⟨a, ha, hv⟩ := h
  simp only [operands, withSet, Value.operands, List.flatMap_singleton, List.map_cons, List.map_nil,
    List.append_nil, List.mem_cons, List.not_mem_nil, or_false] at ha
  rcases ha with rfl | rfl
  · exact .inl (hfield v hv)
  · exact .inr (hmodel v hv)

theorem Figure.ordinary_withSet : withSet.Ordinary where
  group := rfl
  operations := by
    simp only [withSet, List.forall_mem_singleton]
    refine ⟨rfl, .int (Nat.pow_pos (by decide)), ?_⟩
    simp [Value.IsText, Value.codes?]
  names := by simp [withSet]
  links := by
    simp only [withSet, List.forall_mem_singleton]
    exact ⟨rfl, .int (Nat.one_lt_pow (by decide) (by decide))⟩
  models := by
    intro v hv
    rcases hasPlace_withSet hv with rfl | rfl | rfl <;>
      simp [Value.IsLabelledModel, Value.IsText, Value.codes?]
  modest := by
    have hlone {v : Value} (hcontents : v.contents = []) (hv : v.isModest = true) :
        v.Throughout fun d => d.isModest = true := (Value.throughout_of_no_contents hcontents).mpr hv
    intro v c hv hc
    rcases hasPlace_withSet hv with rfl | rfl | rfl
    · obtain rfl := Option.some.inj hc
      exact hlone rfl rfl
    · cases hc
    · obtain rfl := Option.some.inj hc
      rw [Value.throughout_iff]
      simp only [Value.contents, List.forall_mem_cons]
      exact ⟨rfl, hlone rfl rfl, hlone rfl rfl, by simp⟩

namespace Value

/-- Nothing stands in the way of writing nested lists but their nesting. -/
theorem throughout_wrapped {p : Value → Prop} (h : ∀ items, p (list items)) (n : Nat) :
    (wrapped n).Throughout p := by
  induction n with
  | zero => exact (throughout_of_no_contents rfl).mpr (h [])
  | succ n ih =>
    rw [wrapped, throughout_iff, contents, List.forall_mem_singleton]
    exact ⟨h _, ih⟩

end Value

namespace Figure

/-- A figure with an empty list in so many lists for an argument. -/
def wrapped (n : Nat) : Figure where
  windowId := "a"
  groupId := .text "g"
  operations := []
  arguments := [(.text "x", .literal (.wrapped n))]
  links := []

theorem hasPlace_wrapped {n : Nat} {v : Value} (h : (wrapped n).HasPlace v) :
    v = .literal (.wrapped n) := by
  obtain ⟨a, ha, hv⟩ := h
  obtain rfl : a = .literal (.wrapped n) := by simpa [operands, wrapped] using ha
  exact ((Value.forall_hasArgument_of_lone rfl).mpr rfl v hv).symm

theorem ordinary_wrapped (n : Nat) : (wrapped n).Ordinary where
  group := rfl
  operations := by simp [wrapped]
  names := by simp [wrapped, Value.IsText, Value.codes?]
  links := by simp [wrapped]
  models := by
    intro v hv
    rw [hasPlace_wrapped hv]
    trivial
  modest := by
    intro v c hv hc
    rw [hasPlace_wrapped hv] at hc
    obtain rfl := Option.some.inj hc
    exact Value.throughout_wrapped (fun _ => rfl) n

theorem wellFormed_wrapped (n : Nat) : (wrapped n).WellFormed where
  operations := by simp [wrapped]
  paths := by simp [wrapped]
  places := by
    intro v hv
    rw [hasPlace_wrapped hv]
    rfl
  constants := by
    intro v c hv hc
    rw [hasPlace_wrapped hv] at hc
    obtain rfl := Option.some.inj hc
    exact Value.throughout_wrapped (fun _ => rfl) n

end Figure

theorem Code.ofWindow_wrapped (room : Room) {n : Nat} (h : room.calls < n + 6) :
    ∃ fault, ofWindow room.calls ⟨"a", .text "g", [], [.wrapped n]⟩ = .error fault := by
  rw [exists_error_iff, succeeds_ofWindow_iff room (by simpa using Figure.ordinary_wrapped n)]
  intro hall
  have hcalls := (hall _ (List.mem_singleton.mpr rfl)).2 (.literal (.wrapped n))
    (by simp [Figure.operands, Figure.wrapped])
  simp only [Value.calls, Value.depth_wrapped, writingCalls] at hcalls
  omega

end PlotStream
