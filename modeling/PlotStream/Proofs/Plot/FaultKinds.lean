import PlotStream.Proofs.Json.Depth
import PlotStream.Session.Procedure

/-!
# What can go wrong with data

Values are turned into text, JSON and code in many places, and all of them fail in few ways: a value
has the wrong type or the wrong form, is out of range or nested too deeply (`Fault.IsOfData`). Hence
the script of a group never fails as a send or a check of the group does, nor as if it had been
cancelled (`Group.isOfScript`).
-/

namespace PlotStream

/-- A fault of type, form, range or nesting. -/
def Fault.IsOfData (fault : Fault) : Prop :=
  fault.kind = .type ∨ fault.kind = .value ∨ fault.kind = .overflow ∨ fault.kind = .recursion

/-- A result that can only be a fault of data, if it is one. -/
def FailsOnData {α : Type} (r : Except Fault α) : Prop :=
  ∀ fault, r = .error fault → fault.IsOfData

namespace FailsOnData

variable {α β : Type}

theorem ok (a : α) : FailsOnData (.ok a) := nofun

theorem pure (a : α) : FailsOnData (Pure.pure a : Except Fault α) := nofun

theorem error {fault : Fault} (h : fault.IsOfData) : FailsOnData (.error fault : Except Fault α) := by
  rintro _ ⟨⟩
  exact h

theorem bind {r : Except Fault α} {f : α → Except Fault β} (hr : FailsOnData r)
    (hf : ∀ a, FailsOnData (f a)) : FailsOnData (r >>= f) := by
  cases r with
  | ok a => exact hf a
  | error fault => exact .error (hr fault rfl)

theorem descend {fault : Fault} (h : fault.IsOfData) {calls room : Nat} {inner : Nat → Except Fault α}
    (hinner : ∀ room, FailsOnData (inner room)) : FailsOnData (descend fault calls room inner) := by
  unfold PlotStream.descend
  split
  · exact hinner _
  · exact .error h

theorem mapM_id {rs : List (Except Fault α)} (h : ∀ r ∈ rs, FailsOnData r) :
    FailsOnData (rs.mapM id) := by
  induction rs with
  | nil => exact .pure []
  | cons r rs ih =>
    rw [List.mapM_cons]
    refine (h r (List.mem_cons_self ..)).bind fun a => ?_
    exact (ih fun r hr => h r (List.mem_cons_of_mem _ hr)).bind fun as => .pure _

end FailsOnData

/-- Only items of an array are shown. -/
theorem Axis.mem_select {α : Type} {shorten : Bool} {shape : List Nat} {items : List α} {a : α}
    (h : a ∈ Axis.select shorten shape items) : a ∈ items := by
  induction shape generalizing items with
  | nil => exact h
  | cons n shape ih =>
    obtain ⟨i, -, ha⟩ := List.mem_flatMap.mp h
    exact List.mem_of_mem_drop (List.mem_of_mem_take (ih ha))

theorem failsOnData_integerText (n : Int) : FailsOnData (integerText n) := by
  unfold integerText
  split
  · exact .error (.inr (.inl rfl))
  · exact .ok _

/-! ## Values as text -/

namespace Value

theorem failsOnData_atomText (v : Value) : FailsOnData v.atomText := by
  cases v with
  | int n => exact failsOnData_integerText n
  | _ => exact .ok _

theorem failsOnData_itemText (kind : ElementKind) (item : Value) :
    FailsOnData (itemText kind item) := by
  unfold itemText
  split <;> first | exact .ok _ | exact failsOnData_atomText _

theorem failsOnData_scalarRepr (kind : ElementKind) (item : Value) :
    FailsOnData (scalarRepr kind item) := by
  unfold scalarRepr
  split
  · exact .ok _
  · exact (failsOnData_itemText kind item).bind fun _ => .pure _

theorem failsOnData_objectWord {isList : Bool} {shown : Except Fault String}
    (h : FailsOnData shown) : FailsOnData (objectWord isList shown) := by
  unfold objectWord
  split
  · exact h.bind fun _ => .pure _
  · exact h

/-- The items of an array of objects fail as they do on their own. -/
theorem failsOnData_objects {shape : List Nat} {words : List (Except Fault String)}
    (h : ∀ r ∈ words, FailsOnData r) : FailsOnData ((shownItems shape words).mapM id) :=
  .mapM_id fun r hr => h r (Axis.mem_select hr)

mutual

theorem failsOnData_repr : ∀ v : Value, FailsOnData v.repr
  | .list items => by
    rw [repr]
    exact (failsOnData_reprAll items).bind fun _ => .pure _
  | .tuple items => by
    rw [repr]
    exact (failsOnData_reprAll items).bind fun _ => .pure _
  | .set [] => .pure _
  | .set (v :: vs) => by
    rw [repr]
    · exact (failsOnData_reprAll (v :: vs)).bind fun _ => .pure _
    · exact nofun
  | .dict entries => by
    rw [repr]
    exact (failsOnData_reprEntries entries).bind fun _ => .pure _
  | .scalar kind item => by
    rw [repr]
    exact failsOnData_scalarRepr kind item
  | .array kind shape items => by
    cases kind with
    | object =>
      rw [repr]
      exact (failsOnData_objects (failsOnData_objectWords items)).bind fun _ => .pure _
    | _ => exact .pure _
  | .literal v => by
    rw [repr]
    exact (failsOnData_repr v).bind fun _ => .pure _
  | .field name => by
    rw [repr]
    exact (failsOnData_repr name).bind fun _ => .pure _
  | .constant name => by
    rw [repr]
    exact (failsOnData_repr name).bind fun _ => .pure _
  | .model ctor args => by
    rw [repr]
    exact (failsOnData_repr ctor).bind fun _ => (failsOnData_reprPairs args).bind fun _ => .pure _
  | .glyph method src args => by
    rw [repr]
    exact (failsOnData_repr method).bind fun _ => (failsOnData_repr src).bind fun _ =>
      (failsOnData_reprPairs args).bind fun _ => .pure _
  | .layout ctor args => by
    rw [repr]
    exact (failsOnData_repr ctor).bind fun _ => (failsOnData_reprPairs args).bind fun _ => .pure _
  | .glyphAttrs ctor pairs => by
    rw [repr]
    exact (failsOnData_repr ctor).bind fun _ => (failsOnData_reprPaths pairs).bind fun _ => .pure _
  | .figureAttrs pairs => by
    rw [repr]
    exact (failsOnData_reprPaths pairs).bind fun _ => .pure _
  | .source columns => by
    rw [repr]
    exact (failsOnData_reprNames columns).bind fun _ => .pure _
  | .cyclicList | .cyclicDict => .pure _
  | .none => failsOnData_atomText _
  | .bool _ => failsOnData_atomText _
  | .int n => failsOnData_atomText (.int n)
  | .float _ => failsOnData_atomText _
  | .text _ => failsOnData_atomText _
  | .torn _ => failsOnData_atomText _
  | .bytes _ => failsOnData_atomText _
  | .complex _ _ => failsOnData_atomText _

theorem failsOnData_reprAll : ∀ vs : List Value, FailsOnData (reprAll vs)
  | [] => .pure _
  | v :: vs => by
    rw [reprAll]
    exact (failsOnData_repr v).bind fun _ => (failsOnData_reprAll vs).bind fun _ => .pure _

theorem failsOnData_objectWords : ∀ vs : List Value, ∀ r ∈ objectWords vs, FailsOnData r
  | [] => nofun
  | v :: vs => by
    intro r hr
    rw [objectWords] at hr
    rcases List.mem_cons.mp hr with rfl | hr
    · exact failsOnData_objectWord (failsOnData_repr v)
    · exact failsOnData_objectWords vs r hr

theorem failsOnData_reprEntries : ∀ es : List (Value × Value), FailsOnData (reprEntries es)
  | [] => .pure _
  | (k, v) :: es => by
    rw [reprEntries]
    exact (failsOnData_repr k).bind fun _ => (failsOnData_repr v).bind fun _ =>
      (failsOnData_reprEntries es).bind fun _ => .pure _

theorem failsOnData_reprPairs : ∀ es : List (Value × Value), FailsOnData (reprPairs es)
  | [] => .pure _
  | (k, v) :: es => by
    rw [reprPairs]
    exact (failsOnData_repr k).bind fun _ => (failsOnData_repr v).bind fun _ =>
      (failsOnData_reprPairs es).bind fun _ => .pure _

theorem failsOnData_reprPaths : ∀ es : List (List Value × Value), FailsOnData (reprPaths es)
  | [] => .pure _
  | (p, v) :: es => by
    rw [reprPaths]
    exact (failsOnData_reprAll p).bind fun _ => (failsOnData_repr v).bind fun _ =>
      (failsOnData_reprPaths es).bind fun _ => .pure _

theorem failsOnData_reprNames : ∀ cs : List (Value × Column), FailsOnData (reprNames cs)
  | [] => .pure _
  | (k, _) :: cs => by
    rw [reprNames]
    exact (failsOnData_repr k).bind fun _ => (failsOnData_reprNames cs).bind fun _ => .pure _

end

mutual

theorem failsOnData_toText : ∀ v : Value, FailsOnData v.toText
  | .text _ => .ok _
  | .scalar kind item => by
    unfold toText
    split <;> first
      | contradiction
      | exact .ok _
      | exact failsOnData_itemText _ _
      | exact failsOnData_repr _
  | .array kind [] items => by
    rw [toText]
    exact failsOnData_loneText kind items
  | .array kind (n :: shape) items => by
    cases kind with
    | object =>
      rw [toText]
      · exact (failsOnData_objects (failsOnData_objectWords items)).bind fun _ => .pure _
      · exact nofun
    | _ => exact .ok _
  | .none | .bool _ | .int _ | .float _ | .torn _ | .bytes _ | .complex _ _ | .list _ | .tuple _
  | .set _ | .dict _ | .cyclicList | .cyclicDict | .literal _ | .field _ | .constant _ | .model _ _
  | .glyph _ _ _ | .layout _ _ | .glyphAttrs _ _ | .figureAttrs _ | .source _ => by
    exact failsOnData_repr _

theorem failsOnData_loneText (kind : ElementKind) : ∀ vs : List Value, FailsOnData (loneText kind vs)
  | [] => .ok _
  | [v] => by
    have hv := failsOnData_toText v
    unfold loneText
    split
    · split
      · exact .ok _
      · exact failsOnData_scalarRepr _ _
    · exact failsOnData_scalarRepr _ _
    · exact .ok _
    · rename_i heq
      cases heq
      split
      · exact hv
      · exact failsOnData_itemText _ _
    · exact .ok _
  | _ :: _ :: _ => by
    unfold loneText
    split <;> first | exact .ok _ | (rename_i h; cases h)

end

mutual

theorem failsOnData_interpolate : ∀ v : Value, FailsOnData v.interpolate
  | .scalar kind item => by
    unfold interpolate
    split <;> first | contradiction | exact .ok _ | exact failsOnData_toText _
  | .array kind [] items => by
    rw [interpolate]
    exact failsOnData_loneInterpolation kind items
  | .array kind (n :: shape) items => by
    exact failsOnData_toText _
  | .none | .bool _ | .int _ | .float _ | .text _ | .torn _ | .bytes _ | .complex _ _ | .list _
  | .tuple _ | .set _ | .dict _ | .cyclicList | .cyclicDict | .literal _ | .field _ | .constant _
  | .model _ _ | .glyph _ _ _ | .layout _ _ | .glyphAttrs _ _ | .figureAttrs _ | .source _ => by
    exact failsOnData_toText _

theorem failsOnData_loneInterpolation (kind : ElementKind) :
    ∀ vs : List Value, FailsOnData (loneInterpolation kind vs)
  | [] => .ok _
  | [v] => by
    have hv := failsOnData_interpolate v
    unfold loneInterpolation
    split
    · exact .ok _
    · exact .ok _
    · exact .ok _
    · exact .ok _
    · rename_i heq
      cases heq
      split
      · exact hv
      · exact failsOnData_itemText _ _
    · exact .ok _
  | _ :: _ :: _ => by
    unfold loneInterpolation
    split <;> first | exact .ok _ | (rename_i h; cases h)

end

end Value

/-! ## JSON -/

namespace Json

theorem failsOnData_intJson (n : Int) : FailsOnData (intJson n) :=
  (failsOnData_integerText n).bind fun _ => .pure _

theorem failsOnData_memberName (key : Value) : FailsOnData (memberName key) := by
  unfold memberName
  split
  · exact .ok _
  · split
    · exact .ok _
    · exact .ok _
    · exact (failsOnData_intJson _).bind fun _ => .pure _
    · exact .ok _
    · exact .ok _
    · exact .error (.inl rfl)

theorem failsOnData_atomJson (v : Value) : FailsOnData (atomJson v) := by
  cases v with
  | int n => exact failsOnData_intJson n
  | none | bool | float | text | torn => exact .ok _
  | _ => exact .error (.inl rfl)

mutual

theorem failsOnData_encode (how : Scalars) : ∀ (v : Value) (room : Nat), FailsOnData (encode how room v)
  | .list items | .tuple items => by
    intro room
    rw [encode]
    exact .descend (.inr (.inr (.inr rfl))) fun room =>
      (failsOnData_encodeItems how items room).bind fun _ => .pure _
  | .dict entries => by
    intro room
    rw [encode]
    exact .descend (.inr (.inr (.inr rfl))) fun room =>
      (failsOnData_encodeEntries how entries room).bind fun _ => .pure _
  | .cyclicList | .cyclicDict => fun _ => .error (.inr (.inl rfl))
  | .scalar kind item => by
    intro room
    rcases scalar_cases kind item with ⟨rfl, x, rfl⟩ | ⟨width, rfl⟩ | ⟨-, hencode⟩
    · exact .ok _
    · rw [encode]
      exact failsOnData_encode how item room
    · rw [hencode]
      split
      · exact .descend (.inr (.inr (.inr rfl))) (failsOnData_encode how item)
      · exact .error (.inl rfl)
  | .array kind shape items => by
    intro room
    rw [encode]
    split
    · exact .descend (.inr (.inr (.inr rfl))) fun room =>
        (failsOnData_encodeItems how items room).bind fun _ => .pure _
    · exact .error (.inl rfl)
  | .none | .bool _ | .int _ | .float _ | .text _ | .torn _ | .bytes _ | .complex _ _ | .set _
  | .literal _ | .field _ | .constant _ | .model _ _ | .glyph _ _ _ | .layout _ _ | .glyphAttrs _ _
  | .figureAttrs _ | .source _ =>
    fun _ => failsOnData_atomJson _

theorem failsOnData_encodeItems (how : Scalars) :
    ∀ (vs : List Value) (room : Nat), FailsOnData (encodeItems how room vs)
  | [] => fun _ => .pure _
  | v :: vs => by
    intro room
    rw [encodeItems]
    exact (failsOnData_encode how v room).bind fun _ =>
      (failsOnData_encodeItems how vs room).bind fun _ => .pure _

theorem failsOnData_encodeEntries (how : Scalars) :
    ∀ (es : List (Value × Value)) (room : Nat), FailsOnData (encodeEntries how room es)
  | [] => fun _ => .pure _
  | (k, v) :: es => by
    intro room
    rw [encodeEntries]
    exact (failsOnData_memberName k).bind fun _ => (failsOnData_encode how v room).bind fun _ =>
      (failsOnData_encodeEntries how es room).bind fun _ => .pure _

end

theorem failsOnData_write (how : Scalars) (room : Nat) (v : Value) : FailsOnData (write how room v) :=
  .descend (.inr (.inr (.inr rfl))) fun room => (failsOnData_encode how v room).bind fun _ => .pure _

end Json

/-! ## Code -/

namespace Code

open Value

mutual

theorem failsOnData_ofValue : ∀ (v : Value) (room : Nat), FailsOnData (ofValue room v)
  | .literal v => by
    intro room
    rw [ofValue]
    exact Json.failsOnData_write _ _ v
  | .field name | .constant name => by
    intro room
    rw [ofValue]
    exact (Json.failsOnData_write _ _ name).bind fun _ => .pure _
  | .model ctor args => by
    intro room
    rw [ofValue]
    have hentries : FailsOnData (descend .tooManyCalls modelCalls room fun room => ofEntries room args) :=
      .descend (.inr (.inr (.inr rfl))) (failsOnData_ofEntries args)
    exact (failsOnData_interpolate ctor).bind fun _ => hentries.bind fun _ => .pure _
  | .none | .bool _ | .int _ | .float _ | .text _ | .torn _ | .bytes _ | .complex _ _ | .list _
  | .tuple _ | .set _ | .dict _ | .cyclicList | .cyclicDict | .scalar _ _ | .array _ _ _
  | .glyph _ _ _ | .layout _ _ | .glyphAttrs _ _ | .figureAttrs _ | .source _ =>
    fun _ => (failsOnData_repr _).bind fun _ => .error (.inl rfl)

theorem failsOnData_ofEntries :
    ∀ (args : List (Value × Value)) (room : Nat), FailsOnData (ofEntries room args)
  | [] => fun _ => .pure _
  | (name, v) :: args => by
    intro room
    rw [ofEntries]
    exact (failsOnData_interpolate name).bind fun _ => (failsOnData_ofValue v room).bind fun _ =>
      (failsOnData_ofEntries args room).bind fun _ => .pure _

end

theorem failsOnData_pathParts (index : Nat) (path : List Value) :
    FailsOnData (pathParts index path) := by
  induction path generalizing index with
  | nil => exact .pure _
  | cons part parts ih =>
    unfold pathParts
    split
    · exact (ih _).bind fun _ => .pure _
    · exact (ih _).bind fun _ => .pure _
    · exact (ih _).bind fun _ => .pure _
    · exact .error (.inl rfl)

variable (room : Nat)

theorem failsOnData_assignments (indent root : String) (pairs : Assignments) :
    FailsOnData (assignments room indent root pairs) := by
  induction pairs with
  | nil => exact .pure _
  | cons pair rest ih =>
    have htarget : FailsOnData (accessor root pair.1) :=
      (failsOnData_pathParts 1 pair.1).bind fun _ => .pure _
    exact htarget.bind fun _ => (failsOnData_ofValue pair.2 room).bind fun _ => ih.bind fun _ => .pure _

theorem failsOnData_ofOperation (op : Value) : FailsOnData (ofOperation room op) := by
  unfold ofOperation
  split
  · exact (failsOnData_interpolate _).bind fun _ => (failsOnData_ofEntries _ _).bind fun _ =>
      (failsOnData_interpolate _).bind fun _ => .pure _
  · exact (failsOnData_interpolate _).bind fun _ => (failsOnData_ofEntries _ _).bind fun _ => .pure _
  · exact (failsOnData_interpolate _).bind fun _ =>
      (failsOnData_assignments _ _ _ _).bind fun _ => .pure _
  · exact failsOnData_assignments _ _ _ _
  · exact (failsOnData_repr _).bind fun _ => .error (.inl rfl)

theorem failsOnData_ofLink (group range axis : Value) :
    FailsOnData (ofLink room group range axis) := by
  have hkey : FailsOnData (linkKey group axis) :=
    (failsOnData_interpolate group).bind fun _ => (failsOnData_interpolate axis).bind fun _ => .pure _
  exact (failsOnData_interpolate range).bind fun _ => hkey.bind fun _ =>
    (Json.failsOnData_write _ _ _).bind fun _ => .pure _

theorem failsOnData_ofOperations (ops : List Value) : FailsOnData (ofOperations room ops) := by
  induction ops with
  | nil => exact .pure _
  | cons op ops ih => exact (failsOnData_ofOperation room op).bind fun _ => ih.bind fun _ => .pure _

theorem failsOnData_ofLinks (group : Value) (links : List (Value × Value)) :
    FailsOnData (ofLinks room group links) := by
  induction links with
  | nil => exact .pure _
  | cons link links ih =>
    exact (failsOnData_ofLink room group link.1 link.2).bind fun _ => ih.bind fun _ => .pure _

theorem failsOnData_ofFigure (f : Figure) : FailsOnData (ofFigure room f) := by
  have harguments : FailsOnData (ofArguments room f.arguments) :=
    (failsOnData_ofEntries f.arguments room).bind fun _ => .pure _
  exact (failsOnData_ofOperations _ _).bind fun _ => (failsOnData_ofLinks _ _ _).bind fun _ =>
    harguments.bind fun _ => .pure _

theorem failsOnData_ofFigures (fs : List Figure) : FailsOnData (ofFigures room fs) := by
  induction fs with
  | nil => exact .pure _
  | cons f fs ih => exact (failsOnData_ofFigure room f).bind fun _ => ih.bind fun _ => .pure _

theorem failsOnData_ofWindow (w : Window) : FailsOnData (ofWindow room w) :=
  (failsOnData_ofFigures room w.figures).bind fun _ => .pure _

end Code

/-! ## The script of a group -/

theorem Value.failsOnData_toMebibytes_int (n : Int) : FailsOnData (Value.int n).toMebibytes := by
  have hkibi : (Value.int n).kibi = (do return Value.float (← Double.kibiOfInt n)) := by
    rw [kibi] <;> first | rfl | exact nofun
  have hquotient : FailsOnData (Double.kibiOfInt n) := by
    simp only [Double.kibiOfInt]
    split
    · exact .ok _
    · exact .error (.inr (.inr (.inl rfl)))
  rw [toMebibytes, hkibi]
  generalize Double.kibiOfInt n = quotient at hquotient
  cases quotient with
  | ok x => exact .ok _
  | error fault => exact .error (hquotient fault rfl)

/-- The amount of data can be told unless it is out of range. -/
theorem Group.failsOnData_announcement (room : Room) (g : Group) :
    FailsOnData (g.announcement room) := by
  have htext : FailsOnData (dataSizeText (.int g.byteSize)) :=
    (Value.failsOnData_toMebibytes_int _).bind fun _ => .pure _
  have hmessage : FailsOnData (Message.dataSize (.int g.byteSize)) := htext.bind fun _ => .pure _
  exact hmessage.bind fun m => Json.failsOnData_write _ _ _

/-- What the actions of a group can be: sends, debug records and failures on data. -/
inductive Action.IsOfScript : Action → Prop
  | send (f : Frame) : IsOfScript (.send f)
  | log {r : LogRecord} (h : r.level = .debug) : IsOfScript (.log r)
  | fail {fault : Fault} (h : fault.IsOfData) : IsOfScript (.fail fault)

theorem Action.isOfScript_sendText {text : Except Fault String} (h : FailsOnData text) :
    (sendText text).IsOfScript := by
  cases text with
  | ok s => exact .send _
  | error fault => exact .fail (h fault rfl)

variable {room : Room}

theorem Window.isOfScript {w : Window} {a : Action} (h : a ∈ w.script room) : a.IsOfScript := by
  rcases List.mem_append.mp h with h | h
  · obtain ⟨f, -, rfl⟩ := List.mem_map.mp h
    exact .send f
  · split at h
    · rename_i code hcode
      rcases List.mem_cons.mp h with rfl | h
      · exact .log rfl
      · rw [List.mem_singleton.mp h]
        exact Action.isOfScript_sendText (Json.failsOnData_write _ _ _)
    · rename_i fault hcode
      rw [List.mem_singleton.mp h]
      exact .fail (Code.failsOnData_ofWindow _ w _ hcode)

/-- The script of a group sends, and fails on its data only. -/
theorem Group.isOfScript {g : Group} {a : Action} (h : a ∈ g.script room) : a.IsOfScript := by
  rcases List.mem_cons.mp h with rfl | h
  · exact Action.isOfScript_sendText (g.failsOnData_announcement room)
  · obtain ⟨w, -, hw⟩ := List.mem_flatMap.mp h
    exact Window.isOfScript hw

theorem Group.isOfData_of_fail {g : Group} {fault : Fault} (h : .fail fault ∈ g.script room) :
    fault.IsOfData := by
  cases Group.isOfScript h with
  | fail hdata => exact hdata

end PlotStream
