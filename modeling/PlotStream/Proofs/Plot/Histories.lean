import PlotStream.Plot.Builder
import PlotStream.Proofs.Json.Legible

/-!
# What the calls of a procedure leave behind

A group is filled by calls, of which those that fail change nothing (`Group.attemptAll`). Each figure
has exactly what the calls on it say: `BuilderCall.opening?` is what the call that opens a figure gives
it, `BuilderCall.part?` what a later call adds, and `Figure.FilledBy` says how the parts make up the
figure. Operations stay in the order of the calls. An argument or a linked range keeps the place where
it was first named and has the value that it was last given (`Entries.settled`).

What a call does to a group is said once, by `Group.Effect`; everything else follows from it.
-/

namespace PlotStream

/-! ## First place, last value -/

namespace Entries

variable {α : Type}

/-- The value that entries give to a key, or else the given one. -/
def lastValue (key : Value) (x : α) (es : List (Value × α)) : α :=
  ((es.filter fun e => key.keyEqual e.1).getLast?.map Prod.snd).getD x

/-- Every key once, in the order in which the keys first come, and with the value that it is last
given. -/
def settled : List (Value × α) → Entries α
  | [] => []
  | e :: es => (e.1, lastValue e.1 e.2 es) :: settled (es.filter fun e' => !e.1.keyEqual e'.1)
termination_by es => es.length
decreasing_by
  rw [List.length_unattach]
  exact Nat.lt_succ_of_le ((List.length_filter_le ..).trans_eq List.length_attach)

theorem lastValue_cons (key : Value) (x : α) (e : Value × α) (es : List (Value × α)) :
    lastValue key x (e :: es) = lastValue key (if key.keyEqual e.1 then e.2 else x) es := by
  unfold lastValue
  cases hkey : key.keyEqual e.1 with
  | false => simp [hkey]
  | true =>
    rw [List.filter_cons_of_pos (by exact hkey), List.getLast?_cons]
    cases (es.filter fun e => key.keyEqual e.1).getLast? <;> rfl

/-- The entry that stands first takes the values for its key and leaves the rest to the others. -/
theorem foldl_insert_cons (e : Value × α) (acc : Entries α) (es : List (Value × α)) :
    es.foldl (fun acc e => insert acc e.1 e.2) (e :: acc) =
      (e.1, lastValue e.1 e.2 es) ::
        (es.filter fun e' => !e.1.keyEqual e'.1).foldl (fun acc e => insert acc e.1 e.2) acc := by
  induction es generalizing e acc with
  | nil => rfl
  | cons e' es ih =>
    rw [List.foldl_cons, insert, lastValue_cons]
    cases hkey : e.1.keyEqual e'.1 with
    | true =>
      rw [if_pos rfl, if_pos rfl, ih, List.filter_cons_of_neg (by simp [hkey])]
    | false =>
      rw [if_neg (by simp), if_neg (by simp), ih, List.filter_cons_of_pos (by simp [hkey]),
        List.foldl_cons]

/-- Entries that are put in one after the other settle. -/
theorem ofList_eq_settled (es : List (Value × α)) : ofList es = settled es := by
  induction h : es.length using Nat.strongRecOn generalizing es with
  | ind n ih =>
    cases es with
    | nil => rw [settled]; rfl
    | cons e es =>
      have hlen : (es.filter fun e' => !e.1.keyEqual e'.1).length < n := by
        rw [← h]
        exact Nat.lt_succ_of_le (List.length_filter_le ..)
      rw [settled, ← ih _ hlen _ rfl]
      exact foldl_insert_cons e [] es

theorem ofList_append_singleton (es : List (Value × α)) (e : Value × α) :
    ofList (es ++ [e]) = insert (ofList es) e.1 e.2 := by
  simp [ofList]

end Entries

/-! ## Calls and what they say -/

/-- What a call adds to a figure. -/
inductive FigurePart
  | operation (op : Value)
  | setting (name value : Value)
  | link (range axis : Value)

namespace FigurePart

def operation? : FigurePart → Option Value
  | operation op => some op
  | _ => none

def setting? : FigurePart → Option (Value × Value)
  | setting name value => some (name, value)
  | _ => none

def link? : FigurePart → Option (Value × Value)
  | link range axis => some (range, axis)
  | _ => none

end FigurePart

namespace Figure

def add (f : Figure) : FigurePart → Figure
  | .operation op => f.addOperation op
  | .setting name value => f.setArgument name value
  | .link range axis => f.link range axis

/-- A figure of a group that has been opened with some arguments and got some parts since. -/
structure FilledBy (f : Figure) (group : Value) (args : Arguments) (parts : List FigurePart) :
    Prop where
  groupId : f.groupId = group
  operations : f.operations = parts.filterMap FigurePart.operation?
  arguments : f.arguments = Entries.ofList (args ++ parts.filterMap FigurePart.setting?)
  links : f.links = Entries.ofList (parts.filterMap FigurePart.link?)

theorem FilledBy.add {f : Figure} {group : Value} {args : Arguments} {parts : List FigurePart}
    (h : f.FilledBy group args parts) (p : FigurePart) :
    (f.add p).FilledBy group args (parts ++ [p]) := by
  cases p with
  | operation op =>
    refine ⟨h.groupId, ?_, ?_, ?_⟩
    · simp [Figure.add, addOperation, h.operations, FigurePart.operation?]
    · simp [Figure.add, addOperation, h.arguments, FigurePart.setting?, List.filterMap_cons]
    · simp [Figure.add, addOperation, h.links, FigurePart.link?, List.filterMap_cons]
  | setting name value =>
    refine ⟨h.groupId, ?_, ?_, ?_⟩
    · simp [Figure.add, setArgument, h.operations, FigurePart.operation?]
    · simp [Figure.add, setArgument, h.arguments, FigurePart.setting?, ← List.append_assoc,
        Entries.ofList_append_singleton]
    · simp [Figure.add, setArgument, h.links, FigurePart.link?, List.filterMap_cons]
  | link range axis =>
    refine ⟨h.groupId, ?_, ?_, ?_⟩
    · simp [Figure.add, Figure.link, h.operations, FigurePart.operation?]
    · simp [Figure.add, Figure.link, h.arguments, FigurePart.setting?, List.filterMap_cons]
    · simp [Figure.add, Figure.link, h.links, FigurePart.link?, Entries.ofList_append_singleton]

end Figure

theorem Window.filledBy_figureWith (w : Window) (args : Arguments) :
    (w.figureWith args).FilledBy w.groupId args [] :=
  ⟨rfl, rfl, by simp [figureWith], rfl⟩

namespace BuilderCall

/-- The figure that a call is made on, by the positions of its window and its own, and what the call
adds to it. -/
def part? : BuilderCall → Option ((Nat × Nat) × FigurePart)
  | .addGlyph i j method source args keywords => do
    let index ← source.toInteger.toOption
    let merged ← (mergeArguments args keywords).toOption
    return ((i, j), .operation (.glyph method (.int index) merged))
  | .addLayout i j ctor args keywords => do
    return ((i, j), .operation (.layout ctor (← (mergeArguments args keywords).toOption)))
  | .setGlyphAttrs i j ctor pairs => do
    return ((i, j), .operation (.glyphAttrs ctor (← pairs.toAssignments.toOption)))
  | .setFigureAttrs i j pairs => do
    return ((i, j), .operation (.figureAttrs (← pairs.toAssignments.toOption)))
  | .setFigureArg i j name value => some ((i, j), .setting name value.asArgument)
  | .linkAxis i j range axis => some ((i, j), .link range axis)
  | .addOperation i j op => some ((i, j), .operation op)
  | _ => none

/-- The window in which a call opens a figure, and the arguments that it constructs the figure with. -/
def opening? : BuilderCall → Option (Nat × Arguments)
  | .newFigure i args keywords => do return (i, ← (mergeArguments args keywords).toOption)
  | _ => none

/-- What calls add to a figure, in order. -/
def parts (i j : Nat) (calls : List BuilderCall) : List FigurePart :=
  calls.filterMap fun c => (c.part?.filter fun p => p.1 = (i, j)).map Prod.snd

/-- What the figures of a window are opened with, in order. -/
def openings (i : Nat) (calls : List BuilderCall) : List Arguments :=
  calls.filterMap fun c => (c.opening?.filter fun o => o.1 = i).map Prod.snd

end BuilderCall

namespace Group

/-- Carry out a call; one that fails changes nothing. -/
def attempt (g : Group) (c : BuilderCall) : Group :=
  match g.call c with
  | .ok (g, _) => g
  | .error _ => g

/-- Carry out calls one after the other. -/
def attemptAll (g : Group) (calls : List BuilderCall) : Group :=
  calls.foldl attempt g

/-- The calls that do not fail, in order. -/
def accepted (g : Group) : List BuilderCall → List BuilderCall
  | [] => []
  | c :: calls =>
    match g.call c with
    | .ok (g, _) => c :: g.accepted calls
    | .error _ => g.accepted calls

/-! ## What a call does -/

def setWindow (g : Group) (i : Nat) (w : Window) : Group :=
  { g with windows := g.windows.set i w }

/-- What a call may do to a group: add a window, count an axis, change the data sources of a window,
open a figure, or add a part to one. -/
inductive Effect (g : Group) (c : BuilderCall) : Group → Prop
  | window (id : String) (ho : c.opening? = none) (hp : c.part? = none) : Effect g c (g.addWindow id)
  | axis (n : Nat) (ho : c.opening? = none) (hp : c.part? = none) :
      Effect g c { g with linkedAxes := n }
  | sources {i : Nat} {w : Window} (hw : g.windows[i]? = some w) (sources : List Source)
      (ho : c.opening? = none) (hp : c.part? = none) : Effect g c (g.setWindow i { w with sources })
  | opening {i : Nat} {w : Window} {args : Arguments} (hw : g.windows[i]? = some w)
      (ho : c.opening? = some (i, args)) (hp : c.part? = none) :
      Effect g c (g.setWindow i (w.addFigure (w.figureWith args)))
  | part {i j : Nat} {w : Window} {f : Figure} {p : FigurePart} (hw : g.windows[i]? = some w)
      (hf : w.figures[j]? = some f) (ho : c.opening? = none) (hp : c.part? = some ((i, j), p)) :
      Effect g c (g.setWindow i { w with figures := w.figures.set j (f.add p) })

end Group

theorem changeAt_ok {α β : Type} {collection : String} {xs ys : List α} {i : Nat} {b : β}
    {f : α → Except Fault (α × β)} (h : changeAt collection xs i f = .ok (ys, b)) :
    ∃ x y, xs[i]? = some x ∧ f x = .ok (y, b) ∧ ys = xs.set i y := by
  unfold changeAt at h
  split at h
  · rename_i x hx
    obtain ⟨⟨y, b'⟩, hf, h⟩ := Json.exists_ok_of_bind h
    obtain ⟨rfl, rfl⟩ := Prod.mk.inj (Except.ok.inj h)
    exact ⟨x, y, hx, hf, rfl⟩
  · cases h

namespace Group

variable {g g' : Group} {c : BuilderCall} {answer : Answer} {i j : Nat}

theorem changeWindow_ok {f : Window → Except Fault (Window × Answer)}
    (h : g.changeWindow i f = .ok (g', answer)) :
    ∃ w w', g.windows[i]? = some w ∧ f w = .ok (w', answer) ∧ g' = g.setWindow i w' := by
  obtain ⟨⟨windows, answer'⟩, hchange, h⟩ := Json.exists_ok_of_bind h
  obtain ⟨w, w', hw, hf, rfl⟩ := changeAt_ok hchange
  obtain ⟨rfl, rfl⟩ := Prod.mk.inj (Except.ok.inj h)
  exact ⟨w, w', hw, hf, rfl⟩

theorem changeFigure_ok {f : Figure → Except Fault (Figure × Answer)}
    (h : g.changeFigure i j f = .ok (g', answer)) :
    ∃ w x x', g.windows[i]? = some w ∧ w.figures[j]? = some x ∧ f x = .ok (x', answer) ∧
      g' = g.setWindow i { w with figures := w.figures.set j x' } := by
  obtain ⟨w, w', hw, hf, rfl⟩ := changeWindow_ok h
  obtain ⟨⟨figures, answer'⟩, hchange, hf⟩ := Json.exists_ok_of_bind hf
  obtain ⟨x, x', hx, hf', rfl⟩ := changeAt_ok hchange
  obtain ⟨rfl, rfl⟩ := Prod.mk.inj (Except.ok.inj hf)
  exact ⟨w, x, x', hw, hx, hf', rfl⟩

/-- A call on a figure adds one part to it. -/
theorem effect_of_changeFigure {f : Figure → Except Fault (Figure × Answer)}
    (h : g.changeFigure i j f = .ok (g', answer)) (ho : c.opening? = none)
    (hpart : ∀ x x', f x = .ok (x', answer) →
      ∃ p, c.part? = some ((i, j), p) ∧ x' = x.add p) : g.Effect c g' := by
  obtain ⟨w, x, x', hw, hx, hf, rfl⟩ := changeFigure_ok h
  obtain ⟨p, hp, rfl⟩ := hpart x x' hf
  exact .part hw hx ho hp

/-- A call does one of these things. The cases are those of the calls. -/
theorem effect_of_call (h : g.call c = .ok (g', answer)) : g.Effect c g' := by
  cases c with
  | newWindow id =>
    obtain ⟨text, -, h⟩ := Json.exists_ok_of_bind h
    obtain ⟨rfl, -⟩ := Prod.mk.inj (Except.ok.inj h)
    exact .window text rfl rfl
  | newLinkedAxis =>
    obtain ⟨rfl, -⟩ := Prod.mk.inj (Except.ok.inj h)
    exact .axis _ rfl rfl
  | addSource i columns =>
    obtain ⟨w, w', hw, hf, rfl⟩ := changeWindow_ok h
    obtain ⟨s, -, hf⟩ := Json.exists_ok_of_bind hf
    obtain ⟨rfl, -⟩ := Prod.mk.inj (Except.ok.inj hf)
    exact .sources hw _ rfl rfl
  | pushFrontSource i columns =>
    obtain ⟨w, w', hw, hf, rfl⟩ := changeWindow_ok h
    obtain ⟨s, -, hf⟩ := Json.exists_ok_of_bind hf
    obtain ⟨rfl, -⟩ := Prod.mk.inj (Except.ok.inj hf)
    exact .sources hw _ rfl rfl
  | onSource i source call =>
    obtain ⟨w, w', hw, hf, rfl⟩ := changeWindow_ok h
    obtain ⟨⟨sources, answer'⟩, -, hf⟩ := Json.exists_ok_of_bind hf
    obtain ⟨rfl, -⟩ := Prod.mk.inj (Except.ok.inj hf)
    exact .sources hw _ rfl rfl
  | newFigure i args keywords =>
    obtain ⟨w, w', hw, hf, rfl⟩ := changeWindow_ok h
    obtain ⟨-, -, hf⟩ := Json.exists_ok_of_bind hf
    obtain ⟨merged, hmerged, hf⟩ := Json.exists_ok_of_bind hf
    obtain ⟨rfl, -⟩ := Prod.mk.inj (Except.ok.inj hf)
    exact .opening hw (by rw [BuilderCall.opening?, hmerged]; rfl) rfl
  | addGlyph i j method source args keywords =>
    refine effect_of_changeFigure h rfl fun x x' hf => ?_
    obtain ⟨-, -, hf⟩ := Json.exists_ok_of_bind hf
    obtain ⟨index, hindex, hf⟩ := Json.exists_ok_of_bind hf
    obtain ⟨merged, hmerged, hf⟩ := Json.exists_ok_of_bind hf
    obtain ⟨rfl, -⟩ := Prod.mk.inj (Except.ok.inj hf)
    exact ⟨_, by rw [BuilderCall.part?, hindex, hmerged]; rfl, rfl⟩
  | addLayout i j ctor args keywords =>
    refine effect_of_changeFigure h rfl fun x x' hf => ?_
    obtain ⟨-, -, hf⟩ := Json.exists_ok_of_bind hf
    obtain ⟨merged, hmerged, hf⟩ := Json.exists_ok_of_bind hf
    obtain ⟨rfl, -⟩ := Prod.mk.inj (Except.ok.inj hf)
    exact ⟨_, by rw [BuilderCall.part?, hmerged]; rfl, rfl⟩
  | setGlyphAttrs i j ctor pairs =>
    refine effect_of_changeFigure h rfl fun x x' hf => ?_
    obtain ⟨assignments, hpairs, hf⟩ := Json.exists_ok_of_bind hf
    obtain ⟨rfl, -⟩ := Prod.mk.inj (Except.ok.inj hf)
    exact ⟨_, by rw [BuilderCall.part?, hpairs]; rfl, rfl⟩
  | setFigureAttrs i j pairs =>
    refine effect_of_changeFigure h rfl fun x x' hf => ?_
    obtain ⟨assignments, hpairs, hf⟩ := Json.exists_ok_of_bind hf
    obtain ⟨rfl, -⟩ := Prod.mk.inj (Except.ok.inj hf)
    exact ⟨_, by rw [BuilderCall.part?, hpairs]; rfl, rfl⟩
  | setFigureArg i j name value =>
    refine effect_of_changeFigure h rfl fun x x' hf => ?_
    obtain ⟨-, -, hf⟩ := Json.exists_ok_of_bind hf
    obtain ⟨rfl, -⟩ := Prod.mk.inj (Except.ok.inj hf)
    exact ⟨_, rfl, rfl⟩
  | linkAxis i j range axis =>
    refine effect_of_changeFigure h rfl fun x x' hf => ?_
    obtain ⟨-, -, hf⟩ := Json.exists_ok_of_bind hf
    obtain ⟨rfl, -⟩ := Prod.mk.inj (Except.ok.inj hf)
    exact ⟨_, rfl, rfl⟩
  | addOperation i j op =>
    refine effect_of_changeFigure h rfl fun x x' hf => ?_
    obtain ⟨rfl, -⟩ := Prod.mk.inj (Except.ok.inj hf)
    exact ⟨_, rfl, rfl⟩

theorem getElem?_setWindow {w v : Window} {k : Nat} (hv : (g.setWindow i w).windows[k]? = some v) :
    (k = i ∧ v = w) ∨ (k ≠ i ∧ g.windows[k]? = some v) := by
  rw [setWindow, List.getElem?_set] at hv
  split at hv
  · rename_i hik
    split at hv
    · exact .inl ⟨hik.symm, (Option.some.inj hv).symm⟩
    · cases hv
  · rename_i hik
    exact .inr ⟨fun hki => hik hki.symm, hv⟩

theorem length_setWindow (g : Group) (i : Nat) (w : Window) :
    (g.setWindow i w).windows.length = g.windows.length :=
  List.length_set ..

end Group

/-! ## What has been said -/

namespace BuilderCall

variable {c : BuilderCall} {calls : List BuilderCall} {i j : Nat}

theorem parts_append_singleton (i j : Nat) (calls : List BuilderCall) (c : BuilderCall) :
    parts i j (calls ++ [c]) =
      parts i j calls ++ ((c.part?.filter fun p => p.1 = (i, j)).map Prod.snd).toList := by
  rw [parts, List.filterMap_append, List.filterMap_cons, List.filterMap_nil, ← parts]
  cases (c.part?.filter fun p => p.1 = (i, j)).map Prod.snd <;> rfl

theorem openings_append_singleton (i : Nat) (calls : List BuilderCall) (c : BuilderCall) :
    openings i (calls ++ [c]) =
      openings i calls ++ ((c.opening?.filter fun o => o.1 = i).map Prod.snd).toList := by
  rw [openings, List.filterMap_append, List.filterMap_cons, List.filterMap_nil, ← openings]
  cases (c.opening?.filter fun o => o.1 = i).map Prod.snd <;> rfl

theorem parts_of_not_target (h : ∀ p, c.part? ≠ some ((i, j), p)) :
    parts i j (calls ++ [c]) = parts i j calls := by
  rw [parts_append_singleton]
  cases hp : c.part? with
  | none => simp
  | some target =>
    have hne : target.1 ≠ (i, j) := fun heq => h target.2 (by rw [hp, ← heq])
    simp [Option.filter, hne]

theorem parts_of_target {p : FigurePart} (h : c.part? = some ((i, j), p)) :
    parts i j (calls ++ [c]) = parts i j calls ++ [p] := by
  simp [parts_append_singleton, h]

theorem openings_of_not_target (h : ∀ args, c.opening? ≠ some (i, args)) :
    openings i (calls ++ [c]) = openings i calls := by
  rw [openings_append_singleton]
  cases ho : c.opening? with
  | none => simp
  | some target =>
    have hne : target.1 ≠ i := fun heq => h target.2 (by rw [ho, ← heq])
    simp [Option.filter, hne]

theorem openings_of_target {args : Arguments} (h : c.opening? = some (i, args)) :
    openings i (calls ++ [c]) = openings i calls ++ [args] := by
  simp [openings_append_singleton, h]

end BuilderCall

/-- A window has the figures that calls have told of. -/
structure Window.Told (w : Window) (group : Value) (i : Nat) (calls : List BuilderCall) : Prop where
  groupId : w.groupId = group
  length : w.figures.length = (BuilderCall.openings i calls).length
  filled : ∀ (j : Nat) (f : Figure), w.figures[j]? = some f →
    ∃ args, (BuilderCall.openings i calls)[j]? = some args ∧
      f.FilledBy group args (BuilderCall.parts i j calls)

namespace Window.Told

variable {w : Window} {group : Value} {i : Nat} {calls : List BuilderCall} {c : BuilderCall}

/-- A call that is none on the figures of a window leaves them as they have been told of. -/
theorem silent (h : w.Told group i calls) {w' : Window} (hgroup : w'.groupId = w.groupId)
    (hfigures : w'.figures = w.figures) (ho : ∀ args, c.opening? ≠ some (i, args))
    (hp : ∀ j p, c.part? ≠ some ((i, j), p)) : w'.Told group i (calls ++ [c]) := by
  refine ⟨hgroup.trans h.groupId, ?_, fun j f hf => ?_⟩
  · rw [hfigures, BuilderCall.openings_of_not_target ho, h.length]
  · rw [hfigures] at hf
    rw [BuilderCall.openings_of_not_target ho, BuilderCall.parts_of_not_target (hp j)]
    exact h.filled j f hf

/-- A figure that is opened has no parts yet. -/
theorem opening (h : w.Told group i calls) {args : Arguments}
    (hnew : BuilderCall.parts i w.figures.length calls = [])
    (ho : c.opening? = some (i, args)) (hp : c.part? = none) :
    (w.addFigure (w.figureWith args)).Told group i (calls ++ [c]) := by
  have hparts (j : Nat) : BuilderCall.parts i j (calls ++ [c]) = BuilderCall.parts i j calls :=
    BuilderCall.parts_of_not_target (by simp [hp])
  refine ⟨h.groupId, ?_, fun j f hf => ?_⟩
  · simp [Window.addFigure, BuilderCall.openings_of_target ho, h.length]
  · rw [hparts, BuilderCall.openings_of_target ho]
    rcases Nat.lt_or_ge j w.figures.length with hj | hj
    · rw [Window.addFigure, List.getElem?_append_left hj] at hf
      obtain ⟨args', hargs, hfilled⟩ := h.filled j f hf
      exact ⟨args', by rw [List.getElem?_append_left (h.length ▸ hj), hargs], hfilled⟩
    · rw [Window.addFigure, List.getElem?_append_right hj, List.getElem?_singleton] at hf
      obtain ⟨hzero, hf⟩ := Option.ite_none_right_eq_some.mp hf
      obtain rfl := Option.some.inj hf
      obtain rfl : j = w.figures.length := by omega
      have hlength := h.length
      refine ⟨args, by rw [List.getElem?_append_right (by omega)]; simp [hlength], ?_⟩
      rw [hnew, ← h.groupId]
      exact w.filledBy_figureWith args

theorem part (h : w.Told group i calls) {j : Nat} {f : Figure} {p : FigurePart}
    (hf : w.figures[j]? = some f) (ho : c.opening? = none) (hp : c.part? = some ((i, j), p)) :
    ({ w with figures := w.figures.set j (f.add p) } : Window).Told group i (calls ++ [c]) := by
  have hopenings : BuilderCall.openings i (calls ++ [c]) = BuilderCall.openings i calls :=
    BuilderCall.openings_of_not_target (by simp [ho])
  refine ⟨h.groupId, by simp [hopenings, h.length], fun j' f' hf' => ?_⟩
  rw [hopenings]
  rw [List.getElem?_set] at hf'
  split at hf'
  · rename_i hj
    subst hj
    split at hf'
    · obtain rfl := Option.some.inj hf'
      obtain ⟨args, hargs, hfilled⟩ := h.filled j f hf
      exact ⟨args, hargs, by rw [BuilderCall.parts_of_target hp]; exact hfilled.add p⟩
    · cases hf'
  · rename_i hj
    rw [BuilderCall.parts_of_not_target (by simp [hp, hj])]
    exact h.filled j' f' hf'

end Window.Told

namespace Group

/-- A group has the windows and figures that calls have told of, and no call told of others. -/
structure Told (g : Group) (group : Value) (calls : List BuilderCall) : Prop where
  id : g.id = group
  windows : ∀ (i : Nat) (w : Window), g.windows[i]? = some w → w.Told group i calls
  unopened : ∀ i, g.windows.length ≤ i → BuilderCall.openings i calls = []
  untouched : ∀ i j, (BuilderCall.openings i calls).length ≤ j → BuilderCall.parts i j calls = []

variable {g g' : Group} {c : BuilderCall} {group : Value} {calls : List BuilderCall}

theorem told_blank (group : Value) : (blank group).Told group [] :=
  ⟨rfl, by simp [blank], fun _ _ => rfl, fun _ _ _ => rfl⟩

/-- What is told of a group without new windows, told window by window. -/
theorem Told.of_windows (h : g.Told group calls) (hid : g'.id = g.id)
    (hlength : g'.windows.length = g.windows.length)
    (hwindows : ∀ (i : Nat) (w : Window), g'.windows[i]? = some w → w.Told group i (calls ++ [c]))
    (ho : ∀ i args, c.opening? = some (i, args) → i < g.windows.length)
    (hp : ∀ i j p, c.part? = some ((i, j), p) →
      j < (BuilderCall.openings i (calls ++ [c])).length) : g'.Told group (calls ++ [c]) := by
  refine ⟨hid.trans h.id, hwindows, fun i hi => ?_, fun i j hj => ?_⟩
  · rw [BuilderCall.openings_of_not_target fun args heq => ?_]
    · exact h.unopened i (by omega)
    · exact absurd (ho i args heq) (by omega)
  · rw [BuilderCall.parts_of_not_target fun p heq => ?_]
    · refine h.untouched i j (Nat.le_trans ?_ hj)
      rw [BuilderCall.openings_append_singleton, List.length_append]
      exact Nat.le_add_right ..
    · exact absurd (hp i j p heq) (by omega)

theorem Told.step (h : g.Told group calls) (he : g.Effect c g') : g'.Told group (calls ++ [c]) := by
  cases he with
  | window id ho hp =>
    have hopenings (i : Nat) :
        BuilderCall.openings i (calls ++ [c]) = BuilderCall.openings i calls :=
      BuilderCall.openings_of_not_target (by simp [ho])
    have hparts (i j : Nat) : BuilderCall.parts i j (calls ++ [c]) = BuilderCall.parts i j calls :=
      BuilderCall.parts_of_not_target (by simp [hp])
    refine ⟨h.id, fun i w hw => ?_, fun i hi => ?_, fun i j hj => ?_⟩
    · rcases Nat.lt_or_ge i g.windows.length with hi | hi
      · rw [addWindow, List.getElem?_append_left hi] at hw
        exact (h.windows i w hw).silent rfl rfl (by simp [ho]) (by simp [hp])
      · rw [addWindow, List.getElem?_append_right hi, List.getElem?_singleton] at hw
        obtain ⟨hzero, hw⟩ := Option.ite_none_right_eq_some.mp hw
        obtain rfl := Option.some.inj hw
        refine ⟨h.id, ?_, by simp⟩
        rw [hopenings, h.unopened i hi]
        rfl
    · rw [hopenings]
      exact h.unopened i (by simp [addWindow] at hi; omega)
    · rw [hparts]
      exact h.untouched i j (by rwa [hopenings] at hj)
  | axis n ho hp =>
    refine h.of_windows rfl rfl (fun i w hw => ?_) (by simp [ho]) (by simp [hp])
    exact (h.windows i w hw).silent rfl rfl (by simp [ho]) (by simp [hp])
  | @sources i w hw sources ho hp =>
    refine h.of_windows rfl (length_setWindow ..) (fun k v hv => ?_) (by simp [ho]) (by simp [hp])
    rcases getElem?_setWindow hv with ⟨rfl, rfl⟩ | ⟨-, hv⟩
    · exact (h.windows k w hw).silent rfl rfl (by simp [ho]) (by simp [hp])
    · exact (h.windows k v hv).silent rfl rfl (by simp [ho]) (by simp [hp])
  | @opening i w args hw ho hp =>
    obtain ⟨hi, -⟩ := List.getElem?_eq_some_iff.mp hw
    refine h.of_windows rfl (length_setWindow ..) (fun k v hv => ?_) ?_ (by simp [hp])
    · rcases getElem?_setWindow hv with ⟨rfl, rfl⟩ | ⟨hk, hv⟩
      · have htold := h.windows k w hw
        exact htold.opening (h.untouched k _ (by rw [htold.length])) ho hp
      · exact (h.windows k v hv).silent rfl rfl (by simp [ho, hk.symm]) (by simp [hp])
    · rintro k args' hk
      rw [ho] at hk
      obtain ⟨rfl, -⟩ := Prod.mk.inj (Option.some.inj hk)
      exact hi
  | @part i j w f p hw hf ho hp =>
    have htold := h.windows i w hw
    obtain ⟨hj, -⟩ := List.getElem?_eq_some_iff.mp hf
    refine h.of_windows rfl (length_setWindow ..) (fun k v hv => ?_) (by simp [ho]) ?_
    · rcases getElem?_setWindow hv with ⟨rfl, rfl⟩ | ⟨hk, hv⟩
      · exact htold.part hf ho hp
      · exact (h.windows k v hv).silent rfl rfl (by simp [ho]) (by simp [hp, hk.symm])
    · rintro k j' p' hk
      rw [hp] at hk
      obtain ⟨⟨rfl, rfl⟩, -⟩ := by simpa using hk
      rw [BuilderCall.openings_of_not_target (by simp [ho]), ← htold.length]
      exact hj

/-- What has been told of a group stays true when calls follow, those that fail apart. -/
theorem Told.attemptAll (h : g.Told group calls) (more : List BuilderCall) :
    (g.attemptAll more).Told group (calls ++ g.accepted more) := by
  induction more generalizing g calls with
  | nil => simpa [Group.attemptAll, accepted] using h
  | cons c more ih =>
    rw [Group.attemptAll, List.foldl_cons, ← Group.attemptAll, accepted, attempt]
    cases hcall : g.call c with
    | error fault => exact ih h
    | ok out =>
      have hmore := ih (h.step (effect_of_call hcall))
      rwa [List.append_assoc] at hmore

theorem figure_eq_ok_iff {i j : Nat} {f : Figure} :
    g.figure i j = .ok f ↔ ∃ w, g.windows[i]? = some w ∧ w.figures[j]? = some f := by
  unfold Group.figure Group.window
  cases hw : g.windows[i]? with
  | none => simp [bind, Except.bind]
  | some w =>
    cases hf : w.figures[j]? with
    | none => simp [bind, Except.bind, hf, throw, throwThe, MonadExceptOf.throw]
    | some f' => simp [bind, Except.bind, hf, pure, Except.pure]

/-- A figure of a group has been opened by a call and filled by those on it. -/
theorem Told.filled (h : g.Told group calls) {i j : Nat} {f : Figure} (hf : g.figure i j = .ok f) :
    ∃ args, (BuilderCall.openings i calls)[j]? = some args ∧
      f.FilledBy group args (BuilderCall.parts i j calls) := by
  obtain ⟨w, hw, hf⟩ := figure_eq_ok_iff.mp hf
  exact (h.windows i w hw).filled j f hf

theorem figure_setWindow {i j k : Nat} {w w' : Window} {f : Figure} (hw : g.windows[k]? = some w)
    (hf : g.figure i j = .ok f)
    (hkeep : k = i → w.figures[j]? = some f → w'.figures[j]? = some f) :
    (g.setWindow k w').figure i j = .ok f := by
  obtain ⟨v, hv, hf⟩ := figure_eq_ok_iff.mp hf
  refine figure_eq_ok_iff.mpr ?_
  by_cases hk : k = i
  · subst hk
    obtain rfl : w = v := Option.some.inj (hw.symm.trans hv)
    obtain ⟨hlt, -⟩ := List.getElem?_eq_some_iff.mp hw
    exact ⟨w', List.getElem?_set_self hlt, hkeep rfl hf⟩
  · exact ⟨v, (List.getElem?_set_ne hk).trans hv, hf⟩

/-- A call on another figure leaves a figure as it is. -/
theorem Effect.figure_eq (he : g.Effect c g') {i j : Nat} {f : Figure} (hf : g.figure i j = .ok f)
    (hc : ∀ p, c.part? ≠ some ((i, j), p)) : g'.figure i j = .ok f := by
  cases he with
  | window id =>
    obtain ⟨w, hw, hf⟩ := figure_eq_ok_iff.mp hf
    obtain ⟨hlt, -⟩ := List.getElem?_eq_some_iff.mp hw
    exact figure_eq_ok_iff.mpr ⟨w, (List.getElem?_append_left hlt).trans hw, hf⟩
  | axis => exact hf
  | sources hw => exact figure_setWindow hw hf fun _ hf => hf
  | opening hw =>
    refine figure_setWindow hw hf fun _ hf => ?_
    obtain ⟨hlt, -⟩ := List.getElem?_eq_some_iff.mp hf
    exact (List.getElem?_append_left hlt).trans hf
  | @part k l w x p hw hx ho hp =>
    refine figure_setWindow hw hf fun hk hf => ?_
    have hl : l ≠ j := by
      rintro rfl
      exact hc p (by rw [hp, hk])
    exact (List.getElem?_set_ne hl).trans hf

end Group

end PlotStream
