import PlotStream.Plot.Builder
import PlotStream.Proofs.Json.Legible

/-!
# Builder calls step by step

`Group.call` gives the group after a call, or a fault. Here the same calls are carried out on objects
that are changed in place, one step after the other and in the order in which arguments are converted:
a fault in the middle leaves behind whatever the steps before it have done (`Steps`). Every call turns
out to do all that can fail before it changes anything but a new object of its own, so that it
`Mirrors` the function and leaves the group as it was when it fails (`Group.mirrors_callSteps`).
-/

namespace PlotStream

/-- Work on an object, up to a fault. What has been changed before the fault stays changed. -/
abbrev Steps (σ : Type) := EStateM Fault σ

namespace Steps

variable {σ τ α β : Type}

/-- Look something up in the object, which may fail. -/
def look (f : σ → Except Fault α) : Steps σ α := fun s =>
  match f s with
  | .ok a => .ok a s
  | .error fault => .error fault s

/-- Convert something, which may fail. -/
def of (x : Except Fault α) : Steps σ α :=
  look fun _ => x

/-- Work on an item of a list, in place. The item stays as the work leaves it, also if it fails. -/
def onItem (collection : String) (items : σ → List τ) (setItems : List τ → σ → σ) (i : Nat)
    (work : Steps τ α) : Steps σ α := fun s =>
  match (items s)[i]? with
  | none => .error (.outOfRange collection) s
  | some t =>
    match work t with
    | .ok a t => .ok a (setItems ((items s).set i t) s)
    | .error fault t => .error fault (setItems ((items s).set i t) s)

/-- Work on a new object that belongs to nothing yet. If the work fails the object is lost. -/
def onNew (t : τ) (work : Steps τ Unit) : Steps σ τ := fun s =>
  match work t with
  | .ok _ t => .ok t s
  | .error fault _ => .error fault s

/-- Steps in order. -/
def each (step : α → Steps σ Unit) : List α → Steps σ Unit
  | [] => pure ()
  | a :: as => do
    step a
    each step as

/-! ## Work that changes nothing when it fails -/

/-- The new object and the answer, or the fault, whatever it leaves behind. -/
def outcome : EStateM.Result Fault σ α → Except Fault (σ × α)
  | .ok a s => .ok (s, a)
  | .error fault _ => .error fault

/-- Work does what a function says that gives the new object, and leaves the object as it was if it
fails. -/
def Mirrors (work : Steps σ α) (f : σ → Except Fault (σ × α)) : Prop :=
  ∀ s, work s =
    match f s with
    | .ok (s', a) => .ok a s'
    | .error fault => .error fault s

section Mirrors

variable {work : Steps σ α} {f : σ → Except Fault (σ × α)}

theorem Mirrors.outcome_eq (h : Mirrors work f) (s : σ) : outcome (work s) = f s := by
  rw [h s]
  cases f s <;> rfl

/-- A fault leaves the object as it was. -/
theorem Mirrors.unchanged (h : Mirrors work f) {s s' : σ} {fault : Fault}
    (hfault : work s = .error fault s') : s' = s ∧ f s = .error fault := by
  rw [h s] at hfault
  cases hf : f s with
  | ok out => simp [hf] at hfault
  | error fault' => simpa [hf, eq_comm, and_comm] using hfault

theorem Mirrors.changed (h : Mirrors work f) {s s' : σ} {a : α} (hok : work s = .ok a s') :
    f s = .ok (s', a) := by
  rw [← h.outcome_eq, hok]
  rfl

/-- Work without faults. -/
theorem mirrors_of_ok {next : σ → σ} {answer : σ → α} (h : ∀ s, work s = .ok (answer s) (next s)) :
    Mirrors work fun s => .ok (next s, answer s) := by
  intro s
  rw [h s]

/-- Looking comes before everything else. -/
theorem mirrors_look_bind {x : σ → Except Fault β} {next : β → Steps σ α}
    {g : β → σ → Except Fault (σ × α)} (h : ∀ b, Mirrors (next b) (g b)) :
    Mirrors (look x >>= next) fun s => x s >>= fun b => g b s := by
  intro s
  change EStateM.bind (look x) next s = _
  simp only [EStateM.bind, look]
  cases x s with
  | ok b => exact h b s
  | error fault => rfl

theorem mirrors_of_bind {x : Except Fault β} {next : β → Steps σ α}
    {g : β → σ → Except Fault (σ × α)} (h : ∀ b, Mirrors (next b) (g b)) :
    Mirrors (of x >>= next) fun s => x >>= fun b => g b s :=
  mirrors_look_bind h

/-- Work on an item mirrors a change of the list. -/
theorem mirrors_onItem {work : Steps τ α} {f : τ → Except Fault (τ × α)} (h : Mirrors work f)
    {items : σ → List τ} {setItems : List τ → σ → σ} (hset : ∀ s, setItems (items s) s = s)
    (collection : String) (i : Nat) :
    Mirrors (onItem collection items setItems i work) fun s => do
      let (ts, answer) ← changeAt collection (items s) i f
      return (setItems ts s, answer) := by
  intro s
  simp only [onItem, changeAt]
  cases hitem : (items s)[i]? with
  | none => rfl
  | some t =>
    have hsame : (items s).set i t = items s := by
      apply List.ext_getElem?
      intro k
      rw [List.getElem?_set]
      split
      · rename_i hik
        rw [← hik, hitem, if_pos (List.getElem?_eq_some_iff.mp hitem).1]
      · rfl
    simp only [h t]
    cases f t with
    | ok out => rfl
    | error fault => simp [hsame, hset, bind, Except.bind]

/-- An object that is made anew is one that a function gives. -/
theorem onNew_eq_of {t : τ} {work : Steps τ Unit} {x : Except Fault τ}
    (h : outcome (work t) = x.map fun t => (t, ())) : (onNew t work : Steps σ τ) = of x := by
  funext s
  simp only [onNew, of, look]
  cases hwork : work t with
  | ok a t' =>
    rw [hwork] at h
    cases x with
    | ok t'' =>
      obtain rfl : t' = t'' := congrArg Prod.fst (Except.ok.inj h)
      rfl
    | error fault => cases h
  | error fault t' =>
    rw [hwork] at h
    cases x with
    | ok t'' => cases h
    | error fault' =>
      obtain rfl : fault = fault' := Except.error.inj h
      rfl

/-- The answer of work put into another form. -/
theorem mirrors_map (h : Mirrors work f) (answer : α → β) :
    Mirrors (do return answer (← work)) fun s => do
      let (s, a) ← f s
      return (s, answer a) := by
  intro s
  change EStateM.bind work _ s = _
  simp only [EStateM.bind, h s]
  cases f s <;> rfl

theorem mirrors_discard (h : Mirrors work f) :
    Mirrors (discard work) fun s => do return ((← f s).1, ()) := by
  intro s
  change EStateM.map _ work s = _
  simp only [EStateM.map, h s]
  cases f s <;> rfl

/-- Steps in order end as a fold does, if every step mirrors one of the fold. -/
theorem outcome_each {step : α → Steps σ Unit} {next : σ → α → Except Fault σ}
    (h : ∀ a, Mirrors (step a) fun s => (next s a).map fun s => (s, ())) (as : List α) (s : σ) :
    outcome (each step as s) = (as.foldlM next s).map fun s => (s, ()) := by
  induction as generalizing s with
  | nil => rfl
  | cons a as ih =>
    change outcome (EStateM.bind (step a) (fun _ => each step as) s) = _
    simp only [EStateM.bind, h a s, List.foldlM_cons]
    cases next s a with
    | ok s' => exact ih s'
    | error fault => rfl

/-- Steps that cannot fail. -/
theorem each_modify (step : α → σ → σ) (as : List α) (s : σ) :
    each (fun a => modify (step a)) as s = .ok () (as.foldl (fun s a => step a s) s) := by
  induction as generalizing s with
  | nil => rfl
  | cons a as ih => exact ih (step a s)

end Mirrors

end Steps

open Steps

namespace Source

/-! ## Sources -/

/-- Add or replace a column in place. -/
def addColumnSteps (name values : Value) : Steps Source Column := do
  let column ← of values.toColumn
  match ← look fun s => s.requiredLength? name with
  | some expected =>
    if expected ≠ column.length then
      throw (.unequalColumn (← of name.interpolate) column.length expected)
  | none => pure ()
  of (checkKey name)
  modify fun s => ⟨Entries.insert s.columns name column⟩
  return column

/-- Fill a source from a dictionary of columns, one after the other. -/
def fillSteps (columns : Value) : Steps Source Unit := do
  if ← of columns.truth then
    match columns with
    | .dict entries => each (fun e => discard (addColumnSteps e.1 e.2)) entries
    | .cyclicDict => each (fun e => discard (addColumnSteps e.1 e.2)) [(.text "self", .cyclicDict)]
    | v => throw (.noEntries v.qualifiedTypeName)

/-- The source that a builder call adds; one that is given is taken as it is. -/
def givenSteps {σ : Type} (columns : Value) : Steps σ Source :=
  match columns with
  | .source columns => pure ⟨columns⟩
  | v => onNew empty (fillSteps v)

/-- Carry out a call on a source. -/
def callSteps : SourceCall → Steps Source Answer
  | .addColumn name values => return .column (← addColumnSteps name values)
  | .column name => return .column (← look fun s => s.column name)
  | .hasColumn name => return .truth (← look fun s => s.hasColumn name)
  | .text => return .text (← look text)
  | .look => return .source (← get)

/-- A column that has been added is the converted values, put in under its name. -/
theorem addColumn_ok {s s' : Source} {name values : Value} {column : Column}
    (h : s.addColumn name values = .ok (s', column)) :
    values.toColumn = .ok column ∧ s' = ⟨Entries.insert s.columns name column⟩ := by
  obtain ⟨column', hcolumn, h⟩ := Json.exists_ok_of_bind h
  obtain ⟨expected?, -, h⟩ := Json.exists_ok_of_bind h
  have hput (h : (do
      checkKey name
      return ((⟨Entries.insert s.columns name column'⟩ : Source), column')) = .ok (s', column)) :
      values.toColumn = .ok column ∧ s' = ⟨Entries.insert s.columns name column⟩ := by
    obtain ⟨-, -, h⟩ := Json.exists_ok_of_bind h
    obtain ⟨rfl, rfl⟩ := Prod.mk.inj (Except.ok.inj h)
    exact ⟨hcolumn, rfl⟩
  cases expected? with
  | none => exact hput h
  | some expected =>
    dsimp only at h
    by_cases hlength : expected ≠ column'.length
    · rw [if_pos hlength] at h
      obtain ⟨shown, -, h⟩ := Json.exists_ok_of_bind h
      cases h
    · rw [if_neg hlength] at h
      exact hput h

theorem mirrors_addColumnSteps (name values : Value) :
    Mirrors (addColumnSteps name values) fun s => s.addColumn name values := by
  unfold addColumnSteps addColumn
  refine mirrors_of_bind fun column => mirrors_look_bind fun expected? => ?_
  have hput : Mirrors (do
      of (checkKey name)
      modify fun s : Source => ⟨Entries.insert s.columns name column⟩
      return column) fun s => do
      checkKey name
      return (⟨Entries.insert s.columns name column⟩, column) :=
    mirrors_of_bind fun _ => mirrors_of_ok fun _ => rfl
  cases expected? with
  | none => exact hput
  | some expected =>
    dsimp only
    by_cases hlength : expected ≠ column.length
    · simp only [if_pos hlength]
      -- Both ways the call ends here: with a name that has no text, or with the lengths.
      intro s
      cases hshown : name.interpolate with
      | error fault => rfl
      | ok shown => rfl
    · simp only [if_neg hlength]
      exact hput

theorem outcome_addEach (entries : List (Value × Value)) (s : Source) :
    outcome (each (fun e => discard (addColumnSteps e.1 e.2)) entries s) =
      (s.addColumns entries).map fun s => (s, ()) := by
  refine outcome_each (fun e => ?_) entries s
  intro s
  rw [mirrors_discard (mirrors_addColumnSteps e.1 e.2) s]
  dsimp only
  cases s.addColumn e.1 e.2 <;> rfl

/-- A source is filled as it is made. What is left of one that cannot be filled is not said. -/
theorem outcome_fillSteps (columns : Value) :
    outcome (fillSteps columns empty) = (ofValue columns).map fun s => (s, ()) := by
  unfold fillSteps ofValue
  cases columns.truth with
  | error fault => rfl
  | ok filled =>
    cases filled with
    | false => rfl
    | true =>
      cases columns with
      | dict entries => exact outcome_addEach entries empty
      | cyclicDict => exact outcome_addEach [(.text "self", .cyclicDict)] empty
      | _ => rfl

theorem givenSteps_eq {σ : Type} (columns : Value) :
    (givenSteps columns : Steps σ Source) = of (given columns) := by
  unfold givenSteps
  split
  · rfl
  · rename_i hnot
    rw [given]
    · exact onNew_eq_of (outcome_fillSteps columns)
    · exact hnot

theorem mirrors_callSteps (call : SourceCall) : Mirrors (callSteps call) fun s => s.call call := by
  cases call with
  | addColumn name values => exact mirrors_map (mirrors_addColumnSteps name values) _
  | column name => exact mirrors_look_bind fun _ => mirrors_of_ok fun _ => rfl
  | hasColumn name => exact mirrors_look_bind fun _ => mirrors_of_ok fun _ => rfl
  | text => exact mirrors_look_bind fun _ => mirrors_of_ok fun _ => rfl
  | look => exact mirrors_of_ok fun _ => rfl

end Source

/-! ## Figures and windows -/

namespace Figure

/-- Append an operation in place. -/
def recordSteps (op : Value) : Steps Figure Answer := do
  modify fun f => f.addOperation op
  return .operation op

/-- Give a figure its construction arguments, one after the other. -/
def argumentSteps (args : Value) (keywords : List (String × Value)) : Steps Figure Unit := do
  each (fun e => modify fun f => f.setArgument e.1 e.2) (← of (mergeArguments args keywords))

theorem mirrors_recordSteps (op : Value) : Mirrors (recordSteps op) fun f => .ok (f.record op) :=
  mirrors_of_ok fun _ => rfl

theorem foldl_setArgument (args : List (Value × Value)) (f : Figure) :
    args.foldl (fun f e => f.setArgument e.1 e.2) f =
      { f with arguments := args.foldl (fun es e => Entries.insert es e.1 e.2) f.arguments } := by
  induction args generalizing f with
  | nil => rfl
  | cons e args ih => exact ih (f.setArgument e.1 e.2)

/-- A new figure is given its arguments before it belongs to a window. -/
theorem onNew_argumentSteps (w : Window) (args : Value) (keywords : List (String × Value)) :
    (onNew (blank w.id w.groupId) (argumentSteps args keywords) : Steps Window Figure) =
      of ((mergeArguments args keywords).map w.figureWith) := by
  apply onNew_eq_of
  unfold argumentSteps
  cases mergeArguments args keywords with
  | error fault => rfl
  | ok merged =>
    have heach := each_modify (fun (e : Value × Value) (f : Figure) => f.setArgument e.1 e.2) merged
      (blank w.id w.groupId)
    refine (congrArg outcome heach).trans ?_
    rw [foldl_setArgument]
    rfl

end Figure

namespace Group

/-- Work on a window in place. -/
def onWindow {α : Type} (i : Nat) (work : Steps Window α) : Steps Group α :=
  onItem "list" windows (fun windows g => { g with windows }) i work

/-- Work on a figure of a window in place. -/
def onFigure {α : Type} (i j : Nat) (work : Steps Figure α) : Steps Group α :=
  onWindow i (onItem "list" Window.figures (fun figures w => { w with figures }) j work)

/-- Work on a data source of a window in place. -/
def onSource {α : Type} (i j : Nat) (work : Steps Source α) : Steps Group α :=
  onWindow i (onItem "deque" Window.sources (fun sources w => { w with sources }) j work)

/-- Carry out a call on a group, step by step. -/
def callSteps : BuilderCall → Steps Group Answer
  | .newWindow id => do
    let id ← of id.toText
    modify fun g => g.addWindow id
    return .text id
  | .newLinkedAxis => do
    modify fun g => { g with linkedAxes := g.linkedAxes + 1 }
    return .number (← get).linkedAxes
  | .addSource window columns =>
    onWindow window do
      let s ← Source.givenSteps columns
      modify fun w => w.addSource s
      return .number ((← get).sources.length - 1)
  | .pushFrontSource window columns =>
    onWindow window do
      let s ← Source.givenSteps columns
      modify fun w => w.pushFrontSource s
      return .source s
  | .onSource window source call => onSource window source (Source.callSteps call)
  | .newFigure window args keywords =>
    onWindow window do
      of (checkKeywords "PlotWindow.new_figure" ["self", "args"] keywords)
      let w ← get
      let f ← onNew (Figure.blank w.id w.groupId) (Figure.argumentSteps args keywords)
      modify fun w => w.addFigure f
      return .arguments f.arguments
  | .addGlyph window figure method source args keywords =>
    onFigure window figure do
      of (checkKeywords "PlotFigure.add_glyph" ["self", "method", "data_source", "args"] keywords)
      let index ← of source.toInteger
      let args ← of (mergeArguments args keywords)
      Figure.recordSteps (.glyph method (.int index) args)
  | .addLayout window figure ctor args keywords =>
    onFigure window figure do
      of (checkKeywords "PlotFigure.add_layout" ["self", "ctor", "args"] keywords)
      let args ← of (mergeArguments args keywords)
      Figure.recordSteps (.layout ctor args)
  | .setGlyphAttrs window figure ctor pairs =>
    onFigure window figure do
      let pairs ← of pairs.toAssignments
      Figure.recordSteps (.glyphAttrs ctor pairs)
  | .setFigureAttrs window figure pairs =>
    onFigure window figure do
      let pairs ← of pairs.toAssignments
      Figure.recordSteps (.figureAttrs pairs)
  | .setFigureArg window figure name value =>
    onFigure window figure do
      of (Source.checkKey name)
      modify fun f => f.setArgument name value.asArgument
      return .nothing
  | .linkAxis window figure range axis =>
    onFigure window figure do
      of (Source.checkKey range)
      modify fun f => f.link range axis
      return .nothing
  | .addOperation window figure op => onFigure window figure (Figure.recordSteps op)

section Mirrors

variable {i j : Nat}

theorem mirrors_onWindow {work : Steps Window Answer} {f : Window → Except Fault (Window × Answer)}
    (h : Mirrors work f) : Mirrors (onWindow i work) fun g => g.changeWindow i f :=
  mirrors_onItem h (fun _ => rfl) "list" i

theorem mirrors_onFigure {work : Steps Figure Answer} {f : Figure → Except Fault (Figure × Answer)}
    (h : Mirrors work f) : Mirrors (onFigure i j work) fun g => g.changeFigure i j f :=
  mirrors_onWindow (mirrors_onItem h (fun _ => rfl) "list" j)

theorem mirrors_onSource {work : Steps Source Answer} {f : Source → Except Fault (Source × Answer)}
    (h : Mirrors work f) :
    Mirrors (onSource i j work) fun g => g.changeWindow i fun w => w.changeSource j f :=
  mirrors_onWindow (mirrors_onItem h (fun _ => rfl) "deque" j)

end Mirrors

/-- A call that is carried out step by step does what the function says, and a fault on the way leaves
the group as it was. The cases are those of the calls. -/
theorem mirrors_callSteps (c : BuilderCall) : Mirrors (callSteps c) fun g => g.call c := by
  cases c with
  | newWindow id => exact mirrors_of_bind fun _ => mirrors_of_ok fun _ => rfl
  | newLinkedAxis => exact mirrors_of_ok fun _ => rfl
  | addSource window columns =>
    apply mirrors_onWindow
    rw [Source.givenSteps_eq]
    refine mirrors_of_bind fun s => mirrors_of_ok fun w => ?_
    have hlast : (w.addSource s).sources.length - 1 = w.sources.length := by
      simp [Window.addSource]
    rw [← hlast]
    rfl
  | pushFrontSource window columns =>
    apply mirrors_onWindow
    rw [Source.givenSteps_eq]
    exact mirrors_of_bind fun s => mirrors_of_ok fun _ => rfl
  | onSource window source call => exact mirrors_onSource (Source.mirrors_callSteps call)
  | newFigure window args keywords =>
    apply mirrors_onWindow
    refine mirrors_of_bind fun _ w => ?_
    change (onNew (Figure.blank w.id w.groupId) (Figure.argumentSteps args keywords) >>= _) w = _
    rw [Figure.onNew_argumentSteps]
    cases mergeArguments args keywords <;> rfl
  | addGlyph window figure method source args keywords =>
    exact mirrors_onFigure <| mirrors_of_bind fun _ => mirrors_of_bind fun _ =>
      mirrors_of_bind fun _ => Figure.mirrors_recordSteps _
  | addLayout window figure ctor args keywords =>
    exact mirrors_onFigure <| mirrors_of_bind fun _ => mirrors_of_bind fun _ =>
      Figure.mirrors_recordSteps _
  | setGlyphAttrs window figure ctor pairs =>
    exact mirrors_onFigure <| mirrors_of_bind fun _ => Figure.mirrors_recordSteps _
  | setFigureAttrs window figure pairs =>
    exact mirrors_onFigure <| mirrors_of_bind fun _ => Figure.mirrors_recordSteps _
  | setFigureArg window figure name value =>
    exact mirrors_onFigure <| mirrors_of_bind fun _ => mirrors_of_ok fun _ => rfl
  | linkAxis window figure range axis =>
    exact mirrors_onFigure <| mirrors_of_bind fun _ => mirrors_of_ok fun _ => rfl
  | addOperation window figure op => exact mirrors_onFigure (Figure.mirrors_recordSteps op)

end Group

end PlotStream
