import PlotStream.Proofs.Plot.Histories
import PlotStream.Proofs.Plot.Steps

/-!
# What a builder call changes

Every call is made on one object of the tree (`BuilderCall.place`). One that fails leaves the tree as
it was, wherever on its way it fails. One that succeeds changes that object alone, and of the object one
list, dictionary or counter, by one element (`Group.Change`): there is one constructor for each of
these, and `Entries.Puts` tells what one element is to a dictionary.
-/

namespace PlotStream

namespace Entries

variable {α : Type}

/-- One element is put into entries: a new key at the end, or another value for an equal key, which
stays in its place. -/
inductive Puts (key : Value) (x : α) : Entries α → Entries α → Prop
  | inserted {es : Entries α} (hfresh : ∀ k ∈ es.keys, k.keyEqual key = false) :
      Puts key x es (es ++ [(key, x)])
  | overwritten (before after : Entries α) {k : Value} (old : α) (hsame : k.keyEqual key = true) :
      Puts key x (before ++ (k, old) :: after) (before ++ (k, x) :: after)

theorem puts_insert (es : Entries α) (key : Value) (x : α) : Puts key x es (insert es key x) := by
  induction es with
  | nil => exact .inserted (by simp [keys])
  | cons e es ih =>
    rw [insert]
    by_cases hsame : e.1.keyEqual key = true
    · rw [if_pos hsame]
      exact .overwritten [] es e.2 hsame
    · rw [if_neg hsame]
      generalize insert es key x = es' at ih
      cases ih with
      | inserted hfresh =>
        exact .inserted (List.forall_mem_cons.mpr ⟨Bool.eq_false_iff.mpr hsame, hfresh⟩)
      | overwritten before after old hk => exact .overwritten (e :: before) after old hk

end Entries

/-- The object of a tree that a call is made on. Windows, figures and sources go by their positions. -/
inductive Place
  | group
  | window (i : Nat)
  | source (i j : Nat)
  | figure (i j : Nat)

/-- Where a call is made. -/
def BuilderCall.place : BuilderCall → Place
  | .newWindow _ | .newLinkedAxis => .group
  | .addSource i _ | .pushFrontSource i _ | .newFigure i _ _ => .window i
  | .onSource i j _ => .source i j
  | .addGlyph i j _ _ _ _ | .addLayout i j _ _ _ | .setGlyphAttrs i j _ _ | .setFigureAttrs i j _
  | .setFigureArg i j _ _ | .linkAxis i j _ _ | .addOperation i j _ => .figure i j

/-! ## One change -/

/-- At most one change of a data source. -/
inductive Source.Change (s : Source) : Source → Prop
  | nothing : Change s s
  | column {name : Value} {column : Column} {columns : Entries Column}
      (h : Entries.Puts name column s.columns columns) : Change s ⟨columns⟩

/-- One change of a figure. -/
inductive Figure.Change (f : Figure) : Figure → Prop
  | operation (op : Value) : Change f { f with operations := f.operations ++ [op] }
  | argument {name value : Value} {arguments : Entries Value}
      (h : Entries.Puts name value f.arguments arguments) : Change f { f with arguments }
  | link {range axis : Value} {links : Entries Value} (h : Entries.Puts range axis f.links links) :
      Change f { f with links }

/-- One change of a window, whose sources and figures stay as they are. -/
inductive Window.Change (w : Window) : Window → Prop
  | sourceAppended (s : Source) : Change w { w with sources := w.sources ++ [s] }
  | sourcePrepended (s : Source) : Change w { w with sources := s :: w.sources }
  | figureAppended (f : Figure) : Change w { w with figures := w.figures ++ [f] }

/-- At most one change of a tree, at a place. All other objects of the tree stay as they are. -/
inductive Group.Change (g : Group) : Place → Group → Prop
  | windowAppended (id : String) :
      Change g .group { g with windows := g.windows ++ [⟨id, g.id, [], []⟩] }
  | axisCounted : Change g .group { g with linkedAxes := g.linkedAxes + 1 }
  | window {i : Nat} {w w' : Window} (hw : g.windows[i]? = some w) (h : w.Change w') :
      Change g (.window i) { g with windows := g.windows.set i w' }
  | source {i j : Nat} {w : Window} {s s' : Source} (hw : g.windows[i]? = some w)
      (hs : w.sources[j]? = some s) (h : s.Change s') :
      Change g (.source i j)
        { g with windows := g.windows.set i { w with sources := w.sources.set j s' } }
  | figure {i j : Nat} {w : Window} {f f' : Figure} (hw : g.windows[i]? = some w)
      (hf : w.figures[j]? = some f) (h : f.Change f') :
      Change g (.figure i j)
        { g with windows := g.windows.set i { w with figures := w.figures.set j f' } }

/-! ## What a call gives -/

/-- Whatever is given, if anything is, has a property. -/
def Yields {α : Type} (x : Except Fault α) (p : α → Prop) : Prop :=
  ∀ a, x = .ok a → p a

section Yields

variable {α β : Type} {p : β → Prop}

theorem yields_pure {b : β} (h : p b) : Yields (pure b) p := by
  rintro _ ⟨⟩
  exact h

theorem yields_bind {x : Except Fault α} {f : α → Except Fault β} (h : ∀ a, Yields (f a) p) :
    Yields (x >>= f) p := by
  intro b hb
  obtain ⟨a, -, hb⟩ := Json.exists_ok_of_bind hb
  exact h a b hb

end Yields

theorem Source.yields_call (s : Source) (call : SourceCall) :
    Yields (s.call call) fun out => s.Change out.1 := by
  cases call with
  | addColumn name values =>
    rintro ⟨s', answer⟩ h
    obtain ⟨⟨s'', column⟩, hadd, h⟩ := Json.exists_ok_of_bind h
    obtain ⟨rfl, -⟩ := Prod.mk.inj (Except.ok.inj h)
    rw [(addColumn_ok hadd).2]
    exact .column (Entries.puts_insert s.columns name column)
  | column name => exact yields_bind fun _ => yields_pure .nothing
  | hasColumn name => exact yields_bind fun _ => yields_pure .nothing
  | text => exact yields_bind fun _ => yields_pure .nothing
  | look => exact yields_pure .nothing

namespace Figure

theorem yields_record (f : Figure) (op : Value) : Yields (pure (f.record op)) fun out => f.Change out.1 :=
  yields_pure (.operation op)

theorem change_setArgument (f : Figure) (name value : Value) : f.Change (f.setArgument name value) :=
  .argument (Entries.puts_insert f.arguments name value)

theorem change_link (f : Figure) (range axis : Value) : f.Change (f.link range axis) :=
  .link (Entries.puts_insert f.links range axis)

end Figure

namespace Group

variable (g : Group) {i j : Nat}

theorem yields_changeWindow {f : Window → Except Fault (Window × Answer)}
    (h : ∀ w, Yields (f w) fun out => w.Change out.1) :
    Yields (g.changeWindow i f) fun out => g.Change (.window i) out.1 := by
  rintro ⟨g', answer⟩ hchange
  obtain ⟨w, w', hw, hf, rfl⟩ := changeWindow_ok hchange
  exact .window hw (h w _ hf)

theorem yields_changeFigure {f : Figure → Except Fault (Figure × Answer)}
    (h : ∀ x, Yields (f x) fun out => x.Change out.1) :
    Yields (g.changeFigure i j f) fun out => g.Change (.figure i j) out.1 := by
  rintro ⟨g', answer⟩ hchange
  obtain ⟨w, x, x', hw, hx, hf, rfl⟩ := changeFigure_ok hchange
  exact .figure hw hx (h x _ hf)

theorem yields_changeSource {f : Source → Except Fault (Source × Answer)}
    (h : ∀ s, Yields (f s) fun out => s.Change out.1) :
    Yields (g.changeWindow i fun w => w.changeSource j f) fun out => g.Change (.source i j) out.1 := by
  rintro ⟨g', answer⟩ hchange
  obtain ⟨w, w', hw, hf, rfl⟩ := changeWindow_ok hchange
  obtain ⟨⟨sources, answer'⟩, hsources, hf⟩ := Json.exists_ok_of_bind hf
  obtain ⟨s, s', hs, hcall, rfl⟩ := changeAt_ok hsources
  obtain ⟨rfl, -⟩ := Prod.mk.inj (Except.ok.inj hf)
  exact .source hw hs (h s _ hcall)

/-- A call that succeeds makes at most one change, at its place. The cases are those of the calls. -/
theorem yields_call (c : BuilderCall) : Yields (g.call c) fun out => g.Change c.place out.1 := by
  cases c with
  | newWindow id => exact yields_bind fun id => yields_pure (.windowAppended id)
  | newLinkedAxis => exact yields_pure .axisCounted
  | addSource i columns =>
    apply yields_changeWindow
    intro w
    exact yields_bind fun s => yields_pure (.sourceAppended s)
  | pushFrontSource i columns =>
    apply yields_changeWindow
    intro w
    exact yields_bind fun s => yields_pure (.sourcePrepended s)
  | onSource i j call =>
    apply yields_changeSource
    intro s
    exact s.yields_call call
  | newFigure i args keywords =>
    apply yields_changeWindow
    intro w
    exact yields_bind fun _ => yields_bind fun merged => yields_pure (.figureAppended _)
  | addGlyph i j method source args keywords =>
    apply yields_changeFigure
    intro f
    exact yields_bind fun _ => yields_bind fun _ => yields_bind fun _ => f.yields_record _
  | addLayout i j ctor args keywords =>
    apply yields_changeFigure
    intro f
    exact yields_bind fun _ => yields_bind fun _ => f.yields_record _
  | setGlyphAttrs i j ctor pairs =>
    apply yields_changeFigure
    intro f
    exact yields_bind fun _ => f.yields_record _
  | setFigureAttrs i j pairs =>
    apply yields_changeFigure
    intro f
    exact yields_bind fun _ => f.yields_record _
  | setFigureArg i j name value =>
    apply yields_changeFigure
    intro f
    exact yields_bind fun _ => yields_pure (f.change_setArgument name value.asArgument)
  | linkAxis i j range axis =>
    apply yields_changeFigure
    intro f
    exact yields_bind fun _ => yields_pure (f.change_link range axis)
  | addOperation i j op =>
    apply yields_changeFigure
    intro f
    exact f.yields_record op

end Group

/-- A builder call that is carried out step by step leaves the tree as it was if it fails, at whatever
step, and if it succeeds it makes at most one change, at its place. -/
theorem builder_calls_change_their_place (g : Group) (c : BuilderCall) :
    (∀ fault g', Group.callSteps c g = .error fault g' → g' = g ∧ g.call c = .error fault) ∧
      ∀ answer g', Group.callSteps c g = .ok answer g' →
        g.call c = .ok (g', answer) ∧ g.Change c.place g' := by
  constructor
  · intro fault g' hfault
    exact (Group.mirrors_callSteps c).unchanged hfault
  · intro answer g' hok
    have hcall : g.call c = .ok (g', answer) := (Group.mirrors_callSteps c).changed hok
    exact ⟨hcall, g.yields_call c _ hcall⟩

/-- A glyph whose third argument is no pair, and a data source that is put in front. -/
theorem builder_calls_change_their_place_glyph :
    let g : Group := ⟨.text "g", 0, [⟨"w", .text "g", [], [Figure.blank "w" (.text "g")]⟩]⟩
    (∃ fault g', Group.callSteps (.addGlyph 0 0 (.text "line") (.int 0)
        (.list [.tuple [.text "x", .text "t"], .tuple [.text "y", .text "v"], .int 5]) []) g =
          .error fault g' ∧ g' = g) ∧
      ∃ answer g', Group.callSteps (.pushFrontSource 0 .none) g = .ok answer g' ∧
        g.Change (.window 0) g' := by
  intro g
  refine ⟨⟨_, _, rfl, ?_⟩, ⟨_, _, rfl, ?_⟩⟩
  · exact ((builder_calls_change_their_place g (.addGlyph 0 0 (.text "line") (.int 0)
      (.list [.tuple [.text "x", .text "t"], .tuple [.text "y", .text "v"], .int 5]) [])).1 _ _ rfl).1
  · exact ((builder_calls_change_their_place g (.pushFrontSource 0 .none)).2 _ _ rfl).2

end PlotStream
