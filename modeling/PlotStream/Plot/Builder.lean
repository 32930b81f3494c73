import PlotStream.Plot.Code
import PlotStream.Plot.Validation

/-!
# Building a plot

The calls by which a plotting procedure fills a group, as data, and what each does to the group. A
call converts all of its arguments before it changes anything, so one that fails leaves the group
as it was. `Inspection` holds the questions that can be asked about a group on the way.
-/

namespace PlotStream

/-- A call on one data source. -/
inductive SourceCall
  | addColumn (name values : Value)
  | column (name : Value)
  | hasColumn (name : Value)
  | text
  | look

/-- A call that may change a group. Windows, figures and sources are named by position. -/
inductive BuilderCall
  | newWindow (id : Value)
  | newLinkedAxis
  | addSource (window : Nat) (columns : Value)
  | pushFrontSource (window : Nat) (columns : Value)
  | onSource (window source : Nat) (call : SourceCall)
  | newFigure (window : Nat) (args : Value) (keywords : List (String × Value))
  | addGlyph (window figure : Nat) (method source args : Value) (keywords : List (String × Value))
  | addLayout (window figure : Nat) (ctor args : Value) (keywords : List (String × Value))
  | setGlyphAttrs (window figure : Nat) (ctor pairs : Value)
  | setFigureAttrs (window figure : Nat) (pairs : Value)
  | setFigureArg (window figure : Nat) (name value : Value)
  | linkAxis (window figure : Nat) (range axis : Value)
  | addOperation (window figure : Nat) (op : Value)

/-- What a call answers. -/
inductive Answer
  | nothing
  | number (n : Nat)
  | truth (b : Bool)
  | text (s : String)
  | column (c : Column)
  | source (s : Source)
  | arguments (args : Arguments)
  | operation (op : Value)
  | figures (summary : List (String × Nat))
  | group (g : Group)

namespace Source

/-- Carry out a call on a source. -/
def call (s : Source) : SourceCall → Except Fault (Source × Answer)
  | .addColumn name values => do
    let (s, column) ← s.addColumn name values
    return (s, .column column)
  | .column name => return (s, .column (← s.column name))
  | .hasColumn name => return (s, .truth (← s.hasColumn name))
  | .text => return (s, .text (← s.text))
  | .look => .ok (s, .source s)

end Source

/-- Change the item at a position, which has to exist, and keep what the change answers. -/
def changeAt {α β : Type} (collection : String) (xs : List α) (i : Nat)
    (f : α → Except Fault (α × β)) : Except Fault (List α × β) :=
  match xs[i]? with
  | some x => do
    let (x, answer) ← f x
    return (xs.set i x, answer)
  | none => .error (.outOfRange collection)

/-- Refuse a keyword that names a parameter which a call fills by position. -/
def checkKeywords (call : String) (filled : List String) (keywords : List (String × Value)) :
    Except Fault Unit :=
  match keywords.find? fun k => filled.contains k.1 with
  | some k => .error (.repeatedArgument call k.1)
  | none => .ok ()

namespace Window

/-- Change a figure. -/
def changeFigure (w : Window) (i : Nat) (f : Figure → Except Fault (Figure × Answer)) :
    Except Fault (Window × Answer) := do
  let (figures, answer) ← changeAt "list" w.figures i f
  return ({ w with figures }, answer)

/-- Change a data source. -/
def changeSource (w : Window) (i : Nat) (f : Source → Except Fault (Source × Answer)) :
    Except Fault (Window × Answer) := do
  let (sources, answer) ← changeAt "deque" w.sources i f
  return ({ w with sources }, answer)

/-- A figure of this window with the given construction arguments. -/
def figureWith (w : Window) (args : Arguments) : Figure :=
  { Figure.blank w.id w.groupId with arguments := Entries.ofList args }

end Window

namespace Figure

/-- Append an operation and answer it. -/
def record (f : Figure) (op : Value) : Figure × Answer :=
  (f.addOperation op, .operation op)

end Figure

namespace Group

/-- Change a window. -/
def changeWindow (g : Group) (i : Nat) (f : Window → Except Fault (Window × Answer)) :
    Except Fault (Group × Answer) := do
  let (windows, answer) ← changeAt "list" g.windows i f
  return ({ g with windows }, answer)

/-- Change a figure of a window. -/
def changeFigure (g : Group) (window figure : Nat) (f : Figure → Except Fault (Figure × Answer)) :
    Except Fault (Group × Answer) :=
  g.changeWindow window fun w => w.changeFigure figure f

/-- Carry out a call on a group. -/
def call (g : Group) : BuilderCall → Except Fault (Group × Answer)
  | .newWindow id => do
    let id ← id.toText
    return (g.addWindow id, .text id)
  | .newLinkedAxis =>
    .ok ({ g with linkedAxes := g.linkedAxes + 1 }, .number (g.linkedAxes + 1))
  | .addSource window columns =>
    g.changeWindow window fun w => do
      let s ← Source.given columns
      return (w.addSource s, .number w.sources.length)
  | .pushFrontSource window columns =>
    g.changeWindow window fun w => do
      let s ← Source.given columns
      return (w.pushFrontSource s, .source s)
  | .onSource window source call =>
    g.changeWindow window fun w => w.changeSource source fun s => s.call call
  | .newFigure window args keywords =>
    g.changeWindow window fun w => do
      checkKeywords "PlotWindow.new_figure" ["self", "args"] keywords
      let f := w.figureWith (← mergeArguments args keywords)
      return (w.addFigure f, .arguments f.arguments)
  | .addGlyph window figure method source args keywords =>
    g.changeFigure window figure fun f => do
      checkKeywords "PlotFigure.add_glyph" ["self", "method", "data_source", "args"] keywords
      let index ← source.toInteger
      return f.record (.glyph method (.int index) (← mergeArguments args keywords))
  | .addLayout window figure ctor args keywords =>
    g.changeFigure window figure fun f => do
      checkKeywords "PlotFigure.add_layout" ["self", "ctor", "args"] keywords
      return f.record (.layout ctor (← mergeArguments args keywords))
  | .setGlyphAttrs window figure ctor pairs =>
    g.changeFigure window figure fun f => do
      return f.record (.glyphAttrs ctor (← pairs.toAssignments))
  | .setFigureAttrs window figure pairs =>
    g.changeFigure window figure fun f => do
      return f.record (.figureAttrs (← pairs.toAssignments))
  | .setFigureArg window figure name value =>
    g.changeFigure window figure fun f => do
      Source.checkKey name
      return (f.setArgument name value.asArgument, .nothing)
  | .linkAxis window figure range axis =>
    g.changeFigure window figure fun f => do
      Source.checkKey range
      return (f.link range axis, .nothing)
  | .addOperation window figure op =>
    g.changeFigure window figure fun f => .ok (f.record op)

end Group

/-- A question about a group. -/
inductive Inspection
  | byteSize
  | validate
  | compileFigure (window figure : Nat)
  | compileWindow (window : Nat)
  | figures
  | look

namespace Group

/-- The window at a position. -/
def window (g : Group) (i : Nat) : Except Fault Window :=
  match g.windows[i]? with
  | some w => .ok w
  | none => .error (.outOfRange "list")

/-- The figure at a position of a window. -/
def figure (g : Group) (i j : Nat) : Except Fault Figure := do
  match (← g.window i).figures[j]? with
  | some f => return f
  | none => throw (.outOfRange "list")

/-- Answer a question. -/
def inspect (room : Nat) (g : Group) : Inspection → Except Fault Answer
  | .byteSize => .ok (.number g.byteSize)
  | .validate =>
    match g.validate.fault? with
    | some fault => .error fault
    | none => .ok .nothing
  | .compileFigure window figure => return .text (← Code.ofFigure room (← g.figure window figure))
  | .compileWindow window => return .text (← Code.ofWindow room (← g.window window))
  | .figures => .ok (.figures (g.figures.map fun f => (f.windowId, f.operations.length)))
  | .look => .ok (.group g)

end Group

end PlotStream
