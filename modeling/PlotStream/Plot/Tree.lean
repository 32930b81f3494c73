import PlotStream.Plot.Arguments
import PlotStream.Plot.Source

/-!
# The plot tree

A group is what one streaming call shows: windows, each with its data sources and figures. A figure
is a sequence of operations together with its construction arguments and its linked ranges. Parts
refer to each other by identifiers and by position only: a glyph names its data source by the
position of the source in the window, and a linked range names an axis of the group by number.
-/

namespace PlotStream

/-- One figure of a window. -/
structure Figure where
  windowId : String
  groupId : Value
  /-- Operations in declaration order. -/
  operations : List Value
  /-- Construction arguments by name. -/
  arguments : Entries Value
  /-- The axis of the group each linked range follows. -/
  links : Entries Value

/-- One rendering surface of the browser. -/
structure Window where
  id : String
  groupId : Value
  sources : List Source
  figures : List Figure

/-- The plot state of one streaming call. -/
structure Group where
  id : Value
  /-- How many linked axes have been handed out. -/
  linkedAxes : Nat
  windows : List Window

namespace Figure

/-- A figure without contents. -/
def blank (windowId : String) (groupId : Value) : Figure :=
  ⟨windowId, groupId, [], [], []⟩

variable (f : Figure)

/-- Append an operation. -/
def addOperation (op : Value) : Figure :=
  { f with operations := f.operations ++ [op] }

/-- Set a construction argument. -/
def setArgument (name value : Value) : Figure :=
  { f with arguments := Entries.insert f.arguments name value }

/-- Let a range follow an axis of the group. -/
def link (range axis : Value) : Figure :=
  { f with links := Entries.insert f.links range axis }

end Figure

namespace Window

variable (w : Window)

/-- Append a data source; its position is the former number of sources. -/
def addSource (s : Source) : Window :=
  { w with sources := w.sources ++ [s] }

/-- Put a data source in front, which moves every other one up by one position. -/
def pushFrontSource (s : Source) : Window :=
  { w with sources := s :: w.sources }

/-- Append a figure. -/
def addFigure (f : Figure) : Window :=
  { w with figures := w.figures ++ [f] }

/-- The bytes of all column data. -/
def byteSize : Nat :=
  w.sources.foldl (fun total s => total + s.byteSize) 0

end Window

namespace Group

/-- A group without windows. -/
def blank (id : Value) : Group :=
  ⟨id, 0, []⟩

variable (g : Group)

/-- Append a window. -/
def addWindow (id : String) : Group :=
  { g with windows := g.windows ++ [⟨id, g.id, [], []⟩] }

/-- All figures, window by window. -/
def figures : List Figure :=
  g.windows.flatMap Window.figures

/-- The bytes of all column data. -/
def byteSize : Nat :=
  g.windows.foldl (fun total w => total + w.byteSize) 0

end Group

end PlotStream
