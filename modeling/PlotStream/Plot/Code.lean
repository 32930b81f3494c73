import PlotStream.Json.Writer
import PlotStream.Plot.Tree

/-!
# Code for the browser

A window compiles to one function of the group, the window and the rebuilt data sources. Each of its
figures becomes a call of its own: the operations in declaration order, the linked ranges, the
command to show, and last the construction of the figure itself. Constants are written as JSON, and
everything else is put together from names. The same tree always gives the same code. Models and constants
that are nested too deeply for the room there is have none.
-/

namespace PlotStream

namespace Code

/-- Text with the given name of the plotting library in front. -/
def library (name : String) : String :=
  "Bokeh." ++ name

/-- Code between braces. -/
def braced (s : String) : String :=
  "\x7b" ++ s ++ "\x7d"

/-- An object with written members. -/
def object (members : List String) : String :=
  if members.isEmpty then braced "" else braced (" " ++ ", ".intercalate members ++ " ")

/-- A written member of an object. -/
def member (name value : String) : String :=
  name ++ ": " ++ value

/-- A value as JSON, which is an expression of the browser's language as well. -/
def json (room : Nat) (v : Value) : Except Fault String :=
  Json.write .unwrap room v

/-- The construction of a model. -/
def construct (ctor args : String) : String :=
  "new " ++ library ctor ++ "(" ++ args ++ ")"

mutual

/-- An argument as an expression. -/
def ofValue (room : Nat) : Value → Except Fault String
  | .literal v => json room v
  | .field name => return object [member "field" (← json room name)]
  | .constant name => return object [member "value" (← json room name)]
  | .model ctor args => do
    let ctor ← ctor.interpolate
    let entries ← descend .tooManyCalls modelCalls room fun room => ofEntries room args
    return construct ctor (object entries)
  | v => do throw (.notPlotValue (← v.repr))

/-- Named arguments as members of an object, in order and with their repetitions. -/
def ofEntries (room : Nat) : List (Value × Value) → Except Fault (List String)
  | [] => return []
  | (name, v) :: args => do
    let name ← name.interpolate
    return member name (← ofValue room v) :: (← ofEntries room args)

end

/-- Named arguments as an object. -/
def ofArguments (room : Nat) (args : Arguments) : Except Fault String :=
  return object (← ofEntries room args)

/-- The parts of an attribute path as texts; `index` counts the parts before, the root included. Text with
an unpaired surrogate, which is no text here, stands quoted, as it does inside other text. -/
def pathParts (index : Nat) : List Value → Except Fault (List String)
  | [] => return []
  | part :: parts => do
    match part with
    | .text s | .scalar (.text _) (.text s) => return s :: (← pathParts (index + 1) parts)
    | .torn codes => return Text.quotedCodes codes :: (← pathParts (index + 1) parts)
    | part => throw (.pathPartNotText index part.qualifiedTypeName)

/-- An attribute of a root object, by path. -/
def accessor (root : String) (path : List Value) : Except Fault String :=
  return ".".intercalate (root :: (← pathParts 1 path))

/-- Statements that assign attributes, each behind an indentation. -/
def assignments (room : Nat) (indent root : String) : Assignments → Except Fault String
  | [] => return ""
  | (path, v) :: rest => do
    let target ← accessor root path
    let value ← ofValue room v
    return indent ++ target ++ " = " ++ value ++ ";\n" ++ (← assignments room indent root rest)

/-- The statements of one operation. -/
def ofOperation (room : Nat) : Value → Except Fault String
  | .glyph method src args => do
    let entries := member "source" ("cdsa[" ++ (← src.interpolate) ++ "]") :: (← ofEntries room args)
    return "fig." ++ (← method.interpolate) ++ "(" ++ object entries ++ ")\n"
  | .layout ctor args => do
    let ctor ← ctor.interpolate
    return "fig.add_layout(" ++ construct ctor (object (← ofEntries room args)) ++ ")\n"
  | .glyphAttrs ctor pairs => do
    let opening := "for (let g of fig.select(" ++ library (← ctor.interpolate) ++ ")) \x7b\n"
    return opening ++ (← assignments room "  " "g" pairs) ++ "\x7d\n"
  | .figureAttrs pairs => assignments room "" "fig" pairs
  | v => do throw (.notOperation (← v.repr))

/-- The statements of one operation, behind code that is already there. -/
def appendOperation (room : Nat) (code : String) (op : Value) : Except Fault String :=
  return code ++ (← ofOperation room op)

/-- The key that the ranges linked to one axis of a group share. -/
def linkKey (group axis : Value) : Except Fault String :=
  return "rng@" ++ (← group.interpolate) ++ "#" ++ (← axis.interpolate)

/-- The statement that links a range. -/
def ofLink (room : Nat) (group range axis : Value) : Except Fault String := do
  let range ← range.interpolate
  let key ← linkKey group axis
  return "syncRange(fig." ++ range ++ ", " ++ (← json room (.text key)) ++ ");\n"

/-- The statement that links a range, behind code that is already there. -/
def appendLink (room : Nat) (code : String) (group range axis : Value) : Except Fault String :=
  return code ++ (← ofLink room group range axis)

/-- The statements of operations, in order. -/
def ofOperations (room : Nat) : List Value → Except Fault String
  | [] => return ""
  | op :: ops => return (← ofOperation room op) ++ (← ofOperations room ops)

/-- The statements of linked ranges, in order. -/
def ofLinks (room : Nat) (group : Value) : List (Value × Value) → Except Fault String
  | [] => return ""
  | (range, axis) :: links =>
    return (← ofLink room group range axis) ++ (← ofLinks room group links)

/-- A figure as a call that builds and shows it. -/
def ofFigure (room : Nat) (f : Figure) : Except Fault String := do
  let operations ← ofOperations room f.operations
  let links ← ofLinks room f.groupId f.links
  let arguments ← ofArguments room f.arguments
  return "(async function(fig) \x7b\n" ++ operations ++ links ++ library "Plotting.show(fig);\n" ++
    "\x7d)(" ++ library "Plotting.figure(" ++ arguments ++ "))\n"

/-- The calls of figures, in order. -/
def ofFigures (room : Nat) : List Figure → Except Fault String
  | [] => return ""
  | f :: fs => return (← ofFigure room f) ++ (← ofFigures room fs)

/-- A window as a function. -/
def ofWindow (room : Nat) (w : Window) : Except Fault String :=
  return "(pgid, pwid, cdsa) => \x7b\n\n" ++ (← ofFigures room w.figures) ++ "\n\x7d\n"

end Code

end PlotStream
