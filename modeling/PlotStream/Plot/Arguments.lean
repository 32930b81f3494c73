import PlotStream.Value.Items
import PlotStream.Value.Show

/-!
# Arguments

How the arguments of a builder call are brought to their final form. Plain data becomes a constant;
named arguments come as a dictionary or as pairs and end as a list of pairs in caller order; the
path of an attribute comes as dotted text or as its parts.
-/

namespace PlotStream

/-- Named arguments in caller order, repeated names included. -/
abbrev Arguments := List (Value × Value)

/-- Assignments to attribute paths, in caller order. -/
abbrev Assignments := List (List Value × Value)

namespace Value

/-- A value fit to be an argument: whatever is not one already becomes a constant. -/
def asArgument (v : Value) : Value :=
  if v.isPlotValue then v else literal v

/-- One named argument; a name of any type is turned into text. -/
def namedArgument (name value : Value) : Except Fault (Value × Value) :=
  return (text (← name.toText), value.asArgument)

/-- A pair as a named argument. -/
def pairArgument (v : Value) : Except Fault (Value × Value) := do
  let (name, value) ← v.pair
  namedArgument name value

/-- Named arguments from nothing, a dictionary, or pairs. -/
def toArguments : Value → Except Fault Arguments
  | none => .ok []
  | dict entries => entries.mapM fun (name, value) => namedArgument name value
  | cyclicDict => return [← namedArgument (text "self") cyclicDict]
  | v => v.items.mapM pairArgument

/-- The parts of an attribute path: text is split at its dots, and anything else gives its items. -/
def toPath (v : Value) : Except Fault (List Value) :=
  match v.codes? with
  | some codes => .ok ((codes.splitOn '.'.toNat).map ofCodes)
  | Option.none => v.items.mapM .ok

/-- A pair as the assignment of a value to a path. -/
def pairAssignment (v : Value) : Except Fault (List Value × Value) := do
  let (path, value) ← v.pair
  return (← path.toPath, value.asArgument)

/-- Assignments from pairs. -/
def toAssignments (v : Value) : Except Fault Assignments :=
  v.items.mapM pairAssignment

end Value

/-- Arguments given as one value, followed by those given by keyword. -/
def mergeArguments (args : Value) (keywords : List (String × Value)) :
    Except Fault Arguments := do
  let positional ← args.toArguments
  let named ← (Value.dictOf (keywords.map fun (k, v) => (Value.text k, v))).toArguments
  return positional ++ named

end PlotStream
