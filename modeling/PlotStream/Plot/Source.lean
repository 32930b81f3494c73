import PlotStream.Value.Comparison

/-!
# Column data sources

A source holds named columns of equal length, in the order in which their names were first added.
Adding a column under a name that is present replaces it in place, and the only column of a source
may be replaced by one of any length.
-/

namespace PlotStream

/-- Named columns. -/
structure Source where
  columns : Entries Column

namespace Source

def empty : Source := ⟨[]⟩

variable (s : Source)

/-- The names, in order. -/
def names : List Value :=
  Entries.keys s.columns

/-- The columns, in the order of their names. -/
def values : List Column :=
  s.columns.map Prod.snd

/-- The number of rows: the length of the columns, or zero without columns. -/
def rows : Nat :=
  (s.columns.head?.map fun c => c.2.length).getD 0

/-- The size of the columns in bytes, eight for each number. -/
def byteSize : Nat :=
  s.values.foldl (fun total c => total + 8 * c.length) 0

/-- The length that a column under a name has to have: that of the first column of another name.
Every name is compared, so one that cannot be compared is found in any place. -/
def requiredLength? (name : Value) : Except Fault (Option Nat) := do
  let others ← s.columns.filterM fun c => do (← c.1.equal name).negate.truth
  return others.head?.map fun c => c.2.length

/-- Refuse a value that cannot be a key. -/
def checkKey (name : Value) : Except Fault Unit :=
  match name.unhashable? with
  | some type => .error (.unhashable type)
  | none => .ok ()

/-- Add or replace a column. The values are converted first, the length is compared next, and the
name is looked at last. -/
def addColumn (name values : Value) : Except Fault (Source × Column) := do
  let column ← values.toColumn
  match ← s.requiredLength? name with
  | some expected =>
    if expected ≠ column.length then
      throw (.unequalColumn (← name.interpolate) column.length expected)
  | none => pure ()
  checkKey name
  return (⟨Entries.insert s.columns name column⟩, column)

/-- The column of a name. -/
def column (name : Value) : Except Fault Column := do
  checkKey name
  match Entries.get? s.columns name with
  | some c => return c
  | none => throw (.missingKey (← name.repr))

/-- Whether a name is present. -/
def hasColumn (name : Value) : Except Fault Bool := do
  checkKey name
  return Entries.contains s.columns name

/-- Add columns one after the other. -/
def addColumns (s : Source) (entries : List (Value × Value)) : Except Fault Source :=
  entries.foldlM (fun s e => return (← s.addColumn e.1 e.2).1) s

/-- A source from a dictionary of columns; a value that counts as false gives an empty source. -/
def ofValue (columns : Value) : Except Fault Source := do
  if ← columns.truth then
    match columns with
    | .dict entries => addColumns empty entries
    | .cyclicDict => addColumns empty [(.text "self", .cyclicDict)]
    | v => throw (.noEntries v.qualifiedTypeName)
  else return empty

/-- A source as a value. -/
def toValue : Value := .source s.columns

/-- The source that a builder call adds: a source is taken as it is, anything else is made one. -/
def given : Value → Except Fault Source
  | .source columns => .ok ⟨columns⟩
  | v => ofValue v

/-- The text of a source. -/
def text : Except Fault String := s.toValue.repr

end Source

end PlotStream
