import PlotStream.Plot.Tree

/-!
# Validation of a group

Before anything is sent, every glyph has to name a data source that its window has. The check goes
window by window, figure by figure, operation by operation, and stops at the first glyph that does
not; sources without rows are noted after the glyphs of their window.
-/

namespace PlotStream

/-- A source without rows: its position and its window. -/
structure EmptySource where
  position : Nat
  window : String
deriving DecidableEq, Repr

/-- The outcome of a check: what was noted, and the fault that ended it. -/
structure Validation where
  emptySources : List EmptySource
  fault? : Option Fault

/-- Whether a value has an order to integers, as an array or a number. Pairs of numbers have one only
if they carry a kind. -/
def isOrdered (v : Value) : Bool :=
  match v with
  | .complex _ _ => false
  | v => v.isArray || v.number?.isSome

/-- Whether a value lies in `0 ≤ v < bound`. -/
def inRange (bound : Nat) (v : Value) : Except Fault Bool := do
  if !isOrdered v then throw (.incomparable "<=" "int" v.qualifiedTypeName)
  if ← (← v.order .atLeast 0).truth then (← v.order .below bound).truth else return false

/-- The fault of a glyph that names a source its window does not have. -/
def missingSource (windowId : String) (sources figure : Nat) (method source : Value) : Fault :=
  match method.interpolate, source.interpolate with
  | .ok method, .ok source => .missingSource method figure windowId source sources
  | .error fault, _ => fault
  | _, .error fault => fault

/-- Check one operation of a figure. -/
def checkOperation (windowId : String) (sources figure : Nat) : Value → Except Fault Unit
  | .glyph method source _ => do
    if ← inRange sources source then return ()
    else throw (missingSource windowId sources figure method source)
  | _ => .ok ()

namespace Window

variable (w : Window)

/-- Check the operations of every figure. -/
def checkGlyphs : Except Fault Unit :=
  w.figures.zipIdx.forM fun (f, i) =>
    f.operations.forM (checkOperation w.id w.sources.length i)

/-- The sources without rows. -/
def emptySources : List EmptySource :=
  w.sources.zipIdx.filterMap fun (s, i) => if s.rows = 0 then some ⟨i, w.id⟩ else none

end Window

/-- Check windows one after the other. -/
def validateWindows : List Window → Validation
  | [] => ⟨[], none⟩
  | w :: ws =>
    match w.checkGlyphs with
    | .error fault => ⟨[], some fault⟩
    | .ok () =>
      let rest := validateWindows ws
      ⟨w.emptySources ++ rest.emptySources, rest.fault?⟩

/-- Check a group. -/
def Group.validate (g : Group) : Validation :=
  validateWindows g.windows

end PlotStream
