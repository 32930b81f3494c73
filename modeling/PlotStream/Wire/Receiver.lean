import PlotStream.Wire.Frame

/-!
# The receiving side

What the browser makes of frames. A binary frame is pushed on a stack. The call that shows a window
comes with one list of names for each data source; the sources are filled from the last position to
the first, each by popping one frame for each of its names. Any other text leaves the stack alone.
-/

namespace PlotStream

/-- A data source as rebuilt by the browser: its names with the bytes of their columns. -/
abbrev RebuiltSource := List (Value × List UInt8)

/-- A window as it is shown by the browser. -/
structure ShownWindow where
  group : Value
  window : Value
  code : Value
  sources : List RebuiltSource

/-- The binary frames that have not been used, the latest first. -/
abbrev FrameStack := List (List UInt8)

namespace Receiver

/-- Pop one frame for each name. -/
def popSource (stack : FrameStack) : List Value → Option (RebuiltSource × FrameStack)
  | [] => some ([], stack)
  | name :: names =>
    match stack with
    | [] => none
    | bytes :: stack =>
      (popSource stack names).map fun (source, stack) => ((name, bytes) :: source, stack)

/-- Fill the sources whose lists of names are given, the last source first. -/
def popSources (stack : FrameStack) : List (List Value) → Option (List RebuiltSource × FrameStack)
  | [] => some ([], stack)
  | names :: rest => do
    let (source, stack) ← popSource stack names
    let (sources, stack) ← popSources stack rest
    return (sources ++ [source], stack)

/-- The lists of names in a value. -/
def nameLists? : List Value → Option (List (List Value))
  | [] => some []
  | .list names :: rest => (nameLists? rest).map (names :: ·)
  | _ => none

/-- The parts of a call that shows a window: group, window, names and code. -/
def plotWindow? (m : Message) : Option (Value × Value × List (List Value) × Value) :=
  match m.kind, m.fields with
  | .call, [(.text "name", .text "plotWin"),
      (.text "args", .list [group, window, .list names, code])] =>
    (nameLists? names).map (group, window, ·, code)
  | _, _ => none

/-- Take in a frame: the new stack, and the window that is shown, if any. There is no result when
the stack holds too few frames. -/
def receive (stack : FrameStack) : Frame → Option (FrameStack × Option ShownWindow)
  | .binary bytes => some (bytes :: stack, none)
  | .text s =>
    match Message.ofJson s with
    | .error _ => some (stack, none)
    | .ok m =>
      match plotWindow? m with
      | none => some (stack, none)
      | some (group, window, names, code) =>
        (popSources stack names).map fun (sources, stack) =>
          (stack, some ⟨group, window, code, sources⟩)

/-- Take in frames in order: the final stack, and the windows that were shown. -/
def receiveAll (stack : FrameStack) : List Frame → Option (FrameStack × List ShownWindow)
  | [] => some (stack, [])
  | f :: fs => do
    let (stack, shown) ← receive stack f
    let (stack, windows) ← receiveAll stack fs
    return (stack, shown.toList ++ windows)

end Receiver

end PlotStream
