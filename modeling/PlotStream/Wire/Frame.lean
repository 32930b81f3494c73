import PlotStream.Message
import PlotStream.Plot.Code

/-!
# Frames of a plot

A plot goes to the browser as text frames, each with a message, and binary frames, each with the raw
numbers of a column. `Window.columnFrames` fixes the order of the latter: sources in order, the
columns of each source from the last to the first, so that the browser takes them off its stack of
binary frames in column order. `Window.columnNames` describes the sources from the last to the
first, and each source's columns in order.
-/

namespace PlotStream

/-- A frame on a connection. -/
inductive Frame
  | text (s : String)
  | binary (bytes : List UInt8)
deriving DecidableEq, Repr

/-- The kind of a frame, as reports name it. -/
def Frame.kindName : Frame → String
  | text _ => "text"
  | binary _ => "binary"

/-- The bytes of a column, eight for each number. -/
def columnBytes (c : Column) : List UInt8 :=
  c.flatMap Double.littleEndian

/-- The columns of a source as frames, the last column first. -/
def Source.frames (s : Source) : List Frame :=
  s.values.reverse.map fun c => .binary (columnBytes c)

namespace Window

variable (w : Window)

/-- The columns of all sources as frames. -/
def columnFrames : List Frame :=
  w.sources.flatMap Source.frames

/-- The names of the columns, one list for each source, the last source first. -/
def columnNames : List Value :=
  (w.sources.map fun s => Value.list s.names).reverse

/-- The message that shows the window with its code. -/
def message (code : String) : Message :=
  Message.plotWindow w.groupId (.text w.id) (.list w.columnNames) (.text code)

end Window

/-- The announcement of the amount of column data of a group, as a text. -/
def Group.announcement (room : Room) (g : Group) : Except Fault String := do
  (← Message.dataSize (.int g.byteSize)).toJson room.calls

end PlotStream
