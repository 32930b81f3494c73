import PlotStream.Number.Binary

/-!
# Values

The values a plotting procedure hands over: plain data, numeric scalars and arrays with an element
kind, the building blocks of a plot (references, models, figure operations) and column data
sources. A plot may hold any of them anywhere, so they form one type; what a place accepts is
decided where it is used.
-/

namespace PlotStream

/-- What a scalar or an array holds. Text and bytes have a width: the greatest number of characters
an array can hold in one item, and the exact number of a scalar. -/
inductive ElementKind
  | boolean
  | int8 | int16 | int32 | int64
  | uint8 | uint16 | uint32 | uint64
  | float16 | float32 | float64
  | complex64 | complex128
  | text (width : Nat)
  | bytes (width : Nat)
  | object
deriving DecidableEq, Repr

namespace ElementKind

/-- The name of the scalars of a kind. -/
def name : ElementKind → String
  | boolean => "bool"
  | int8 => "int8" | int16 => "int16" | int32 => "int32" | int64 => "int64"
  | uint8 => "uint8" | uint16 => "uint16" | uint32 => "uint32" | uint64 => "uint64"
  | float16 => "float16" | float32 => "float32" | float64 => "float64"
  | complex64 => "complex64" | complex128 => "complex128"
  | text _ => "str_"
  | bytes _ => "bytes_"
  | object => "object"

/-- A name with a number of bits behind it; nothing has no bits to count. -/
def counted (name : String) (bits : Nat) : String :=
  if bits = 0 then name else name ++ toString bits

/-- The name of a kind that tells its size: 32 bits for a character of text, 8 for one of bytes. -/
def sizedName : ElementKind → String
  | text width => counted "str" (32 * width)
  | bytes width => counted "bytes" (8 * width)
  | kind => kind.name

/-- The format of a kind that holds floating point numbers or their pairs. -/
def format? : ElementKind → Option BinaryFormat
  | float16 => some BinaryFormat.binary16
  | float32 | complex64 => some BinaryFormat.binary32
  | float64 | complex128 => some BinaryFormat.binary64
  | _ => none

/-- Whether an integer kind has a sign, and its number of bits. -/
def integer? : ElementKind → Option (Bool × Nat)
  | int8 => some (true, 8)
  | int16 => some (true, 16)
  | int32 => some (true, 32)
  | int64 => some (true, 64)
  | uint8 => some (false, 8)
  | uint16 => some (false, 16)
  | uint32 => some (false, 32)
  | uint64 => some (false, 64)
  | _ => none

/-- Whether a kind holds pairs of numbers. -/
def isComplex : ElementKind → Bool
  | complex64 | complex128 => true
  | _ => false

/-- Whether a kind holds text or bytes. -/
def isTextual : ElementKind → Bool
  | text _ | bytes _ => true
  | _ => false

/-- Whether a kind holds truth values or numbers. -/
def isNumeric (kind : ElementKind) : Bool :=
  !kind.isTextual && kind ≠ object

end ElementKind

/-- The first `n` runs of `size` items each. -/
def chunks {α : Type} (size : Nat) : Nat → List α → List (List α)
  | 0, _ => []
  | n + 1, xs => xs.take size :: chunks size n (xs.drop size)

/-- The number of items of an array with the given axis lengths. -/
def itemCount (shape : List Nat) : Nat :=
  shape.foldl (· * ·) 1

/-- Text without the null characters at its end, which no item of an array keeps. -/
def unpadded (s : String) : String :=
  String.ofList (s.toList.reverse.dropWhile (· = '\x00')).reverse

/-- Bytes without the zeros at their end, which no item of an array keeps. -/
def unpaddedBytes (bs : List UInt8) : List UInt8 :=
  (bs.reverse.dropWhile (· = 0)).reverse

/-- A column of a data source. -/
abbrev Column := List Double

/-- The values of a plot. -/
inductive Value
  | none
  | bool (b : Bool)
  | int (n : Int)
  | float (x : Double)
  | text (s : String)
  /-- Text with an unpaired surrogate, as its code points; only reading JSON produces it. -/
  | torn (codes : List Nat)
  | bytes (bs : List UInt8)
  | complex (re im : Double)
  | list (items : List Value)
  | tuple (items : List Value)
  | set (items : List Value)
  /-- Entries in the order of their first insertion, with distinct keys. -/
  | dict (entries : List (Value × Value))
  /-- A list whose only item is the list itself. -/
  | cyclicList
  /-- A dictionary whose only entry, `self`, is the dictionary itself. -/
  | cyclicDict
  | scalar (kind : ElementKind) (item : Value)
  /-- An array by its axis lengths and its items, the last axis running fastest. -/
  | array (kind : ElementKind) (shape : List Nat) (items : List Value)
  /-- A constant written as JSON. -/
  | literal (value : Value)
  /-- A reference to a column of the glyph's data source. -/
  | field (name : Value)
  /-- A reference to a named constant. -/
  | constant (name : Value)
  /-- A model to construct, with named arguments in order. -/
  | model (ctor : Value) (args : List (Value × Value))
  /-- The operation that draws a glyph from a data source. -/
  | glyph (method source : Value) (args : List (Value × Value))
  /-- The operation that adds a model to the layout. -/
  | layout (ctor : Value) (args : List (Value × Value))
  /-- The operation that assigns attributes, by path, on every renderer of a type. -/
  | glyphAttrs (ctor : Value) (pairs : List (List Value × Value))
  /-- The operation that assigns attributes, by path, on the figure. -/
  | figureAttrs (pairs : List (List Value × Value))
  /-- Named columns. -/
  | source (columns : List (Value × Column))
deriving Inhabited

namespace Value

/-- The name of a value's type. -/
def typeName : Value → String
  | none => "NoneType"
  | bool _ => "bool"
  | int _ => "int"
  | float _ => "float"
  | text _ | torn _ => "str"
  | bytes _ => "bytes"
  | complex _ _ => "complex"
  | list _ | cyclicList => "list"
  | tuple _ => "tuple"
  | set _ => "set"
  | dict _ | cyclicDict => "dict"
  | scalar kind _ => kind.name
  | array _ _ _ => "ndarray"
  | literal _ => "LiteralValue"
  | field _ => "FieldRef"
  | constant _ => "ValueRef"
  | model _ _ => "Construct"
  | glyph _ _ _ => "AddGlyph"
  | layout _ _ => "AddLayout"
  | glyphAttrs _ _ => "SetGlyphAttrs"
  | figureAttrs _ => "SetFigAttrs"
  | source _ => "ColumnDataSource"

/-- The name of a value's type, with the library that defines the scalars and arrays. -/
def qualifiedTypeName : Value → String
  | scalar kind _ => "numpy." ++ kind.name
  | array _ _ _ => "numpy.ndarray"
  | v => v.typeName

/-- Text of either form as code points; scalars that hold text count as text. -/
def codes? : Value → Option (List Nat)
  | text s | scalar (.text _) (text s) => some (s.toList.map Char.toNat)
  | torn codes => some codes
  | _ => Option.none

/-- Text from code points. -/
def ofCodes (codes : List Nat) : Value :=
  if codes.all Nat.isValidChar then text (String.ofList (codes.map Char.ofNat)) else torn codes

/-- The values that may stand as an argument: constants, references and models. -/
def isPlotValue : Value → Bool
  | literal _ | field _ | constant _ | model _ _ => true
  | _ => false

end Value

end PlotStream
