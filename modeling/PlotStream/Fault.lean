import PlotStream.Text.Quoted

/-!
# Faults

Everything that can go wrong, one constructor per cause. `Fault.kind` groups the causes and
`Fault.message` is the only place where their wording stands.
-/

namespace PlotStream

/-- The group a fault belongs to. -/
inductive FaultKind
  | type
  | value
  | overflow
  | key
  | index
  | member
  | runtime
  | recursion
  | system
  | json
  | malformedPlot
  | noActiveSession
  | transport
  | cancelled
  | timeout
  | other (name : String)
deriving DecidableEq, Repr

namespace FaultKind

/-- The name a fault is reported under. -/
def name : FaultKind → String
  | type => "TypeError"
  | value => "ValueError"
  | overflow => "OverflowError"
  | key => "KeyError"
  | index => "IndexError"
  | member => "AttributeError"
  | runtime => "RuntimeError"
  | recursion => "RecursionError"
  | system => "OSError"
  | json => "JSONDecodeError"
  | malformedPlot => "MalformedPlotError"
  | noActiveSession => "NoActiveSessionError"
  | transport => "TransportError"
  | cancelled => "CancelledError"
  | timeout => "TimeoutError"
  | other name => name

/-- The kind reported under a name. -/
def ofName (s : String) : FaultKind :=
  match
    [type, value, overflow, key, index, member, runtime, recursion, system, json].find?
      (·.name == s) with
  | some kind => kind
  | none => other s

end FaultKind

/-- Why a text is not a JSON document, and where. -/
structure JsonDefect where
  reason : String
  line : Nat
  column : Nat
  position : Nat
deriving DecidableEq, Repr

/-- A cause of failure. Type names and values are carried as they are shown. -/
inductive Fault
  -- writing JSON
  | notEncodable (type : String)
  | badMemberName (type : String)
  | circularReference
  | tooManyDigits
  -- nested calls
  | tooManyCalls
  | nestedTooDeeply
  -- reading JSON
  | malformedJson (defect : JsonDefect)
  | tooManyDigitsRead (count : Nat)
  | messageNotObject
  | unknownMessageType (shown : String)
  -- compiling
  | notPlotValue (shown : String)
  | notOperation (shown : String)
  | pathPartNotText (index : Nat) (type : String)
  -- taking arguments apart
  | notIterable (type : String)
  | notUnpackable (type : String)
  | tooFewItems (found : Nat)
  | tooManyItems
  | arrayWithoutAxes
  | unhashable (type : String)
  -- reading numbers
  | notInteger (type : String)
  | arrayNotScalar
  | nanToInteger
  | infinityToInteger
  | invalidInteger (shown : String)
  | notReal (type : String)
  | invalidReal (shown : String)
  | integerTooLarge
  | outOfBounds (number : String) (kind : String)
  | integerTooWide
  | malformedComplex
  | notRealNumber (type : String)
  | undecodableByte (byte : Nat) (position : Nat)
  | unencodableCharacter (shown : String) (position : Nat)
  -- arrays
  | sequenceElement
  | sequenceInText
  | unbroadcastable (source target : List Nat)
  | mismatchedShapes (left right : List Nat)
  | notReshapable (size : Nat) (shape : List Int)
  | zeroStep
  | tooManyIndices
  | noLoop (operation left : String)
  | noSafeLoop (operation : String)
  -- column data
  | noEntries (type : String)
  | raggedShape (shape : List Nat)
  | tooManyAxes
  | unequalColumn (name : String) (found expected : Nat)
  | missingKey (shown : String)
  | arrayTruth
  | emptyArrayTruth
  | outOfRange (collection : String)
  -- builder calls
  | repeatedArgument (call name : String)
  -- plot validation
  | incomparable (operator left right : String)
  | missingSource (method : String) (figure : Nat) (window source : String) (count : Nat)
  -- data sizes
  | indivisible (type : String)
  | quotientTooLarge
  -- logging
  | unknownLevel (shown : String)
  | levelNotText (shown : String)
  -- the session
  | noActiveSession
  | sendFailed (frame : String) (detail : String)
  | leaseNotHeld
  | wouldBlock
  | cancelled
  | timedOut
  -- whatever the environment reports
  | raised (kind : FaultKind) (detail : String)
deriving DecidableEq, Repr

namespace Fault

/-- The advice that follows a refusal to convert a very long integer. -/
def digitAdvice : String :=
  "; use sys.set_int_max_str_digits() to increase the limit"

/-- What is said of calls that nest too deeply. -/
def depthText : String := "maximum recursion depth exceeded"

/-- A list of axis lengths, with a comma after a single one. -/
def shapeText : List Nat → String
  | [n] => "(" ++ toString n ++ ",)"
  | ns => "(" ++ ", ".intercalate (ns.map toString) ++ ")"

/-- A list of axis lengths without blanks. -/
def tightShapeText : List String → String
  | [n] => "(" ++ n ++ ",)"
  | ns => "(" ++ ",".intercalate ns ++ ")"

/-- What is said of an item that is a sequence. -/
def sequenceText : String := "setting an array element with a sequence"

/-- The wording of a fault. -/
def message : Fault → String
  | notEncodable type => "Object of type " ++ type ++ " is not JSON serializable"
  | badMemberName type => "keys must be str, int, float, bool or None, not " ++ type
  | circularReference => "Circular reference detected"
  | tooManyDigits => "Exceeds the limit (4300 digits) for integer string conversion" ++ digitAdvice
  | tooManyCalls => depthText
  | nestedTooDeeply => depthText ++ " while encoding a JSON object"
  | malformedJson d =>
    d.reason ++ ": line " ++ toString d.line ++ " column " ++ toString d.column ++
      " (char " ++ toString d.position ++ ")"
  | tooManyDigitsRead count =>
    "Exceeds the limit (4300 digits) for integer string conversion: value has " ++
      toString count ++ " digits" ++ digitAdvice
  | messageNotObject => "message must be a JSON object"
  | unknownMessageType shown => shown ++ " is not a valid MessageType"
  | notPlotValue shown => "Not a Bokeh value: " ++ shown
  | notOperation shown => "Not a figure operation: " ++ shown
  | pathPartNotText index type =>
    "sequence item " ++ toString index ++ ": expected str instance, " ++ type ++ " found"
  | notIterable type => "'" ++ type ++ "' object is not iterable"
  | notUnpackable type => "cannot unpack non-iterable " ++ type ++ " object"
  | tooFewItems found => "not enough values to unpack (expected 2, got " ++ toString found ++ ")"
  | tooManyItems => "too many values to unpack (expected 2)"
  | arrayWithoutAxes => "iteration over a 0-d array"
  | unhashable type => "unhashable type: '" ++ type ++ "'"
  | notInteger type =>
    "int() argument must be a string, a bytes-like object or a real number, not '" ++ type ++ "'"
  | arrayNotScalar => "only 0-dimensional arrays can be converted to Python scalars"
  | nanToInteger => "cannot convert float NaN to integer"
  | infinityToInteger => "cannot convert float infinity to integer"
  | invalidInteger shown => "invalid literal for int() with base 10: " ++ shown
  | notReal type => "float() argument must be a string or a real number, not '" ++ type ++ "'"
  | invalidReal shown => "could not convert string to float: " ++ shown
  | integerTooLarge => "int too large to convert to float"
  | noEntries type => "'" ++ type ++ "' object has no attribute 'items'"
  | outOfBounds number kind => "Python integer " ++ number ++ " out of bounds for " ++ kind
  | integerTooWide => "Python int too large to convert to C long"
  | malformedComplex => "complex() arg is a malformed string"
  | notRealNumber type => "must be real number, not " ++ type
  | undecodableByte byte position =>
    "'ascii' codec can't decode byte 0x" ++ String.ofList (Text.hexText 2 byte) ++
      " in position " ++ toString position ++ ": ordinal not in range(128)"
  | unencodableCharacter shown position =>
    "'ascii' codec can't encode character " ++ shown ++ " in position " ++ toString position ++
      ": ordinal not in range(128)"
  | sequenceElement => sequenceText ++ "."
  | sequenceInText => sequenceText
  | unbroadcastable source target =>
    "could not broadcast input array from shape " ++ tightShapeText (source.map toString) ++
      " into shape " ++ tightShapeText (target.map toString)
  | mismatchedShapes left right =>
    "operands could not be broadcast together with shapes " ++
      tightShapeText (left.map toString) ++ " " ++ tightShapeText (right.map toString) ++ " "
  | notReshapable size shape =>
    "cannot reshape array of size " ++ toString size ++ " into shape " ++
      tightShapeText (shape.map toString)
  | zeroStep => "slice step cannot be zero"
  | tooManyIndices =>
    "too many indices for array: array is 0-dimensional, but 1 were indexed"
  | noLoop operation left =>
    "ufunc '" ++ operation ++ "' did not contain a loop with signature matching types " ++
      "(<class 'numpy.dtypes." ++ left ++ "'>, <class 'numpy.dtypes._PyLongDType'>) -> None"
  | noSafeLoop operation =>
    "ufunc '" ++ operation ++ "' not supported for the input types, and the inputs could not be " ++
      "safely coerced to any supported types according to the casting rule ''safe''"
  | raggedShape shape =>
    sequenceText ++ ". The requested array has an inhomogeneous shape " ++
      "after " ++ toString shape.length ++ " dimensions. The detected shape was " ++
      shapeText shape ++ " + inhomogeneous part."
  | tooManyAxes =>
    sequenceText ++ ". The requested array would exceed the maximum number of dimension of 64."
  | unequalColumn name found expected =>
    "Column '" ++ name ++ "' has " ++ toString found ++ " values, expected " ++
      toString expected ++ " like the other columns"
  | missingKey shown => shown
  | arrayTruth =>
    "The truth value of an array with more than one element is ambiguous. Use a.any() or a.all()"
  | emptyArrayTruth =>
    "The truth value of an empty array is ambiguous. Use `array.size > 0` to check that an " ++
      "array is not empty."
  | outOfRange collection => collection ++ " index out of range"
  | repeatedArgument call name => call ++ "() got multiple values for argument '" ++ name ++ "'"
  | incomparable operator left right =>
    "'" ++ operator ++ "' not supported between instances of '" ++ left ++ "' and '" ++ right ++ "'"
  | missingSource method figure window source count =>
    "Glyph '" ++ method ++ "' of figure " ++ toString figure ++ " in window '" ++ window ++
      "' uses data source " ++ source ++ ", but the window has " ++ toString count
  | indivisible type => "unsupported operand type(s) for /: '" ++ type ++ "' and 'int'"
  | quotientTooLarge => "integer division result too large for a float"
  | unknownLevel shown => "Unknown level: " ++ shown
  | levelNotText shown => "Level not an integer or a valid string: " ++ shown
  | noActiveSession => "No WebSocket session is active"
  | sendFailed frame detail => "Failed to send " ++ frame ++ " frame: " ++ detail
  | leaseNotHeld => "Lock is not acquired."
  | wouldBlock => "plot_sync() would block the event loop; await ui_plot() instead"
  | cancelled => ""
  | timedOut => ""
  | raised .key detail => Text.quoted detail
  | raised _ detail => detail

/-- The group of a fault. -/
def kind : Fault → FaultKind
  | notEncodable _ | badMemberName _ | notPlotValue _ | notOperation _ | pathPartNotText _ _
  | notIterable _ | notUnpackable _ | arrayWithoutAxes | unhashable _ | notInteger _
  | arrayNotScalar | notReal _ | incomparable _ _ _ | indivisible _ | notRealNumber _
  | repeatedArgument _ _ | noSafeLoop _ | levelNotText _ => .type
  | circularReference | tooManyDigits | tooManyDigitsRead _ | messageNotObject
  | unknownMessageType _ | tooFewItems _ | tooManyItems | nanToInteger | invalidInteger _
  | invalidReal _ | raggedShape _ | tooManyAxes | unequalColumn _ _ _ | arrayTruth | emptyArrayTruth
  | malformedComplex | sequenceElement | sequenceInText | unbroadcastable _ _
  | mismatchedShapes _ _ | notReshapable _ _ | zeroStep | unknownLevel _ => .value
  | infinityToInteger | integerTooLarge | quotientTooLarge | outOfBounds _ _
  | integerTooWide => .overflow
  | tooManyCalls | nestedTooDeeply => .recursion
  | noLoop _ _ => .other "UFuncTypeError"
  | undecodableByte _ _ => .other "UnicodeDecodeError"
  | unencodableCharacter _ _ => .other "UnicodeEncodeError"
  | missingKey _ => .key
  | outOfRange _ | tooManyIndices => .index
  | noEntries _ => .member
  | malformedJson _ => .json
  | missingSource _ _ _ _ _ => .malformedPlot
  | noActiveSession => .noActiveSession
  | sendFailed _ _ => .transport
  | leaseNotHeld | wouldBlock => .runtime
  | cancelled => .cancelled
  | timedOut => .timeout
  | raised kind _ => kind

end Fault

end PlotStream
