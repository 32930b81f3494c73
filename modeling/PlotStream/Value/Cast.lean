import PlotStream.Value.Number

/-!
# Bringing values to a kind

Every value that an array of a kind can hold has one plain form as its item, found by
`ElementKind.cast`: a truth value, an integer within the bounds of the kind, a number rounded to its
format, text or bytes. `ElementKind.join` is the kind that two kinds meet in, as when values of both
stand side by side.
-/

namespace PlotStream

namespace ElementKind

/-- The number of characters that are set aside for the text of an item. -/
def textWidth : ElementKind → Nat
  | boolean => 5
  | int8 => 4
  | uint8 => 3
  | int16 => 6
  | uint16 => 5
  | int32 => 11
  | uint32 => 10
  | int64 => 21
  | uint64 => 20
  | float16 | float32 | float64 => 32
  | complex64 | complex128 => 64
  | text width | bytes width => width
  | object => 0

/-- The narrowest floating point format that every item of a numeric kind can be brought to. -/
def meetingFormat (kind : ElementKind) : BinaryFormat :=
  match kind.format?, kind.integer? with
  | some fmt, _ => fmt
  | none, some (_, bits) =>
    if bits ≤ 8 then BinaryFormat.binary16
    else if bits ≤ 16 then BinaryFormat.binary32
    else BinaryFormat.binary64
  | none, none => BinaryFormat.binary16

/-- The signed kind of a number of bits; beyond 64 bits only real numbers are left. -/
def signedOf (bits : Nat) : ElementKind :=
  if bits ≤ 8 then int8
  else if bits ≤ 16 then int16
  else if bits ≤ 32 then int32
  else if bits ≤ 64 then int64
  else float64

/-- The kind two integer kinds meet in. -/
def joinIntegers (a b : ElementKind) : Bool × Nat → Bool × Nat → ElementKind
  | (s, m), (t, n) =>
    if s = t then (if n ≤ m then a else b)
    else if s then (if n < m then a else signedOf (2 * n))
    else if m < n then b else signedOf (2 * m)

/-- The kind of the numbers of a format. -/
def ofFormat (pairs : Bool) (fmt : BinaryFormat) : ElementKind :=
  if fmt = BinaryFormat.binary64 then (if pairs then complex128 else float64)
  else if pairs then complex64
  else if fmt = BinaryFormat.binary32 then float32
  else float16

/-- The kind two numeric kinds meet in. -/
def joinNumeric (a b : ElementKind) : ElementKind :=
  match a.integer?, b.integer?, a, b with
  | some i, some j, _, _ => joinIntegers a b i j
  | _, some _, boolean, _ => b
  | some _, _, _, boolean => a
  | _, _, a, b =>
    let f := a.meetingFormat
    let g := b.meetingFormat
    ofFormat (a.isComplex || b.isComplex) (if f.fractionBits < g.fractionBits then g else f)

/-- The kind two kinds meet in. -/
def join (a b : ElementKind) : ElementKind :=
  match a, b with
  | object, _ | _, object => object
  | text m, b => text (max m b.textWidth)
  | a, text n => text (max a.textWidth n)
  | bytes m, b => bytes (max m b.textWidth)
  | a, bytes n => bytes (max a.textWidth n)
  | a, b => if a = b then a else joinNumeric a b

end ElementKind

/-- The integer that the lowest bits of an integer stand for. -/
def wrapInteger (signed : Bool) (bits : Nat) (n : Int) : Int :=
  if signed then n.bmod (Nat.pow 2 bits) else n % Nat.pow 2 bits

/-- Whether an integer has no more than the given bits. -/
def fitsInteger (signed : Bool) (bits : Nat) (n : Int) : Bool :=
  wrapInteger signed bits n = n

namespace Value

/-- The item of an array without axes as a value of its own; any other value as it is. -/
def lone : Value → Value
  | array kind [] [v] => ofItem kind v
  | v => v

/-- A value as an integer of a width. Integers have to fit, everything else loses its upper
bits. -/
def castInteger (kind : ElementKind) (signed : Bool) (bits : Nat) (v : Value) :
    Except Fault Int :=
  match v with
  | int n =>
    if fitsInteger signed bits n then .ok n
    else do throw (.outOfBounds (← integerText n) kind.name)
  | scalar _ (int n) => .ok (wrapInteger signed bits n)
  | scalar _ (float x) | scalar _ (complex x _) =>
    .ok (wrapInteger signed bits (if x.isFinite then x.truncate else -Nat.pow 2 63))
  | v =>
    if v.isSequence then .error .sequenceElement
    else do
      let n ← v.toInteger
      if fitsInteger true 64 n || fitsInteger signed bits n then return wrapInteger signed bits n
      else throw .integerTooWide

/-- A pair of numbers read from characters. -/
def complexOfChars (fmt : BinaryFormat) (cs : List Char) : Except Fault (Double × Double) :=
  match Numeral.readPair? cs with
  | some (re, im) => .ok (fmt.narrow re, fmt.narrow im)
  | Option.none => .error .malformedComplex

/-- A value as a pair of numbers. -/
def castComplex (fmt : BinaryFormat) (v : Value) : Except Fault (Double × Double) :=
  match v with
  | none => .ok (Double.nan, Double.nan)
  | complex re im | scalar _ (complex re im) => .ok (fmt.narrow re, fmt.narrow im)
  | text s | scalar _ (text s) => complexOfChars fmt (Text.foldNumeral s.toList)
  | bytes bs | scalar _ (bytes bs) => complexOfChars fmt (charsOfBytes bs)
  | v =>
    match v.toReal with
    | .ok x => .ok (fmt.narrow x, Double.zero)
    | .error (.notReal type) => .error (.notRealNumber type)
    | .error fault => .error fault

/-- Bytes as text, if all of them are below 128. -/
def decodeAscii (bs : List UInt8) : Except Fault String :=
  match bs.findIdx? fun b => 128 ≤ b.toNat with
  | some i => .error (.undecodableByte ((bs[i]?.map UInt8.toNat).getD 0) i)
  | Option.none => .ok (String.ofList (charsOfBytes bs))

/-- Text as bytes, if all of its characters are below 128. -/
def encodeAscii (s : String) : Except Fault (List UInt8) :=
  match s.toList.findIdx? fun c => 128 ≤ c.toNat with
  | some i =>
    let c := (s.toList[i]?).getD '?'
    let shown :=
      if c.toNat < 256 then "\\x" ++ String.ofList (Text.hexText 2 c.toNat)
      else if c.toNat < 65536 then "\\u" ++ String.ofList (Text.hexText 4 c.toNat)
      else "\\U" ++ String.ofList (Text.hexText 8 c.toNat)
    .error (.unencodableCharacter ("'" ++ shown ++ "'") i)
  | Option.none => .ok (s.toList.map fun c => UInt8.ofNat c.toNat)

/-- A value as text, with the null characters at its end. -/
def castText (v : Value) : Except Fault String :=
  if v.isSequence then .error .sequenceInText
  else
    match v with
    | text s | scalar _ (text s) => .ok s
    | bytes bs | scalar _ (bytes bs) => decodeAscii bs
    | v => v.toText

/-- A value as bytes, with the zeros at their end. -/
def castBytes (v : Value) : Except Fault (List UInt8) :=
  if v.isSequence then .error .sequenceInText
  else
    match v with
    | bytes bs | scalar _ (bytes bs) => .ok bs
    | text s | scalar _ (text s) => encodeAscii s
    | v => do encodeAscii (← v.toText)

end Value

namespace ElementKind

/-- The item that holds a value in a kind. -/
def cast (kind : ElementKind) (v : Value) : Except Fault Value :=
  match kind with
  | object => .ok v
  | boolean => return .bool (← v.truth)
  | text _ => return .text (unpadded (← v.lone.castText))
  | bytes _ => return .bytes (unpaddedBytes (← v.lone.castBytes))
  | kind =>
    match kind.integer?, kind.format? with
    | some (signed, bits), _ => return .int (← v.lone.castInteger kind signed bits)
    | none, some fmt =>
      if kind.isComplex then do
        let (re, im) ← v.lone.castComplex fmt
        return .complex re im
      else return .float (fmt.narrow (← v.toReal))
    | none, none => .ok v

/-- The number of characters that a value needs as text or bytes. -/
def widthNeeded (v : Value) : Except Fault Nat :=
  match v.lone with
  | .text s | .scalar _ (.text s) => .ok s.length
  | .bytes bs | .scalar _ (.bytes bs) => .ok bs.length
  | .scalar kind _ => .ok kind.textWidth
  | v => return (← v.toText).length

end ElementKind

end PlotStream
