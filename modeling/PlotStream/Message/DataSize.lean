import PlotStream.Value.Cast

/-!
# Data sizes

A number of bytes in mebibytes, with one decimal place; a tie goes to the even digit. The bytes come
as any value that can be divided: an integer is divided exactly and rounded once, a number of a
narrow kind stays in its kind, and an array is divided item by item. A mebibyte is a kibibyte of
kibibytes, so the division by 1024 is done twice (`Value.kibi`).
-/

namespace PlotStream

namespace Double

/-- `x` plus a product of `factor` and zero, whose sign is given. -/
def addNull (x factor : Double) (negative : Bool) : Double :=
  if !factor.isFinite then nan
  else if x.isZero then ofMagnitude (x.isNegative && negative) 0
  else x

/-- The quotient of an integer and 1024, which may be out of range. -/
def kibiOfInt (n : Int) : Except Fault Double :=
  let x := ofQuotient (n < 0) n.natAbs 1024
  if x.isFinite then .ok x else .error .quotientTooLarge

end Double

namespace ElementKind

/-- The kind of the quotients of numbers of a kind. -/
def quotientKind (kind : ElementKind) : ElementKind :=
  if kind.format?.isSome then kind else .float64

end ElementKind

namespace Value

/-- An item of a numeric kind, divided by 1024. Both parts of a pair meet the zero part of the
divisor. -/
def itemKibi (kind : ElementKind) (item : Value) : Value :=
  let narrow := (kind.quotientKind.format?.getD BinaryFormat.binary64).narrow
  match item with
  | bool b => float ((Double.ofInt (if b then 1 else 0)).scale (-10))
  | int n => float ((Double.ofInt n).scale (-10))
  | float x => float (narrow (x.scale (-10)))
  | complex re im =>
    complex (narrow ((re.addNull im im.isNegative).scale (-10)))
      (narrow ((im.addNull re !re.isNegative).scale (-10)))
  | v => v

/-- A value without axes, divided by 1024. -/
def atomKibi (v : Value) : Except Fault Value :=
  match v with
  | bool b => return float (← Double.kibiOfInt (if b then 1 else 0))
  | int n => return float (← Double.kibiOfInt n)
  | float x => .ok (float (x.scale (-10)))
  | complex re im => .ok (itemKibi .complex128 (complex re im))
  | scalar .int8 _ | scalar .uint8 _ => .error (.outOfBounds "1024" v.typeName)
  | scalar kind item =>
    if kind.isNumeric then .ok (scalar kind.quotientKind (itemKibi kind item))
    else .error (.indivisible v.qualifiedTypeName)
  | v => .error (.indivisible v.qualifiedTypeName)

mutual

/-- A value divided by 1024. An array without axes gives its quotient alone. -/
def kibi : Value → Except Fault Value
  | array .object shape items => do
    match shape, ← kibiAll items with
    | [], [v] => return v
    | shape, items => return array .object shape items
  | array kind shape items =>
    if kind.isTextual then .error (.noSafeLoop "divide")
    else .ok (array kind.quotientKind shape (items.map (itemKibi kind))).lone
  | v => v.atomKibi

/-- Values divided one by one. -/
def kibiAll : List Value → Except Fault (List Value)
  | [] => return []
  | v :: vs => return (← v.kibi) :: (← kibiAll vs)

end

/-- A value as a number that can be written with fixed places; of a pair with a kind only the real
part counts. -/
def fixedReal : Value → Except Fault Double
  | float x | scalar _ (float x) | scalar _ (complex x _) => .ok x
  | array _ (_ :: _) _ => .error .arrayNotScalar
  | v => .error (.notRealNumber v.typeName)

/-- A value as a number of mebibytes. -/
def toMebibytes (v : Value) : Except Fault Double := do
  (← (← v.kibi).kibi).fixedReal

end Value

/-- A number of mebibytes as text. -/
def mebibyteText (x : Double) : String :=
  String.ofList (x.fixedPlaces 1) ++ " MB"

/-- A value as the text of a data size. -/
def dataSizeText (v : Value) : Except Fault String :=
  return mebibyteText (← v.toMebibytes)

end PlotStream
