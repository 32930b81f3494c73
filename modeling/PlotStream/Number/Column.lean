import PlotStream.Number.Places

/-!
# Numbers in line

The numbers of one array are written alike, so that their points stand at the same distance from
either end: each is padded with spaces. Real numbers have at most eight digits behind the point and
share one notation, plain or with exponents (`RealColumn`); integers end in line.
-/

namespace PlotStream

/-- How the real numbers of one array are written. -/
structure RealColumn where
  format : BinaryFormat
  /-- Whether numbers that are not negative carry a sign. -/
  signed : Bool
  /-- Whether numbers are written with exponents. -/
  scientific : Bool
  /-- The width before the point, the sign included. -/
  left : Nat
  /-- The number of digits behind the point. -/
  places : Nat
  /-- The number of digits of an exponent. -/
  exponentWidth : Nat
deriving Repr

/-- The greatest number of digits behind the point. -/
def mostPlaces : Nat := 8

/-- Characters with spaces in front, up to a width. -/
def padLeft (width : Nat) (cs : List Char) : List Char :=
  List.replicate (width - cs.length) ' ' ++ cs

/-- Characters with spaces behind, up to a width. -/
def padRight (width : Nat) (cs : List Char) : List Char :=
  cs ++ List.replicate (width - cs.length) ' '

/-- The greatest of some widths. -/
def widest (widths : List Nat) : Nat :=
  widths.foldl max 0

namespace RealColumn

/-- The magnitude from which on numbers are written with exponents. -/
def exponentFrom (fmt : BinaryFormat) : Double :=
  if fmt = BinaryFormat.binary64 then Double.ofDecimal false 1 mostPlaces
  else (NumberLayout.ofFormat fmt).plainBelow

/-- The quotient of two positive finite numbers of a format, rounded to the format. -/
def quotient (fmt : BinaryFormat) (x y : Double) : Double :=
  let (m, e) := BinaryFormat.binary64.magnitude x.unsigned
  let (n, f) := BinaryFormat.binary64.magnitude y.unsigned
  fmt.widen (fmt.round (m * Nat.pow 2 (e - f).toNat) (n * Nat.pow 2 (f - e).toNat))

/-- Whether numbers other than zero are written with exponents: because one is large, because one
is small, or because one is more than a thousand times another. -/
def needsExponents (fmt : BinaryFormat) : List Double → Bool
  | [] => false
  | x :: xs =>
    let greatest := xs.foldl (fun n y => max n y.unsigned) x.unsigned
    let least := xs.foldl (fun n y => min n y.unsigned) x.unsigned
    let ratio := quotient fmt (Double.ofMagnitude false greatest) (Double.ofMagnitude false least)
    (exponentFrom fmt).unsigned ≤ greatest ||
      least < (fmt.narrow NumberLayout.standard.plainFrom).unsigned ||
      (Double.ofInt 1000).unsigned < ratio.unsigned

/-- The sign of a number in a column. -/
def signText (signed : Bool) (x : Double) : List Char :=
  if x.isNegative then ['-'] else if signed then ['+'] else []

/-- The widths that finite numbers need, written with exponents. -/
def ofScientific (fmt : BinaryFormat) (signed : Bool) (xs : List Double) : RealColumn :=
  let ds := xs.map fun x => x.decimalIn fmt (.behindFirst 0 mostPlaces)
  { format := fmt
    signed
    scientific := true
    left := widest (xs.map fun x => (signText signed x).length + 1)
    places := widest (ds.map fun d => d.digitText.length - 1)
    exponentWidth := widest (ds.map fun d => (padNat 2 d.exponent.natAbs).length) }

/-- The widths that finite numbers need, written plainly. -/
def ofPlain (fmt : BinaryFormat) (signed : Bool) (xs : List Double) : RealColumn :=
  let ds := xs.map fun x => (x, x.decimalIn fmt (.behindPoint 0 mostPlaces))
  { format := fmt
    signed
    scientific := false
    left := widest (ds.map fun (x, d) => (signText signed x).length + d.wholeText.length)
    places := widest (ds.map fun (_, d) => d.fractionText.length)
    exponentWidth := 0 }

variable (c : RealColumn)

/-- The width behind the point. -/
def right : Nat :=
  if c.scientific then c.exponentWidth + 2 + c.places else c.places

/-- Room for the words that stand for what is not finite. -/
def widened (xs : List Double) : RealColumn :=
  if xs.all Double.isFinite then c
  else
    let minus := c.signed || xs.any fun x => x.isInfinite && x.isNegative
    let word := if minus then 4 else 3
    { c with left := max c.left (max (3 - (c.right + 1)) (word - (c.right + 1))) }

/-- The column of some numbers of a format. -/
def ofList (fmt : BinaryFormat) (signed : Bool) (xs : List Double) : RealColumn :=
  let finite := xs.filter Double.isFinite
  let c :=
    if needsExponents fmt (finite.filter fun x => !x.isZero) then ofScientific fmt signed finite
    else ofPlain fmt signed finite
  c.widened xs

/-- A number that is not finite. -/
def wordCell (x : Double) : List Char :=
  let word :=
    if x.isNaN then (if c.signed then "+nan" else "nan").toList
    else signText c.signed x ++ "inf".toList
  padLeft (c.left + c.right + 1) word

/-- A finite number with an exponent. -/
def scientificCell (x : Double) : List Char :=
  let d := x.decimalIn c.format (.behindFirst c.places c.places)
  let digits := d.digitText
  padLeft c.left (signText c.signed x ++ digits.take 1) ++ '.' :: digits.drop 1 ++
    List.replicate (c.places - (digits.length - 1)) '0' ++
    exponentText c.exponentWidth d.exponent

/-- A finite number written plainly. -/
def plainCell (x : Double) : List Char :=
  let d := x.decimalIn c.format (.behindPoint 0 mostPlaces)
  padLeft c.left (signText c.signed x ++ d.wholeText) ++ '.' :: padRight c.places d.fractionText

/-- A number in its column. -/
def cell (x : Double) : List Char :=
  if !x.isFinite then c.wordCell x
  else if c.scientific then c.scientificCell x
  else c.plainCell x

end RealColumn

/-- Integers, ending in line. -/
def integerColumn (ns : List Int) : List (List Char) :=
  let words := ns.map intText
  let width := widest (words.map List.length)
  words.map (padLeft width)

/-- Complex numbers of a format. The mark of an imaginary part stands before the spaces at its
end. -/
def complexColumn (fmt : BinaryFormat) (zs : List (Double × Double)) : List (List Char) :=
  let re := RealColumn.ofList fmt false (zs.map Prod.fst)
  let im := RealColumn.ofList fmt true (zs.map Prod.snd)
  zs.map fun (x, y) =>
    let part := im.cell y
    let digits := (part.reverse.dropWhile (· = ' ')).reverse
    re.cell x ++ digits ++ 'j' :: List.replicate (part.length - digits.length) ' '

end PlotStream
