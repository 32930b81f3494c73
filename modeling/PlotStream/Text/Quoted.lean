import PlotStream.Text.Printable

/-!
# Quoted text

Text as a value prints it: between single quotes, or between double quotes when it holds a single
quote and no double quote. The quote and the backslash are escaped, and so is every character that
is not printable. Code points come as numbers, so that text with an unpaired surrogate prints too.
-/

namespace PlotStream.Text

/-- A hexadecimal digit. -/
def hexDigit (n : Nat) : Char :=
  if n < 10 then Char.ofNat (48 + n) else Char.ofNat (87 + n)

/-- The last `width` hexadecimal digits of a number. -/
def hexText : Nat → Nat → List Char
  | 0, _ => []
  | width + 1, n => hexDigit (n / Nat.pow 16 width % 16) :: hexText width n

/-- The code points of text. -/
def codes (s : String) : List Nat :=
  s.toList.map Char.toNat

/-- The quote used around text with these code points. -/
def quoteFor (cs : List Nat) : Nat :=
  if cs.contains 39 && !cs.contains 34 then 34 else 39

/-- One code point between quotes. -/
def quotedCode (quote c : Nat) : List Char :=
  if c = quote || c = 92 then ['\\', Char.ofNat c]
  else if c = 9 then ['\\', 't']
  else if c = 10 then ['\\', 'n']
  else if c = 13 then ['\\', 'r']
  else if isPrintable c then [Char.ofNat c]
  else if c < 0x100 then '\\' :: 'x' :: hexText 2 c
  else if c < 0x10000 then '\\' :: 'u' :: hexText 4 c
  else '\\' :: 'U' :: hexText 8 c

/-- Code points between quotes. -/
def quotedCodes (cs : List Nat) : String :=
  let quote := quoteFor cs
  String.ofList (Char.ofNat quote :: cs.flatMap (quotedCode quote) ++ [Char.ofNat quote])

/-- Text between quotes. -/
def quoted (s : String) : String :=
  quotedCodes (codes s)

/-- One byte between quotes: only printable ASCII stands for itself. -/
def quotedByte (quote b : Nat) : List Char :=
  if b < 0x7f then quotedCode quote b else '\\' :: 'x' :: hexText 2 b

/-- Bytes between quotes, after a `b`. -/
def quotedBytes (bs : List UInt8) : String :=
  let cs := bs.map UInt8.toNat
  let quote := quoteFor cs
  String.ofList ('b' :: Char.ofNat quote :: cs.flatMap (quotedByte quote) ++ [Char.ofNat quote])

end PlotStream.Text
