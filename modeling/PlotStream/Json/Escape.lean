import PlotStream.Text.Quoted

/-!
# JSON strings

A string is written between double quotes in printable ASCII only: quotes, backslashes and five
controls have short escapes, everything else outside ASCII is a `\u` escape, in two units above
U+FFFF. `scanString` reads a string back, after its opening quote.
-/

namespace PlotStream.Json

/-- The escape of one 16-bit unit. -/
def unitEscape (u : Nat) : List Char :=
  '\\' :: 'u' :: Text.hexText 4 u

/-- One code point inside a string. -/
def escapeCode (c : Nat) : List Char :=
  if c = 34 then ['\\', '"']
  else if c = 92 then ['\\', '\\']
  else if c = 8 then ['\\', 'b']
  else if c = 9 then ['\\', 't']
  else if c = 10 then ['\\', 'n']
  else if c = 12 then ['\\', 'f']
  else if c = 13 then ['\\', 'r']
  else if 0x20 ≤ c ∧ c < 0x7f then [Char.ofNat c]
  else if c < 0x10000 then unitEscape c
  else unitEscape (0xd800 + (c - 0x10000) / 0x400) ++ unitEscape (0xdc00 + (c - 0x10000) % 0x400)

/-- A string with its quotes. -/
def stringText (codes : List Nat) : List Char :=
  '"' :: codes.flatMap escapeCode ++ ['"']

/-- Why reading failed. A malformed document comes with the number of characters that were left at
the point of failure. -/
inductive ReadError
  | malformed (reason : String) (remaining : Nat)
  | tooManyDigits (count : Nat)
deriving DecidableEq, Repr

/-- The value of a hexadecimal digit. -/
def hexValue? (c : Char) : Option Nat :=
  if '0' ≤ c ∧ c ≤ '9' then some (c.toNat - 48)
  else if 'a' ≤ c ∧ c ≤ 'f' then some (c.toNat - 87)
  else if 'A' ≤ c ∧ c ≤ 'F' then some (c.toNat - 55)
  else none

/-- The 16-bit unit that four hexadecimal digits denote. -/
def unit? (a b c d : Char) : Option Nat := do
  return (((← hexValue? a) * 16 + (← hexValue? b)) * 16 + (← hexValue? c)) * 16 + (← hexValue? d)

/-- The code point of a one-letter escape. -/
def shortEscape? : Char → Option Nat
  | '"' => some 34
  | '\\' => some 92
  | '/' => some 47
  | 'b' => some 8
  | 'f' => some 12
  | 'n' => some 10
  | 'r' => some 13
  | 't' => some 9
  | _ => none

def isHighSurrogate (u : Nat) : Bool :=
  0xd800 ≤ u && u < 0xdc00

def isLowSurrogate (u : Nat) : Bool :=
  0xdc00 ≤ u && u < 0xe000

/-- The code point that two surrogates denote. -/
def joinSurrogates (high low : Nat) : Nat :=
  0x10000 + (high - 0xd800) * 0x400 + (low - 0xdc00)

/-- The errors of a string. `opening` counts the characters left from the opening quote on. -/
def unterminated (opening : Nat) : ReadError :=
  .malformed "Unterminated string starting at" opening

def badUnit (remaining : Nat) : ReadError :=
  .malformed "Invalid \\uXXXX escape" remaining

def badEscape (remaining : Nat) : ReadError :=
  .malformed "Invalid \\escape" remaining

def badControl (remaining : Nat) : ReadError :=
  .malformed "Invalid control character at" remaining

/-- Put a code point before those of a scanned string. -/
def consCode (c : Nat) (r : Except ReadError (List Nat × List Char)) :
    Except ReadError (List Nat × List Char) :=
  match r with
  | .ok (cs, rest) => .ok (c :: cs, rest)
  | .error e => .error e

/-- The code points of a string up to its closing quote, and what follows. A high surrogate joins a
low one that follows it directly; an unpaired one stands for itself. A unit has to be followed by
something, and so has a pair, or else its second half is not looked at. -/
def scanString (opening : Nat) : List Char → Except ReadError (List Nat × List Char)
  | [] => .error (unterminated opening)
  | '"' :: rest => .ok ([], rest)
  | '\\' :: [] => .error (unterminated opening)
  | '\\' :: 'u' :: a :: b :: c :: d :: '\\' :: 'u' :: e :: f :: g :: h :: i :: rest =>
    match unit? a b c d with
    | none => .error (badUnit (rest.length + 12))
    | some u =>
      if isHighSurrogate u then
        match unit? e f g h with
        | none => .error (badUnit (rest.length + 6))
        | some v =>
          if isLowSurrogate v then consCode (joinSurrogates u v) (scanString opening (i :: rest))
          else consCode u (scanString opening ('\\' :: 'u' :: e :: f :: g :: h :: i :: rest))
      else consCode u (scanString opening ('\\' :: 'u' :: e :: f :: g :: h :: i :: rest))
  | '\\' :: 'u' :: a :: b :: c :: d :: e :: rest =>
    match unit? a b c d with
    | none => .error (badUnit (rest.length + 6))
    | some u => consCode u (scanString opening (e :: rest))
  | '\\' :: 'u' :: rest => .error (badUnit (rest.length + 1))
  | '\\' :: c :: rest =>
    match shortEscape? c with
    | none => .error (badEscape (rest.length + 2))
    | some code => consCode code (scanString opening rest)
  | c :: rest =>
    if c.toNat < 0x20 then .error (badControl (rest.length + 1))
    else consCode c.toNat (scanString opening rest)

end PlotStream.Json
