/-!
# Rows of words

Nested brackets around words, broken into lines. The words of the innermost brackets follow each
other as long as a line has room; brackets of brackets are put under each other, with empty lines
between blocks of more than one level. A word may itself have several lines, and the lines after its
first one start below it.
-/

namespace PlotStream

/-- One level of brackets. -/
structure Axis where
  /-- The number of parts shown. -/
  shown : Nat
  /-- Whether parts are left out behind the first three. -/
  gap : Bool
deriving DecidableEq, Repr

/-- The line being written, and the finished lines before it. -/
structure Lines where
  done : String
  line : String
deriving Repr

/-- Text without the spaces at its end. -/
def withoutTrailing (s : String) : String :=
  String.ofList (s.toList.reverse.dropWhile (· = ' ')).reverse

/-- A number of spaces. -/
def spaces (n : Nat) : String :=
  String.ofList (List.replicate n ' ')

namespace Lines

variable (ls : Lines)

/-- Start a new line. -/
def newLine (start : String) : Lines :=
  ⟨ls.done ++ withoutTrailing ls.line ++ "\n", start⟩

/-- Whether more characters have to go to a new line: they do not fit, and the line is not empty up
to its indentation. -/
def isFull (width indent size : Nat) : Bool :=
  decide (width < ls.line.length + size) && decide (indent < ls.line.length)

/-- Write a word without line breaks. -/
def putWord (width indent : Nat) (word : String) : Lines :=
  if ls.isFull width indent word.length then ls.newLine (spaces indent ++ word)
  else ⟨ls.done, ls.line ++ word⟩

/-- Write a word that may have line breaks; what follows it stands to the right of all of its
lines. -/
def put (width indent : Nat) (word : String) : Lines :=
  match word.splitOn "\n" with
  | [] | [_] => ls.putWord width indent word
  | first :: more =>
    let size := ((first :: more).map String.length).foldl max 0
    let full := ls.isFull width indent size
    let margin := if full then indent else ls.line.length
    let ls := if full then ls.newLine (spaces indent ++ first) else ⟨ls.done, ls.line ++ first⟩
    let ls := more.foldl (fun ls part => ls.newLine (spaces margin ++ part)) ls
    ⟨ls.done, ls.line ++ spaces (size - (more.getLast?.getD first).length)⟩

/-- Write a separator. -/
def separate (separator : String) : Lines :=
  ⟨ls.done, ls.line ++ separator⟩

/-- Write words with separators between them. -/
def putAll (width indent : Nat) (separator : String) : Lines → List String → Lines
  | ls, [] => ls
  | ls, [word] => ls.put width indent word
  | ls, word :: words =>
    putAll width indent separator ((ls.put width indent word).separate separator) words

/-- Everything written. -/
def text : String := ls.done ++ ls.line

end Lines

namespace Axis

/-- The sign for parts left out, put behind the third part. -/
def withGap (a : Axis) (parts : List String) : List String :=
  if a.gap then parts.take 3 ++ "..." :: parts.drop 3 else parts

/-- Words in their brackets, for a first line that begins behind `indent` characters. Every level
of brackets takes one character of the width, and one more stays free for what closes a line. -/
def layOut (separator : String) : List Axis → (indent width : Nat) → List String → String
  | [], _, _, words => String.join words
  | [a], indent, width, words =>
    let ls := Lines.putAll (width - 1) indent separator ⟨"", spaces indent⟩ (a.withGap words)
    "[" ++ String.ofList (ls.text.toList.drop indent) ++ "]"
  | a :: rest, indent, width, words =>
    let size := (rest.map Axis.shown).foldl (· * ·) 1
    let parts := (List.range a.shown).map fun i =>
      layOut separator rest (indent + 1) (width - 1) ((words.drop (i * size)).take size)
    let breaks := String.ofList (List.replicate rest.length '\n')
    "[" ++ (withoutTrailing separator ++ breaks ++ spaces indent).intercalate (a.withGap parts) ++
      "]"

/-- The axes of an array: if it is to be shortened, those with more than six parts have a gap. -/
def ofShape (shorten : Bool) (shape : List Nat) : List Axis :=
  shape.map fun n => if shorten && decide (6 < n) then ⟨6, true⟩ else ⟨n, false⟩

/-- The items that are shown of an array with the given axis lengths. -/
def select {α : Type} (shorten : Bool) : List Nat → List α → List α
  | [], items => items
  | n :: shape, items =>
    let size := shape.foldl (· * ·) 1
    let kept := (List.range n).filter fun i => !(shorten && decide (6 < n)) || i < 3 || n ≤ i + 3
    kept.flatMap fun i => select shorten shape ((items.drop (i * size)).take size)

end Axis

end PlotStream
