import PlotStream.Proofs.Json.Written

/-!
# Scanning code for its string literals

A `Scanner` goes through code from left to right. Outside of literals a quote opens one; inside, a
backslash skips the next character and a quote closes the literal. What stands between the quotes is
set aside, the rest is the skeleton of the code.

Two texts are `Twins` if they can take each other's place anywhere outside of literals without
changing the skeleton or the number of literals, both being made of printable characters inside the
literals. Texts without quotes are their own twins, any two written strings are twins, and so are
arrays and objects of twins.
-/

namespace PlotStream

/-- Where a scanner stands: outside of literals, inside of one, or behind a backslash inside. -/
inductive ScanMode
  | code
  | literal
  | escape
deriving DecidableEq, Repr

/-- What has been seen of some code. -/
structure Scanner where
  mode : ScanMode
  /-- The code without what stands inside of literals. -/
  skeleton : List Char
  /-- What stands inside of the literals that have been closed. -/
  literals : List (List Char)
  /-- What has been seen of the literal that was opened last. -/
  contents : List Char

namespace Scanner

def start : Scanner := ⟨.code, [], [], []⟩

/-- Go on by one character. -/
def feed (r : Scanner) (c : Char) : Scanner :=
  match r.mode with
  | .code =>
    if c = '"' then { r with mode := .literal, skeleton := r.skeleton ++ [c], contents := [] }
    else { r with skeleton := r.skeleton ++ [c] }
  | .literal =>
    if c = '"' then
      { r with mode := .code, skeleton := r.skeleton ++ [c], literals := r.literals ++ [r.contents] }
    else if c = '\\' then { r with mode := .escape, contents := r.contents ++ [c] }
    else { r with contents := r.contents ++ [c] }
  | .escape => { r with mode := .literal, contents := r.contents ++ [c] }

/-- Go on by a text. -/
def feedAll (r : Scanner) (cs : List Char) : Scanner :=
  cs.foldl feed r

/-- A whole text. -/
def scan (s : String) : Scanner :=
  start.feedAll s.toList

example : (scan "f(\"a\\\"b\")").literals = ["a\\\"b".toList] := by decide

@[simp] theorem feedAll_nil (r : Scanner) : r.feedAll [] = r := rfl

@[simp] theorem feedAll_cons (r : Scanner) (c : Char) (cs : List Char) :
    r.feedAll (c :: cs) = (r.feed c).feedAll cs := rfl

theorem feedAll_append (r : Scanner) (cs ds : List Char) :
    r.feedAll (cs ++ ds) = (r.feedAll cs).feedAll ds :=
  List.foldl_append

/-! ## Code without quotes -/

theorem feedAll_unquoted {cs : List Char} (h : '"' ∉ cs) {r : Scanner} (hr : r.mode = .code) :
    r.feedAll cs = { r with skeleton := r.skeleton ++ cs } := by
  induction cs generalizing r with
  | nil => simp
  | cons c cs ih =>
    obtain ⟨hc, hcs⟩ : '"' ≠ c ∧ '"' ∉ cs := by simpa using h
    have hfeed : r.feed c = { r with skeleton := r.skeleton ++ [c] } := by
      simp [feed, hr, Ne.symm hc]
    rw [feedAll_cons, hfeed, ih hcs (r := { r with skeleton := r.skeleton ++ [c] }) hr]
    simp

/-! ## Strings -/

section Literal

variable {r : Scanner} (hr : r.mode = .literal)

include hr

/-- One part of a string stays inside. -/
theorem feedAll_piece {cs : List Char} (h : Json.Piece cs) :
    r.feedAll cs = { r with contents := r.contents ++ cs } := by
  cases h with
  | plain hquote hslash _ => simp [feed, hr, hquote, hslash]
  | short h => simp [feed, hr]
  | @unit u _ =>
    rw [Json.unitEscape_eq]
    simp [feed, hr, Json.hexDigit_ne]

theorem feedAll_pieces {pieces : List (List Char)} (h : ∀ p ∈ pieces, Json.Piece p) :
    r.feedAll pieces.flatten = { r with contents := r.contents ++ pieces.flatten } := by
  induction pieces generalizing r with
  | nil => simp
  | cons p pieces ih =>
    obtain ⟨hp, hpieces⟩ := List.forall_mem_cons.mp h
    rw [List.flatten_cons, feedAll_append, feedAll_piece hr hp,
      ih (r := { r with contents := r.contents ++ p }) hr hpieces]
    simp

theorem feedAll_escapes (codes : List Nat) :
    r.feedAll (codes.flatMap Json.escapeCode) =
      { r with contents := r.contents ++ codes.flatMap Json.escapeCode } := by
  obtain ⟨pieces, hcodes, hpieces⟩ := Json.escapes_pieces codes
  rw [hcodes, feedAll_pieces hr hpieces]

end Literal

/-- A written string leaves its quotes in the skeleton and is one literal. -/
theorem feedAll_stringText (codes : List Nat) {r : Scanner} (hr : r.mode = .code) :
    r.feedAll (Json.stringText codes) =
      ⟨.code, r.skeleton ++ ['"', '"'], r.literals ++ [codes.flatMap Json.escapeCode],
        codes.flatMap Json.escapeCode⟩ := by
  have hopen : r.feed '"' = ⟨.literal, r.skeleton ++ ['"'], r.literals, []⟩ := by simp [feed, hr]
  rw [Json.stringText, List.cons_append, feedAll_cons, hopen, feedAll_append, feedAll_escapes rfl]
  simp [feed]

/-- A scanner that stands outside of literals and has seen printable characters only in those before. -/
structure Settled (r : Scanner) : Prop where
  mode : r.mode = .code
  printed : ∀ l ∈ r.literals, ∀ c ∈ l, Json.IsPrinted c

/-- Two scanners that have seen the same but for what stands inside of literals. -/
structure Alike (r r' : Scanner) : Prop where
  left : r.Settled
  right : r'.Settled
  skeleton : r.skeleton = r'.skeleton
  count : r.literals.length = r'.literals.length

theorem alike_start : start.Alike start :=
  have hstart : start.Settled := ⟨rfl, by simp [start]⟩
  ⟨hstart, hstart, rfl, rfl⟩

end Scanner

/-- Texts that can take each other's place outside of literals. -/
def Twins (cs cs' : List Char) : Prop :=
  ∀ r r' : Scanner, r.Alike r' → (r.feedAll cs).Alike (r'.feedAll cs')

namespace Twins

variable {cs cs' ds ds' : List Char}

theorem nil : Twins [] [] := fun _ _ h => h

theorem append (h : Twins cs cs') (h' : Twins ds ds') : Twins (cs ++ ds) (cs' ++ ds') := by
  intro r r' hr
  rw [Scanner.feedAll_append, Scanner.feedAll_append]
  exact h' _ _ (h _ _ hr)

theorem of_unquoted (h : '"' ∉ cs) : Twins cs cs := by
  intro r r' hr
  rw [Scanner.feedAll_unquoted h hr.left.mode, Scanner.feedAll_unquoted h hr.right.mode]
  exact ⟨⟨hr.left.mode, hr.left.printed⟩, ⟨hr.right.mode, hr.right.printed⟩,
    congrArg (· ++ cs) hr.skeleton, hr.count⟩

theorem cons {c : Char} (hc : c ≠ '"') (h : Twins cs cs') : Twins (c :: cs) (c :: cs') :=
  (@of_unquoted [c] (by simpa using hc.symm)).append h

/-- Any two written strings are twins. -/
theorem stringText (codes codes' : List Nat) :
    Twins (Json.stringText codes) (Json.stringText codes') := by
  intro r r' hr
  rw [Scanner.feedAll_stringText codes hr.left.mode, Scanner.feedAll_stringText codes' hr.right.mode]
  refine ⟨⟨rfl, ?_⟩, ⟨rfl, ?_⟩, ?_, ?_⟩
  · refine List.forall_mem_append.mpr ⟨hr.left.printed, ?_⟩
    simpa using Json.isPrinted_escapes codes
  · refine List.forall_mem_append.mpr ⟨hr.right.printed, ?_⟩
    simpa using Json.isPrinted_escapes codes'
  · exact congrArg (· ++ ['"', '"']) hr.skeleton
  · simpa using hr.count

theorem memberText {name name' : List Char} (hname : Twins name name') (h : Twins cs cs') :
    Twins (Json.memberText name cs) (Json.memberText name' cs') :=
  hname.append (cons (by decide) (cons (by decide) h))

theorem separated {separator : List Char} (hseparator : '"' ∉ separator)
    {parts parts' : List (List Char)} (h : List.Forall₂ Twins parts parts') :
    Twins (separator.intercalate parts) (separator.intercalate parts') := by
  induction h with
  | nil => exact nil
  | @cons p p' parts parts' hp hparts ih =>
    cases hparts with
    | nil => simpa using hp
    | cons hnext hparts =>
      rw [List.intercalate_cons_cons, List.intercalate_cons_cons]
      exact (hp.append (of_unquoted hseparator)).append ih

theorem enclose {opening closing : Char} (hopening : opening ≠ '"') (hclosing : closing ≠ '"')
    {parts parts' : List (List Char)} (h : List.Forall₂ Twins parts parts') :
    Twins (Json.enclose opening parts closing) (Json.enclose opening parts' closing) :=
  (cons hopening (separated (by decide) h)).append (cons hclosing nil)

theorem arrayText {parts parts' : List (List Char)} (h : List.Forall₂ Twins parts parts') :
    Twins (Json.arrayText parts) (Json.arrayText parts') :=
  enclose (by decide) (by decide) h

theorem objectText {parts parts' : List (List Char)} (h : List.Forall₂ Twins parts parts') :
    Twins (Json.objectText parts) (Json.objectText parts') :=
  enclose (by decide) (by decide) h

theorem flatten {parts parts' : List (List Char)} (h : List.Forall₂ Twins parts parts') :
    Twins parts.flatten parts'.flatten := by
  induction h with
  | nil => exact nil
  | cons hp _ ih => exact hp.append ih

theorem chunks {size n : Nat} {parts parts' : List (List Char)}
    (h : List.Forall₂ Twins parts parts') :
    List.Forall₂ (List.Forall₂ Twins) (PlotStream.chunks size n parts)
      (PlotStream.chunks size n parts') := by
  induction n generalizing parts parts' with
  | zero => exact .nil
  | succ n ih => exact .cons (List.forall₂_take size h) (ih (List.forall₂_drop size h))

theorem nestedJson : ∀ (shape : List Nat) {parts parts' : List (List Char)},
    List.Forall₂ Twins parts parts' →
      Twins (Json.nestedJson shape parts) (Json.nestedJson shape parts')
  | [], _, _, h => flatten h
  | [_], _, _, h => arrayText h
  | n :: m :: shape, parts, parts', h => by
    rw [Json.nestedJson, Json.nestedJson]
    · refine arrayText ?_
      rw [List.forall₂_map_left_iff, List.forall₂_map_right_iff]
      exact (chunks h).imp fun _ _ => nestedJson (m :: shape)
    all_goals simp

end Twins

end PlotStream
