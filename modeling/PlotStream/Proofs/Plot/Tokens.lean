import PlotStream.Proofs.Plot.Scanner

/-!
# Where a constant ends

In code, a written constant is followed by nothing or by one of a few characters. `token` takes what
stands before the first of these that is inside of no bracket and no string, and thus finds the
constant again whatever it holds (`token_written`). The first characters of a constant tell it from
the objects that stand for references and from a construction (`Written.opens`).
-/

namespace PlotStream

/-- A character that may follow a constant. -/
def isDelimiter (c : Char) : Bool :=
  c = ',' || c = ' ' || c = ';' || c = ')'

/-- What stands before the first delimiter that is inside of no bracket and no string; `depth` counts
the brackets that are open. -/
def token : ScanMode → Nat → List Char → List Char
  | _, _, [] => []
  | .code, depth, c :: cs =>
    if depth = 0 ∧ isDelimiter c then []
    else if c = '"' then c :: token .literal depth cs
    else if c = '[' ∨ c = '\x7b' then c :: token .code (depth + 1) cs
    else if c = ']' ∨ c = '\x7d' then c :: token .code (depth - 1) cs
    else c :: token .code depth cs
  | .literal, depth, c :: cs =>
    c :: token (if c = '"' then .code else if c = '\\' then .escape else .literal) depth cs
  | .escape, depth, c :: cs => c :: token .literal depth cs

/-- A text that is passed as a whole while some brackets are open. -/
def Passes (depth : Nat) (cs : List Char) : Prop :=
  ∀ rest, token .code depth (cs ++ rest) = cs ++ token .code depth rest

namespace Passes

variable {depth : Nat} {cs ds : List Char}

theorem nil : Passes depth [] := fun _ => rfl

theorem append (h : Passes depth cs) (h' : Passes depth ds) : Passes depth (cs ++ ds) := by
  intro rest
  rw [List.append_assoc, h, h', List.append_assoc]

theorem single {c : Char} (hquote : c ≠ '"') (hopen : c ≠ '[' ∧ c ≠ '\x7b')
    (hclose : c ≠ ']' ∧ c ≠ '\x7d') (hdelimiter : depth = 0 → isDelimiter c = false) :
    Passes depth [c] := by
  intro rest
  have hgo : ¬(depth = 0 ∧ isDelimiter c = true) := fun h => by simp [hdelimiter h.1] at h
  simp [token, hgo, hquote, hopen, hclose]

theorem of_forall (h : ∀ c ∈ cs, Passes depth [c]) : Passes depth cs := by
  induction cs with
  | nil => exact nil
  | cons c cs ih =>
    obtain ⟨hc, hcs⟩ := List.forall_mem_cons.mp h
    exact hc.append (ih hcs)

/-- Brackets around what is passed one level deeper. -/
theorem brackets {opening closing : Char} (hopening : opening = '[' ∨ opening = '\x7b')
    (hclosing : closing = ']' ∨ closing = '\x7d') (h : Passes (depth + 1) cs) :
    Passes depth (opening :: cs ++ [closing]) := by
  intro rest
  have hopen (more : List Char) :
      token .code depth (opening :: more) = opening :: token .code (depth + 1) more := by
    rcases hopening with rfl | rfl <;> simp [token, isDelimiter]
  have hclose (more : List Char) :
      token .code (depth + 1) (closing :: more) = closing :: token .code depth more := by
    rcases hclosing with rfl | rfl <;> simp [token, isDelimiter]
  simp only [List.cons_append, List.append_assoc, List.nil_append]
  rw [hopen, h, hclose]

theorem separated {parts : List (List Char)} (h : ∀ p ∈ parts, Passes (depth + 1) p) :
    Passes (depth + 1) ([',', ' '].intercalate parts) := by
  induction parts with
  | nil => exact nil
  | cons part parts ih =>
    obtain ⟨hpart, hparts⟩ := List.forall_mem_cons.mp h
    cases parts with
    | nil => simpa using hpart
    | cons next parts =>
      have hcomma : Passes (depth + 1) [','] := single (by decide) (by decide) (by decide) (by simp)
      have hblank : Passes (depth + 1) [' '] := single (by decide) (by decide) (by decide) (by simp)
      rw [Json.separated_cons _ (by simp)]
      exact hpart.append (hcomma.append (hblank.append (ih hparts)))

theorem flatten {parts : List (List Char)} (h : ∀ p ∈ parts, Passes depth p) :
    Passes depth parts.flatten := by
  induction parts with
  | nil => exact nil
  | cons part parts ih =>
    obtain ⟨hpart, hparts⟩ := List.forall_mem_cons.mp h
    exact hpart.append (ih hparts)

/-! ## Strings -/

theorem literal_piece {cs : List Char} (h : Json.Piece cs) (rest : List Char) :
    token .literal depth (cs ++ rest) = cs ++ token .literal depth rest := by
  cases h with
  | plain hquote hslash _ => simp [token, hquote, hslash]
  | short h => simp [token]
  | @unit u _ =>
    rw [Json.unitEscape_eq]
    simp [token, Json.hexDigit_ne]

theorem literal_pieces {pieces : List (List Char)} (h : ∀ p ∈ pieces, Json.Piece p)
    (rest : List Char) :
    token .literal depth (pieces.flatten ++ rest) = pieces.flatten ++ token .literal depth rest := by
  induction pieces with
  | nil => rfl
  | cons p pieces ih =>
    obtain ⟨hp, hpieces⟩ := List.forall_mem_cons.mp h
    rw [List.flatten_cons, List.append_assoc, literal_piece hp, ih hpieces, List.append_assoc]

theorem literal_escapes (codes : List Nat) (rest : List Char) :
    token .literal depth (codes.flatMap Json.escapeCode ++ rest) =
      codes.flatMap Json.escapeCode ++ token .literal depth rest := by
  obtain ⟨pieces, hcodes, hpieces⟩ := Json.escapes_pieces codes
  rw [hcodes, literal_pieces hpieces]

theorem stringText (codes : List Nat) : Passes depth (Json.stringText codes) := by
  intro rest
  have hopen (more : List Char) :
      token .code depth ('"' :: more) = '"' :: token .literal depth more := by
    simp [token, isDelimiter]
  have hclose (more : List Char) :
      token .literal depth ('"' :: more) = '"' :: token .code depth more := by
    simp [token]
  simp only [Json.stringText, List.cons_append, List.append_assoc, List.nil_append]
  rw [hopen, literal_escapes, hclose]

end Passes

namespace Json

/-- A written text is passed anywhere. -/
theorem Written.passes {cs : List Char} (h : Written cs) (depth : Nat) : Passes depth cs := by
  induction h generalizing depth with
  | @atom cs h =>
    refine .of_forall fun c hc => ?_
    have hchar := h.chars c hc
    have hne (c' : Char) (h' : isAtomChar c' = false) : c ≠ c' := by
      rintro rfl
      simp [hchar] at h'
    refine .single (hne _ (by decide)) ⟨hne _ (by decide), hne _ (by decide)⟩
      ⟨hne _ (by decide), hne _ (by decide)⟩ fun _ => ?_
    simp [isDelimiter, hne ',' (by decide), hne ' ' (by decide), hne ';' (by decide),
      hne ')' (by decide)]
  | string codes => exact .stringText codes
  | array _ ih => exact .brackets (by decide) (by decide) (.separated fun p hp => ih p hp _)
  | object _ ih =>
    refine .brackets (by decide) (by decide) (.separated fun p hp => ?_)
    obtain ⟨⟨name, value⟩, hm, rfl⟩ := List.mem_map.mp hp
    have hcolon : Passes (depth + 1) [':'] := .single (by decide) (by decide) (by decide) (by simp)
    have hblank : Passes (depth + 1) [' '] := .single (by decide) (by decide) (by decide) (by simp)
    exact (Passes.stringText name).append (hcolon.append (hblank.append (ih _ hm _)))
  | flat _ ih => exact .flatten fun p hp => ih p hp depth

/-- What may follow a constant: nothing, or what starts with a delimiter. -/
def Follows (rest : List Char) : Prop :=
  ∀ c ∈ rest.head?, isDelimiter c = true

theorem token_written {cs rest : List Char} (h : Written cs) (hrest : Follows rest) :
    token .code 0 (cs ++ rest) = cs := by
  have hnone : token .code 0 rest = [] := by
    cases rest with
    | nil => rfl
    | cons c rest => simp [token, hrest c (by simp)]
  rw [h.passes 0 rest, hnone, List.append_nil]

/-! ## How a constant starts -/

/-- A text that starts neither as a construction does nor as an object that stands for a reference. -/
structure Opens (cs : List Char) : Prop where
  word : ∀ tail, cs = 'n' :: tail → ∃ more, tail = 'u' :: more
  brace : ∀ tail, cs = '\x7b' :: tail → ∃ c more, tail = c :: more ∧ c ≠ ' '

/-- The first part that is not empty tells how a text starts. -/
theorem Opens.flatten {parts : List (List Char)} (h : ∀ p ∈ parts, Opens p) :
    Opens parts.flatten := by
  induction parts with
  | nil => exact ⟨by simp, by simp⟩
  | cons p parts ih =>
    obtain ⟨hp, hparts⟩ := List.forall_mem_cons.mp h
    cases p with
    | nil => exact ih hparts
    | cons c p =>
      refine ⟨?_, ?_⟩
      · rintro tail htail
        obtain ⟨rfl, rfl⟩ := List.cons.inj htail
        obtain ⟨more, rfl⟩ := hp.word p rfl
        exact ⟨_, rfl⟩
      · rintro tail htail
        obtain ⟨rfl, rfl⟩ := List.cons.inj htail
        obtain ⟨c, more, rfl, hc⟩ := hp.brace p rfl
        exact ⟨c, _, rfl, hc⟩

theorem Written.opens {cs : List Char} (h : Written cs) : Opens cs := by
  induction h with
  | @atom cs h =>
    refine ⟨h.starts, ?_⟩
    rintro tail rfl
    exact absurd (h.chars '\x7b' (List.mem_cons_self ..)) (by decide)
  | string codes => exact ⟨by simp [stringText], by simp [stringText]⟩
  | array _ _ => exact ⟨by simp [arrayText, enclose], by simp [arrayText, enclose]⟩
  | @object members _ _ =>
    refine ⟨by simp [objectText, enclose], ?_⟩
    cases members with
    | nil => simp [objectText, enclose]
    | cons m members =>
      obtain ⟨more, hmore⟩ := separated_eq_append (memberOf m) (members.map memberOf)
      rintro tail htail
      rw [List.map_cons, objectText, enclose, hmore] at htail
      obtain rfl := (List.cons.inj htail).2
      exact ⟨'"', _, rfl, by decide⟩
  | flat _ ih => exact .flatten ih

end Json

end PlotStream
