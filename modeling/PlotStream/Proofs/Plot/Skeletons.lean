import PlotStream.Plot.Code
import PlotStream.Proofs.Plot.Scanner

/-!
# Data stays inside of string literals

`Window.redacted` is a window without the characters of the strings that it holds as data: the names of
references, all strings in constants, and the group in the keys of linked ranges. Two windows have
the same shape and differ in such strings only if they are the same when redacted. Emitter by emitter,
the code of a part and that of the redacted part are twins, so that the code of both windows has one
skeleton (`data_stays_in_literals`). The names of things, which are copied into the code as they are,
must not hold a quote.
-/

namespace PlotStream

/-! ## Redaction -/

/-- A kind of elements without the width of text. -/
def ElementKind.redacted : ElementKind → ElementKind
  | text _ => text 0
  | kind => kind

namespace Value

mutual

/-- A value with all of its text emptied, keys included. -/
def redacted : Value → Value
  | .text _ | .torn _ => .text ""
  | .list items => .list (redactedItems items)
  | .tuple items => .tuple (redactedItems items)
  | .set items => .set (redactedItems items)
  | .dict entries => .dict (redactedEntries entries)
  | .scalar kind item => .scalar kind.redacted item.redacted
  | .array kind shape items => .array kind.redacted shape (redactedItems items)
  | v => v

/-- Values one by one. -/
def redactedItems : List Value → List Value
  | [] => []
  | v :: vs => v.redacted :: redactedItems vs

/-- Keys and values of entries one by one. -/
def redactedEntries : List (Value × Value) → List (Value × Value)
  | [] => []
  | (k, v) :: es => (k.redacted, v.redacted) :: redactedEntries es

end

mutual

/-- An argument with its data redacted; models and the names of arguments stay. -/
def redactedArgument : Value → Value
  | .literal v => .literal v.redacted
  | .field name => .field name.redacted
  | .constant name => .constant name.redacted
  | .model ctor args => .model ctor (redactedArguments args)
  | v => v

/-- Named arguments one by one. -/
def redactedArguments : List (Value × Value) → List (Value × Value)
  | [] => []
  | (name, v) :: args => (name, v.redactedArgument) :: redactedArguments args

end

/-- Assignments with the data of their values redacted. -/
def redactedAssignments (pairs : Assignments) : Assignments :=
  pairs.map fun (path, v) => (path, v.redactedArgument)

/-- An operation with the data of its arguments redacted. -/
def redactedOperation : Value → Value
  | .glyph method src args => .glyph method src (redactedArguments args)
  | .layout ctor args => .layout ctor (redactedArguments args)
  | .glyphAttrs ctor pairs => .glyphAttrs ctor (redactedAssignments pairs)
  | .figureAttrs pairs => .figureAttrs (redactedAssignments pairs)
  | v => v

end Value

/-- A figure with its data redacted. -/
def Figure.redacted (f : Figure) : Figure :=
  { windowId := ""
    groupId := .text ""
    operations := f.operations.map Value.redactedOperation
    arguments := Value.redactedArguments f.arguments
    links := f.links }

/-- A window with its data redacted. -/
def Window.redacted (w : Window) : Window :=
  { id := ""
    groupId := .text ""
    sources := []
    figures := w.figures.map Figure.redacted }

/-! ## Names -/

namespace Value

mutual

/-- The constructors and the names of arguments in an argument. -/
def names : Value → List Value
  | .model ctor args => ctor :: argumentNames args
  | _ => []

/-- The names in named arguments. -/
def argumentNames : List (Value × Value) → List Value
  | [] => []
  | (name, v) :: args => name :: (v.names ++ argumentNames args)

end

/-- The parts of paths and the names in the values assigned to them. -/
def assignmentNames (pairs : Assignments) : List Value :=
  pairs.flatMap fun (path, v) => path ++ v.names

/-- The names in an operation, the number of its data source among them. -/
def operationNames : Value → List Value
  | .glyph method src args => method :: src :: argumentNames args
  | .layout ctor args => ctor :: argumentNames args
  | .glyphAttrs ctor pairs => ctor :: assignmentNames pairs
  | .figureAttrs pairs => assignmentNames pairs
  | _ => []

/-- A name that is copied into code without a quote. -/
def IsUnquoted (name : Value) : Prop :=
  ∀ s, name.interpolate = .ok s → '"' ∉ s.toList

end Value

/-- The names in a figure, those of its linked ranges included. -/
def Figure.names (f : Figure) : List Value :=
  f.operations.flatMap Value.operationNames ++ Value.argumentNames f.arguments ++ f.links.keys

/-- The names in a window. -/
def Window.names (w : Window) : List Value :=
  w.figures.flatMap Figure.names

namespace Value

mutual

@[simp] theorem names_redactedArgument : ∀ v : Value, v.redactedArgument.names = v.names
  | .model ctor args => by
    rw [redactedArgument, names, names, argumentNames_redactedArguments]
  | .none | .bool _ | .int _ | .float _ | .text _ | .torn _ | .bytes _ | .complex _ _ | .list _
  | .tuple _ | .set _ | .dict _ | .cyclicList | .cyclicDict | .scalar _ _ | .array _ _ _
  | .literal _ | .field _ | .constant _ | .glyph _ _ _ | .layout _ _ | .glyphAttrs _ _
  | .figureAttrs _ | .source _ => by simp [redactedArgument, names]

@[simp] theorem argumentNames_redactedArguments : ∀ args : List (Value × Value),
    argumentNames (redactedArguments args) = argumentNames args
  | [] => rfl
  | (name, v) :: args => by
    rw [redactedArguments, argumentNames, argumentNames, names_redactedArgument,
      argumentNames_redactedArguments args]

end

@[simp] theorem assignmentNames_redactedAssignments (pairs : Assignments) :
    assignmentNames (redactedAssignments pairs) = assignmentNames pairs := by
  simp [assignmentNames, redactedAssignments, List.flatMap_map]

@[simp] theorem operationNames_redactedOperation (op : Value) :
    op.redactedOperation.operationNames = op.operationNames := by
  cases op <;> simp [redactedOperation, operationNames]

end Value

@[simp] theorem Figure.names_redacted (f : Figure) : f.redacted.names = f.names := by
  simp [names, redacted, List.flatMap_map]

@[simp] theorem Window.names_redacted (w : Window) : w.redacted.names = w.names := by
  simp [names, redacted, List.flatMap_map]

theorem Value.isUnquoted_text {s : String} (h : '"' ∉ s.toList) : (Value.text s).IsUnquoted := by
  intro s' h'
  obtain rfl : s = s' := by simpa [interpolate, toText] using h'
  exact h

/-- Digits and signs are no quotes. -/
theorem Value.isUnquoted_int (n : Int) : (Value.int n).IsUnquoted := by
  intro s h
  have htext : integerText n = .ok s := by simpa [interpolate, toText, repr, atomText] using h
  unfold integerText at htext
  split at htext
  · cases htext
  · obtain rfl := Except.ok.inj htext
    rw [String.toList_ofList]
    exact (Json.isAtom_intText n).unquoted

namespace Json

theorem memberName_redacted {key : Value} {name : List Nat} (h : memberName key = .ok name) :
    ∃ name', memberName key.redacted = .ok name' := by
  unfold memberName at h
  split at h
  · rename_i codes hcodes
    unfold Value.codes? at hcodes
    split at hcodes
    · exact ⟨[], rfl⟩
    · exact ⟨[], rfl⟩
    · exact ⟨[], rfl⟩
    · cases hcodes
  · rename_i hcodes
    split at h
    · exact ⟨_, rfl⟩
    · exact ⟨_, rfl⟩
    · exact ⟨_, h⟩
    · exact ⟨_, rfl⟩
    · exact ⟨_, rfl⟩
    · cases h

section Encode

variable {how : Scalars}

theorem encode_scalar_redacted {kind : ElementKind} {item : Value} {room : Nat} {cs : List Char}
    (h : encode how room (.scalar kind item) = .ok cs)
    (hitem : ∀ room cs, encode how room item = .ok cs →
      ∃ cs', encode how room item.redacted = .ok cs' ∧ Twins cs cs') :
    ∃ cs', encode how room (.scalar kind.redacted item.redacted) = .ok cs' ∧ Twins cs cs' := by
  have hother {kind : ElementKind}
      (h : (if how = .unwrap then converted room 0 fun room => encode how room item
        else .error (.notEncodable kind.name)) = .ok cs) :
      ∃ cs', (if how = .unwrap then converted room 0 fun room => encode how room item.redacted
        else .error (.notEncodable kind.name)) = .ok cs' ∧ Twins cs cs' := by
    split at h
    · rename_i hhow
      obtain ⟨hroom, h⟩ := descend_eq_ok_iff.mp h
      obtain ⟨cs', hcs', htwins⟩ := hitem _ cs h
      rw [if_pos hhow]
      exact ⟨cs', descend_eq_ok_iff.mpr ⟨hroom, hcs'⟩, htwins⟩
    · cases h
  cases kind with
  | text width =>
    simpa [encode, ElementKind.redacted] using hitem room cs (by simpa [encode] using h)
  | float64 =>
    cases item with
    | float x =>
      refine ⟨cs, h, .of_unquoted ?_⟩
      obtain rfl : doubleText x = cs := by simpa [encode] using h
      exact (isAtom_doubleText x).unquoted
    | _ =>
      have hwritten := hother (by simpa only [encode] using h)
      simpa only [encode, ElementKind.redacted, Value.redacted] using hwritten
  | _ => simpa only [encode, ElementKind.redacted] using hother (by simpa only [encode] using h)

mutual

/-- What is written for a value and for the redacted value are twins. -/
theorem encode_redacted : ∀ (v : Value) (room : Nat) (cs : List Char), encode how room v = .ok cs →
    ∃ cs', encode how room v.redacted = .ok cs' ∧ Twins cs cs'
  | .text s => by
    intro room cs h
    obtain rfl : stringText (Text.codes s) = cs := by simpa [encode, atomJson] using h
    exact ⟨_, rfl, .stringText _ _⟩
  | .torn codes => by
    intro room cs h
    obtain rfl : stringText codes = cs := by simpa [encode, atomJson] using h
    exact ⟨_, rfl, .stringText _ _⟩
  | .list items | .tuple items => by
    intro room cs h
    rw [encode] at h
    obtain ⟨hroom, h⟩ := descend_eq_ok_iff.mp h
    obtain ⟨parts, hparts, hcs⟩ := exists_ok_of_bind h
    obtain rfl : arrayText parts = cs := Except.ok.inj hcs
    obtain ⟨parts', hparts', htwins⟩ := encodeItems_redacted items _ parts hparts
    refine ⟨_, ?_, .arrayText htwins⟩
    rw [Value.redacted, encode, level, descend_of_le hroom, hparts']
    rfl
  | .dict entries => by
    intro room cs h
    rw [encode] at h
    obtain ⟨hroom, h⟩ := descend_eq_ok_iff.mp h
    obtain ⟨parts, hparts, hcs⟩ := exists_ok_of_bind h
    obtain rfl : objectText parts = cs := Except.ok.inj hcs
    obtain ⟨parts', hparts', htwins⟩ := encodeEntries_redacted entries _ parts hparts
    refine ⟨_, ?_, .objectText htwins⟩
    rw [Value.redacted, encode, level, descend_of_le hroom, hparts']
    rfl
  | .scalar kind item => by
    intro room cs h
    rw [Value.redacted]
    exact encode_scalar_redacted h (encode_redacted item)
  | .array kind shape items => by
    intro room cs h
    rw [encode] at h
    split at h
    · rename_i hhow
      obtain ⟨hroom, h⟩ := descend_eq_ok_iff.mp h
      obtain ⟨parts, hparts, hcs⟩ := exists_ok_of_bind h
      obtain rfl : nestedJson shape parts = cs := Except.ok.inj hcs
      obtain ⟨parts', hparts', htwins⟩ := encodeItems_redacted items _ parts hparts
      refine ⟨_, ?_, .nestedJson shape htwins⟩
      rw [Value.redacted, encode, if_pos hhow, converted, descend_of_le hroom, hparts']
      rfl
    · cases h
  | .none | .bool _ | .int _ | .float _ => by
    intro room cs h
    exact ⟨cs, h, .of_unquoted (isAtom_atomJson rfl (by simpa [encode] using h)).unquoted⟩
  | .bytes _ | .complex _ _ | .set _ | .cyclicList | .cyclicDict | .literal _ | .field _
  | .constant _ | .model _ _ | .glyph _ _ _ | .layout _ _ | .glyphAttrs _ _ | .figureAttrs _
  | .source _ => by
    intro room cs h
    simp [encode, atomJson] at h

theorem encodeItems_redacted : ∀ (vs : List Value) (room : Nat) (parts : List (List Char)),
    encodeItems how room vs = .ok parts →
      ∃ parts', encodeItems how room (Value.redactedItems vs) = .ok parts' ∧
        List.Forall₂ Twins parts parts'
  | [] => by
    intro room parts h
    obtain rfl : [] = parts := by simpa [encodeItems, pure, Except.pure] using h
    exact ⟨[], rfl, .nil⟩
  | v :: vs => by
    intro room parts h
    rw [encodeItems] at h
    obtain ⟨cs, hcs, h⟩ := exists_ok_of_bind h
    obtain ⟨parts', hparts, h⟩ := exists_ok_of_bind h
    obtain rfl : cs :: parts' = parts := Except.ok.inj h
    obtain ⟨cs', hcs', hv⟩ := encode_redacted v room cs hcs
    obtain ⟨parts'', hparts'', hvs⟩ := encodeItems_redacted vs room parts' hparts
    exact ⟨cs' :: parts'', by rw [Value.redactedItems, encodeItems, hcs', hparts'']; rfl,
      .cons hv hvs⟩

theorem encodeEntries_redacted : ∀ (es : List (Value × Value)) (room : Nat) (parts : List (List Char)),
    encodeEntries how room es = .ok parts →
      ∃ parts', encodeEntries how room (Value.redactedEntries es) = .ok parts' ∧
        List.Forall₂ Twins parts parts'
  | [] => by
    intro room parts h
    obtain rfl : [] = parts := by simpa [encodeEntries, pure, Except.pure] using h
    exact ⟨[], rfl, .nil⟩
  | (k, v) :: es => by
    intro room parts h
    rw [encodeEntries] at h
    obtain ⟨name, hname, h⟩ := exists_ok_of_bind h
    obtain ⟨cs, hcs, h⟩ := exists_ok_of_bind h
    obtain ⟨parts', hparts, h⟩ := exists_ok_of_bind h
    obtain rfl : memberText (stringText name) cs :: parts' = parts := Except.ok.inj h
    obtain ⟨name', hname'⟩ := memberName_redacted hname
    obtain ⟨cs', hcs', hv⟩ := encode_redacted v room cs hcs
    obtain ⟨parts'', hparts'', hes⟩ := encodeEntries_redacted es room parts' hparts
    exact ⟨_, by rw [Value.redactedEntries, encodeEntries, hname', hcs', hparts'']; rfl,
      .cons (.memberText (.stringText name name') hv) hes⟩

end

end Encode

end Json

/-! ## Code -/

namespace Code

open Json (exists_ok_of_bind)

/-- Texts that can take each other's place outside of literals. -/
def TwinTexts (s s' : String) : Prop :=
  Twins s.toList s'.toList

namespace TwinTexts

variable {s s' t t' : String}

theorem of_unquoted (h : '"' ∉ s.toList) : TwinTexts s s :=
  Twins.of_unquoted h

theorem append (h : TwinTexts s s') (h' : TwinTexts t t') : TwinTexts (s ++ t) (s' ++ t') := by
  rw [TwinTexts, String.toList_append, String.toList_append]
  exact Twins.append h h'

theorem intercalate {separator : String} (hseparator : '"' ∉ separator.toList)
    {parts parts' : List String} (h : List.Forall₂ TwinTexts parts parts') :
    TwinTexts (separator.intercalate parts) (separator.intercalate parts') := by
  rw [TwinTexts, String.toList_intercalate, String.toList_intercalate]
  refine Twins.separated hseparator ?_
  rw [List.forall₂_map_left_iff, List.forall₂_map_right_iff]
  exact h

theorem member {name : String} (hname : '"' ∉ name.toList) (h : TwinTexts s s') :
    TwinTexts (Code.member name s) (Code.member name s') :=
  ((of_unquoted hname).append (of_unquoted (by decide))).append h

theorem braced (h : TwinTexts s s') : TwinTexts (Code.braced s) (Code.braced s') :=
  ((of_unquoted (by decide)).append h).append (of_unquoted (by decide))

theorem object {members members' : List String} (h : List.Forall₂ TwinTexts members members') :
    TwinTexts (Code.object members) (Code.object members') := by
  cases h with
  | nil => exact braced (of_unquoted (by decide))
  | cons hm hms =>
    refine braced (.append (.append (of_unquoted (by decide)) ?_) (of_unquoted (by decide)))
    exact intercalate (by decide) (.cons hm hms)

theorem library {name : String} (h : '"' ∉ name.toList) :
    TwinTexts (Code.library name) (Code.library name) :=
  (of_unquoted (by decide)).append (of_unquoted h)

theorem construct {ctor : String} (hctor : '"' ∉ ctor.toList) (h : TwinTexts s s') :
    TwinTexts (Code.construct ctor s) (Code.construct ctor s') :=
  ((((of_unquoted (by decide)).append (library hctor)).append (of_unquoted (by decide))).append
    h).append (of_unquoted (by decide))

theorem json {room : Nat} {v : Value} (h : Code.json room v = .ok s) :
    ∃ s', Code.json room v.redacted = .ok s' ∧ TwinTexts s s' := by
  obtain ⟨hroom, cs, hcs, rfl⟩ := Json.write_eq_ok_iff.mp h
  obtain ⟨cs', hcs', htwins⟩ := Json.encode_redacted v _ cs hcs
  refine ⟨String.ofList cs', Json.write_eq_ok_iff.mpr ⟨hroom, cs', hcs', rfl⟩, ?_⟩
  rwa [TwinTexts, String.toList_ofList, String.toList_ofList]

end TwinTexts

mutual

/-- The code of an argument and of the redacted argument. -/
theorem ofValue_redacted : ∀ (v : Value) (room : Nat) (s : String),
    (∀ name ∈ v.names, name.IsUnquoted) → ofValue room v = .ok s →
      ∃ s', ofValue room v.redactedArgument = .ok s' ∧ TwinTexts s s'
  | .literal v => fun _ s _ h => TwinTexts.json h
  | .field name => by
    intro room s _ h
    obtain ⟨json, hjson, h⟩ := exists_ok_of_bind h
    obtain rfl := Except.ok.inj h
    obtain ⟨json', hjson', htwins⟩ := TwinTexts.json hjson
    refine ⟨_, by rw [Value.redactedArgument, ofValue, hjson']; rfl, .object (.cons ?_ .nil)⟩
    exact .member (by decide) htwins
  | .constant name => by
    intro room s _ h
    obtain ⟨json, hjson, h⟩ := exists_ok_of_bind h
    obtain rfl := Except.ok.inj h
    obtain ⟨json', hjson', htwins⟩ := TwinTexts.json hjson
    refine ⟨_, by rw [Value.redactedArgument, ofValue, hjson']; rfl, .object (.cons ?_ .nil)⟩
    exact .member (by decide) htwins
  | .model ctor args => by
    intro room s hnames h
    obtain ⟨hctor, hargs⟩ := List.forall_mem_cons.mp (by simpa only [Value.names] using hnames)
    rw [ofValue] at h
    obtain ⟨ctor', hctor', h⟩ := exists_ok_of_bind h
    obtain ⟨members, hmembers, h⟩ := exists_ok_of_bind h
    obtain rfl := Except.ok.inj h
    obtain ⟨hroom, hmembers⟩ := descend_eq_ok_iff.mp hmembers
    obtain ⟨members', hmembers', htwins⟩ := ofEntries_redacted args _ members hargs hmembers
    refine ⟨_, by rw [Value.redactedArgument, ofValue, hctor', descend_of_le hroom, hmembers']; rfl, ?_⟩
    exact .construct (hctor ctor' hctor') (.object htwins)
  | .none | .bool _ | .int _ | .float _ | .text _ | .torn _ | .bytes _ | .complex _ _ | .list _
  | .tuple _ | .set _ | .dict _ | .cyclicList | .cyclicDict | .scalar _ _ | .array _ _ _
  | .glyph _ _ _ | .layout _ _ | .glyphAttrs _ _ | .figureAttrs _ | .source _ => by
    intro room s _ h
    obtain ⟨text, -, h⟩ := exists_ok_of_bind (by simpa only [ofValue] using h)
    cases h

theorem ofEntries_redacted : ∀ (args : List (Value × Value)) (room : Nat) (members : List String),
    (∀ name ∈ Value.argumentNames args, name.IsUnquoted) → ofEntries room args = .ok members →
      ∃ members', ofEntries room (Value.redactedArguments args) = .ok members' ∧
        List.Forall₂ TwinTexts members members'
  | [] => by
    intro room members _ h
    obtain rfl : [] = members := by simpa [ofEntries, pure, Except.pure] using h
    exact ⟨[], rfl, .nil⟩
  | (name, v) :: args => by
    intro room members hnames h
    obtain ⟨hname, hnames⟩ :=
      List.forall_mem_cons.mp (by simpa only [Value.argumentNames] using hnames)
    obtain ⟨hv, hargs⟩ := List.forall_mem_append.mp hnames
    rw [ofEntries] at h
    obtain ⟨name', hname', h⟩ := exists_ok_of_bind h
    obtain ⟨code, hcode, h⟩ := exists_ok_of_bind h
    obtain ⟨members', hmembers, h⟩ := exists_ok_of_bind h
    obtain rfl := Except.ok.inj h
    obtain ⟨code', hcode', htwins⟩ := ofValue_redacted v room code hv hcode
    obtain ⟨members'', hmembers', hall⟩ := ofEntries_redacted args room members' hargs hmembers
    refine ⟨_, by rw [Value.redactedArguments, ofEntries, hname', hcode', hmembers']; rfl, ?_⟩
    exact .cons (.member (hname name' hname') htwins) hall

end

/-- Text loses no quote with the null characters at its end. -/
theorem unquoted_of_unpadded {s : String} (h : '"' ∉ (unpadded s).toList) : '"' ∉ s.toList := by
  have hsplit : s.toList = (unpadded s).toList ++ s.toList.rtakeWhile fun c => decide (c = '\x00') := by
    rw [unpadded, String.toList_ofList]
    exact (List.rdropWhile_append_rtakeWhile ..).symm
  rw [hsplit, List.mem_append, not_or]
  refine ⟨h, fun hmem => ?_⟩
  have hnull := List.mem_rtakeWhile_imp hmem
  revert hnull
  decide

theorem unquoted_pathParts {index : Nat} {path : List Value} {parts : List String}
    (hpath : ∀ part ∈ path, part.IsUnquoted) (h : pathParts index path = .ok parts) :
    ∀ s ∈ parts, '"' ∉ s.toList := by
  induction path generalizing index parts with
  | nil =>
    obtain rfl : [] = parts := by simpa [pathParts, pure, Except.pure] using h
    simp
  | cons part path ih =>
    obtain ⟨hpart, hrest⟩ := List.forall_mem_cons.mp hpath
    unfold pathParts at h
    split at h
    · rename_i s
      obtain ⟨parts', hparts, h⟩ := exists_ok_of_bind h
      obtain rfl := Except.ok.inj h
      refine List.forall_mem_cons.mpr ⟨hpart s ?_, ih hrest hparts⟩
      simp [Value.interpolate, Value.toText]
    · rename_i s
      obtain ⟨parts', hparts, h⟩ := exists_ok_of_bind h
      obtain rfl := Except.ok.inj h
      refine List.forall_mem_cons.mpr ⟨unquoted_of_unpadded (hpart _ ?_), ih hrest hparts⟩
      simp [Value.interpolate, Value.toText]
    · rename_i codes
      obtain ⟨parts', hparts, h⟩ := exists_ok_of_bind h
      obtain rfl := Except.ok.inj h
      refine List.forall_mem_cons.mpr ⟨hpart _ ?_, ih hrest hparts⟩
      simp [Value.interpolate, Value.toText, Value.repr, Value.atomText]
    · cases h

theorem twinTexts_accessor {root target : String} {path : List Value} (hroot : '"' ∉ root.toList)
    (hpath : ∀ part ∈ path, part.IsUnquoted) (h : accessor root path = .ok target) :
    TwinTexts target target := by
  obtain ⟨parts, hparts, h⟩ := exists_ok_of_bind h
  obtain rfl := Except.ok.inj h
  have hall : ∀ s ∈ root :: parts, TwinTexts s s :=
    List.forall_mem_cons.mpr ⟨.of_unquoted hroot,
      fun s hs => .of_unquoted (unquoted_pathParts hpath hparts s hs)⟩
  exact .intercalate (by decide) (List.forall₂_same.mpr hall)

variable {room : Nat}

theorem assignments_redacted {indent root : String} (hindent : '"' ∉ indent.toList)
    (hroot : '"' ∉ root.toList) {pairs : Assignments} {s : String}
    (hnames : ∀ name ∈ Value.assignmentNames pairs, name.IsUnquoted)
    (h : assignments room indent root pairs = .ok s) :
    ∃ s', assignments room indent root (Value.redactedAssignments pairs) = .ok s' ∧ TwinTexts s s' := by
  induction pairs generalizing s with
  | nil =>
    obtain rfl : "" = s := by simpa [assignments, pure, Except.pure] using h
    exact ⟨"", rfl, .of_unquoted (by decide)⟩
  | cons pair pairs ih =>
    obtain ⟨path, v⟩ := pair
    obtain ⟨hpair, hrest⟩ := List.forall_mem_append.mp
      (by simpa only [Value.assignmentNames, List.flatMap_cons] using hnames)
    obtain ⟨hpath, hv⟩ := List.forall_mem_append.mp hpair
    rw [assignments] at h
    obtain ⟨target, htarget, h⟩ := exists_ok_of_bind h
    obtain ⟨value, hvalue, h⟩ := exists_ok_of_bind h
    obtain ⟨rest, hrest', h⟩ := exists_ok_of_bind h
    obtain rfl := Except.ok.inj h
    obtain ⟨value', hvalue', htwins⟩ := ofValue_redacted v room value hv hvalue
    obtain ⟨rest', hrest'', hmore⟩ := ih hrest hrest'
    refine ⟨_, ?_, ((((TwinTexts.append (.of_unquoted hindent)
      (twinTexts_accessor hroot hpath htarget)).append (.of_unquoted (by decide))).append
        htwins).append (.of_unquoted (by decide))).append hmore⟩
    have hredacted : Value.redactedAssignments ((path, v) :: pairs) =
        (path, v.redactedArgument) :: Value.redactedAssignments pairs := rfl
    rw [hredacted, assignments, htarget, hvalue', hrest'']
    rfl

theorem ofOperation_redacted {op : Value} {s : String}
    (hnames : ∀ name ∈ op.operationNames, name.IsUnquoted) (h : ofOperation room op = .ok s) :
    ∃ s', ofOperation room op.redactedOperation = .ok s' ∧ TwinTexts s s' := by
  cases op with
  | glyph method src args =>
    obtain ⟨hmethod, hnames⟩ :=
      List.forall_mem_cons.mp (by simpa only [Value.operationNames] using hnames)
    obtain ⟨hsrc, hargs⟩ := List.forall_mem_cons.mp hnames
    rw [ofOperation] at h
    obtain ⟨src', hsrc', h⟩ := exists_ok_of_bind h
    obtain ⟨members, hmembers, h⟩ := exists_ok_of_bind h
    obtain ⟨method', hmethod', h⟩ := exists_ok_of_bind h
    obtain rfl := Except.ok.inj h
    obtain ⟨members', hmembers', htwins⟩ := ofEntries_redacted args room members hargs hmembers
    refine ⟨_, by
      rw [Value.redactedOperation, ofOperation, hsrc', hmembers', hmethod']; rfl, ?_⟩
    have hindex : TwinTexts ("cdsa[" ++ src' ++ "]") ("cdsa[" ++ src' ++ "]") :=
      ((TwinTexts.of_unquoted (by decide)).append (.of_unquoted (hsrc src' hsrc'))).append
        (.of_unquoted (by decide))
    have hobject := TwinTexts.object (.cons (@TwinTexts.member _ _ "source" (by decide) hindex) htwins)
    exact ((((TwinTexts.of_unquoted (by decide)).append (.of_unquoted (hmethod method' hmethod'))).append
      (.of_unquoted (by decide))).append hobject).append (.of_unquoted (by decide))
  | layout ctor args =>
    obtain ⟨hctor, hargs⟩ :=
      List.forall_mem_cons.mp (by simpa only [Value.operationNames] using hnames)
    rw [ofOperation] at h
    obtain ⟨ctor', hctor', h⟩ := exists_ok_of_bind h
    obtain ⟨members, hmembers, h⟩ := exists_ok_of_bind h
    obtain rfl := Except.ok.inj h
    obtain ⟨members', hmembers', htwins⟩ := ofEntries_redacted args room members hargs hmembers
    refine ⟨_, by rw [Value.redactedOperation, ofOperation, hctor', hmembers']; rfl, ?_⟩
    have hmodel := TwinTexts.construct (hctor ctor' hctor') (.object htwins)
    exact ((TwinTexts.of_unquoted (by decide)).append hmodel).append (.of_unquoted (by decide))
  | glyphAttrs ctor pairs =>
    obtain ⟨hctor, hpairs⟩ :=
      List.forall_mem_cons.mp (by simpa only [Value.operationNames] using hnames)
    rw [ofOperation] at h
    obtain ⟨ctor', hctor', h⟩ := exists_ok_of_bind h
    obtain ⟨body, hbody, h⟩ := exists_ok_of_bind h
    obtain rfl := Except.ok.inj h
    obtain ⟨body', hbody', htwins⟩ :=
      assignments_redacted (by decide) (by decide) hpairs hbody
    refine ⟨_, by rw [Value.redactedOperation, ofOperation, hctor', hbody']; rfl, ?_⟩
    exact ((((TwinTexts.of_unquoted (by decide)).append (.library (hctor ctor' hctor'))).append
      (.of_unquoted (by decide))).append htwins).append (.of_unquoted (by decide))
  | figureAttrs pairs => exact assignments_redacted (by decide) (by decide) hnames h
  | _ =>
    obtain ⟨text, -, h⟩ := exists_ok_of_bind (by simpa only [ofOperation] using h)
    cases h

theorem ofOperations_redacted {ops : List Value} {s : String}
    (hnames : ∀ op ∈ ops, ∀ name ∈ op.operationNames, name.IsUnquoted)
    (h : ofOperations room ops = .ok s) :
    ∃ s', ofOperations room (ops.map Value.redactedOperation) = .ok s' ∧ TwinTexts s s' := by
  induction ops generalizing s with
  | nil =>
    obtain rfl : "" = s := by simpa [ofOperations, pure, Except.pure] using h
    exact ⟨"", rfl, .of_unquoted (by decide)⟩
  | cons op ops ih =>
    obtain ⟨hop, hops⟩ := List.forall_mem_cons.mp hnames
    rw [ofOperations] at h
    obtain ⟨first, hfirst, h⟩ := exists_ok_of_bind h
    obtain ⟨rest, hrest, h⟩ := exists_ok_of_bind h
    obtain rfl := Except.ok.inj h
    obtain ⟨first', hfirst', htwins⟩ := ofOperation_redacted hop hfirst
    obtain ⟨rest', hrest', hmore⟩ := ih hops hrest
    exact ⟨_, by rw [List.map_cons, ofOperations, hfirst', hrest']; rfl, htwins.append hmore⟩

/-- The keys of two groups are strings each, whatever is in them. -/
theorem ofLink_twins {group group' range axis : Value} {s : String} (hrange : range.IsUnquoted)
    (hgroup : ∃ text, group'.interpolate = .ok text) (h : ofLink room group range axis = .ok s) :
    ∃ s', ofLink room group' range axis = .ok s' ∧ TwinTexts s s' := by
  obtain ⟨range', hrange', h⟩ := exists_ok_of_bind h
  obtain ⟨key, hkey, h⟩ := exists_ok_of_bind h
  obtain ⟨json, hjson, h⟩ := exists_ok_of_bind h
  obtain rfl := Except.ok.inj h
  obtain ⟨text, -, hkey⟩ := exists_ok_of_bind hkey
  obtain ⟨axis', haxis', -⟩ := exists_ok_of_bind hkey
  obtain ⟨text', htext'⟩ := hgroup
  obtain ⟨hroom, cs, hcs, rfl⟩ := Json.write_eq_ok_iff.mp hjson
  obtain rfl := Except.ok.inj hcs
  have hjson' (key : String) :
      Code.json room (.text key) = .ok (String.ofList (Json.stringText (Text.codes key))) :=
    Json.write_eq_ok_iff.mpr ⟨hroom, _, rfl, rfl⟩
  have hlink : ofLink room group' range axis = do
      return "syncRange(fig." ++ range' ++ ", " ++
        (← Code.json room (.text ("rng@" ++ text' ++ "#" ++ axis'))) ++ ");\n" := by
    rw [ofLink, linkKey, hrange', htext', haxis']
    rfl
  refine ⟨_, by rw [hlink, hjson']; rfl, ?_⟩
  refine (((TwinTexts.append (.append (.of_unquoted (by decide))
    (.of_unquoted (hrange range' hrange'))) (.of_unquoted (by decide))).append ?_).append
      (.of_unquoted (by decide)))
  rw [TwinTexts, String.toList_ofList, String.toList_ofList]
  exact .stringText _ _

theorem ofLinks_twins {group group' : Value} (hgroup : ∃ text, group'.interpolate = .ok text)
    {links : List (Value × Value)} {s : String} (hnames : ∀ range ∈ links.map Prod.fst, range.IsUnquoted)
    (h : ofLinks room group links = .ok s) : ∃ s', ofLinks room group' links = .ok s' ∧ TwinTexts s s' := by
  induction links generalizing s with
  | nil =>
    obtain rfl : "" = s := by simpa [ofLinks, pure, Except.pure] using h
    exact ⟨"", rfl, .of_unquoted (by decide)⟩
  | cons link links ih =>
    obtain ⟨range, axis⟩ := link
    obtain ⟨hrange, hranges⟩ := List.forall_mem_cons.mp hnames
    rw [ofLinks] at h
    obtain ⟨first, hfirst, h⟩ := exists_ok_of_bind h
    obtain ⟨rest, hrest, h⟩ := exists_ok_of_bind h
    obtain rfl := Except.ok.inj h
    obtain ⟨first', hfirst', htwins⟩ := ofLink_twins hrange hgroup hfirst
    obtain ⟨rest', hrest', hmore⟩ := ih hranges hrest
    exact ⟨_, by rw [ofLinks, hfirst', hrest']; rfl, htwins.append hmore⟩

theorem ofFigure_redacted {f : Figure} {s : String} (hnames : ∀ name ∈ f.names, name.IsUnquoted)
    (h : ofFigure room f = .ok s) : ∃ s', ofFigure room f.redacted = .ok s' ∧ TwinTexts s s' := by
  obtain ⟨hnames, hranges⟩ := List.forall_mem_append.mp hnames
  obtain ⟨hops, hargs⟩ := List.forall_mem_append.mp hnames
  obtain ⟨operations, hoperations, h⟩ := exists_ok_of_bind h
  obtain ⟨links, hlinks, h⟩ := exists_ok_of_bind h
  obtain ⟨arguments, harguments, h⟩ := exists_ok_of_bind h
  obtain rfl := Except.ok.inj h
  obtain ⟨members, hmembers, harguments⟩ := exists_ok_of_bind harguments
  obtain rfl := Except.ok.inj harguments
  obtain ⟨operations', hoperations', hone⟩ := ofOperations_redacted
    (fun op hop name hname => hops name (List.mem_flatMap.mpr ⟨op, hop, hname⟩)) hoperations
  obtain ⟨links', hlinks', htwo⟩ := @ofLinks_twins _ _ (.text "") ⟨"", rfl⟩ _ _ hranges hlinks
  obtain ⟨members', hmembers', hthree⟩ := ofEntries_redacted f.arguments room members hargs hmembers
  refine ⟨_, ?_, (((((((TwinTexts.of_unquoted (by decide)).append hone).append htwo).append
    (.library (by decide))).append (.of_unquoted (by decide))).append (.library (by decide))).append
      (.object hthree)).append (.of_unquoted (by decide))⟩
  rw [ofFigure, Figure.redacted, hoperations', hlinks', ofArguments, hmembers']
  rfl

theorem ofFigures_redacted {fs : List Figure} {s : String}
    (hnames : ∀ f ∈ fs, ∀ name ∈ f.names, name.IsUnquoted) (h : ofFigures room fs = .ok s) :
    ∃ s', ofFigures room (fs.map Figure.redacted) = .ok s' ∧ TwinTexts s s' := by
  induction fs generalizing s with
  | nil =>
    obtain rfl : "" = s := by simpa [ofFigures, pure, Except.pure] using h
    exact ⟨"", rfl, .of_unquoted (by decide)⟩
  | cons f fs ih =>
    obtain ⟨hf, hfs⟩ := List.forall_mem_cons.mp hnames
    rw [ofFigures] at h
    obtain ⟨first, hfirst, h⟩ := exists_ok_of_bind h
    obtain ⟨rest, hrest, h⟩ := exists_ok_of_bind h
    obtain rfl := Except.ok.inj h
    obtain ⟨first', hfirst', htwins⟩ := ofFigure_redacted hf hfirst
    obtain ⟨rest', hrest', hmore⟩ := ih hfs hrest
    exact ⟨_, by rw [List.map_cons, ofFigures, hfirst', hrest']; rfl, htwins.append hmore⟩

/-- The code of a window and of the redacted window. -/
theorem ofWindow_redacted {w : Window} {s : String} (hnames : ∀ name ∈ w.names, name.IsUnquoted)
    (h : ofWindow room w = .ok s) : ∃ s', ofWindow room w.redacted = .ok s' ∧ TwinTexts s s' := by
  obtain ⟨figures, hfigures, h⟩ := exists_ok_of_bind h
  obtain rfl := Except.ok.inj h
  obtain ⟨figures', hfigures', htwins⟩ := ofFigures_redacted
    (fun f hf name hname => hnames name (List.mem_flatMap.mpr ⟨f, hf, hname⟩)) hfigures
  refine ⟨_, by rw [ofWindow, Window.redacted, hfigures']; rfl, ?_⟩
  exact ((TwinTexts.of_unquoted (by decide)).append htwins).append (.of_unquoted (by decide))

end Code

/-- Data stays inside of string literals. Let two windows differ only in the strings that they hold as
data, and none of their names hold a quote. If both compile, the code of both has the same skeleton
and the same number of literals; none of these is left open, and each consists of printable ASCII,
so that there is no line break in it. -/
theorem data_stays_in_literals {room : Nat} {w w' : Window} {s s' : String}
    (hshape : w.redacted = w'.redacted) (hnames : ∀ name ∈ w.names, name.IsUnquoted)
    (hs : Code.ofWindow room w = .ok s) (hs' : Code.ofWindow room w' = .ok s') :
    (Scanner.scan s).skeleton = (Scanner.scan s').skeleton ∧
      (Scanner.scan s).literals.length = (Scanner.scan s').literals.length ∧
      (Scanner.scan s).mode = .code ∧ (Scanner.scan s').mode = .code ∧
      ∀ l ∈ (Scanner.scan s).literals ++ (Scanner.scan s').literals, ∀ c ∈ l, Json.IsPrinted c := by
  have hnames' : ∀ name ∈ w'.names, name.IsUnquoted := by
    rw [← w'.names_redacted, ← hshape, w.names_redacted]
    exact hnames
  obtain ⟨code, hcode, htwins⟩ := Code.ofWindow_redacted hnames hs
  obtain ⟨code', hcode', htwins'⟩ := Code.ofWindow_redacted hnames' hs'
  rw [← hshape] at hcode'
  obtain rfl := Except.ok.inj (hcode.symm.trans hcode')
  have hleft := htwins _ _ Scanner.alike_start
  have hright := htwins' _ _ Scanner.alike_start
  refine ⟨hleft.skeleton.trans hright.skeleton.symm, hleft.count.trans hright.count.symm,
    hleft.left.mode, hright.left.mode, ?_⟩
  exact List.forall_mem_append.mpr ⟨hleft.left.printed, hright.left.printed⟩

/-- A window with one figure that holds some strings as data. -/
def labelledWindow (group column title key : String) : Window :=
  { id := "w"
    groupId := .text group
    sources := []
    figures :=
      [{ windowId := "w"
         groupId := .text group
         operations :=
           [.glyph (.text "line") (.int 0)
              [(.text "x", .field (.text column)),
                (.text "hover", .model (.text "HoverTool")
                  [(.text "tips", .literal (.dict [(.text key, .list [.text title, .none])]))])]]
         arguments := [(.text "title", .literal (.text title))]
         links := [(.text "x_range", .int 1)] }] }

theorem data_stays_in_literals_hostile :
    ∃ s s', Code.ofWindow Room.standard.calls (labelledWindow "g" "x" "t" "k") = .ok s ∧
      Code.ofWindow Room.standard.calls (labelledWindow "g\"#1" "x\"), alert(\"" "\\\n" "\"") = .ok s' ∧
      (Scanner.scan s).skeleton = (Scanner.scan s').skeleton ∧
      (Scanner.scan s).literals.length = (Scanner.scan s').literals.length ∧
      (Scanner.scan s).mode = .code ∧ (Scanner.scan s').mode = .code ∧
      ∀ l ∈ (Scanner.scan s).literals ++ (Scanner.scan s').literals, ∀ c ∈ l, Json.IsPrinted c := by
  have hok : (Code.ofWindow Room.standard.calls (labelledWindow "g" "x" "t" "k")).toOption.any
      (fun _ => true) = true := by
    decide +kernel
  have hok' : (Code.ofWindow Room.standard.calls
      (labelledWindow "g\"#1" "x\"), alert(\"" "\\\n" "\"")).toOption.any (fun _ => true) = true := by
    decide +kernel
  obtain ⟨s, hs, -⟩ := Json.exists_ok_of_any hok
  obtain ⟨s', hs', -⟩ := Json.exists_ok_of_any hok'
  have hnames : (labelledWindow "g" "x" "t" "k").names =
      [.text "line", .int 0, .text "x", .text "hover", .text "HoverTool", .text "tips",
        .text "title", .text "x_range"] := rfl
  have hshape : (labelledWindow "g" "x" "t" "k").redacted =
      (labelledWindow "g\"#1" "x\"), alert(\"" "\\\n" "\"").redacted := rfl
  refine ⟨s, s', hs, hs', data_stays_in_literals hshape ?_ hs hs'⟩
  rw [hnames]
  simp only [List.forall_mem_cons, List.not_mem_nil, false_implies, implies_true, and_true,
    Value.isUnquoted_int, true_and]
  and_intros <;> exact Value.isUnquoted_text (by decide)

end PlotStream
