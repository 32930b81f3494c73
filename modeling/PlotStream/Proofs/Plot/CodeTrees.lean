import PlotStream.Plot.Code
import PlotStream.Proofs.Json.Depth
import PlotStream.Proofs.Plot.Trees

/-!
# The code determines what it came from

The code of a value is the code of its tree (`Code.exists_tree`, `Code.exists_operationTree`), and
trees are told apart by their code, so that the code of a value determines its tree
(`code_determines_tree`), whatever room there was to write it. What code leaves open is how a constant is
held: a tuple and a list have the same JSON text.
-/

namespace PlotStream

/-! ## The trees of values -/

namespace Value

/-- The text of a string, which may be a scalar. -/
def string? : Value → Option String
  | .text s | .scalar (.text _) (.text s) => some s
  | _ => Option.none

/-- The texts of strings. -/
def strings? (parts : List Value) : Option (List String) :=
  parts.mapM string?

/-- The JSON text of a constant, for which there is just enough room. -/
def constantText? (v : Value) : Option String :=
  (Code.json (v.depth + writingCalls) v).toOption

mutual

/-- The tree of an argument. -/
def tree? : Value → Option Tree
  | .literal v => v.constantText?.map Tree.literal
  | .field name => name.string?.map Tree.field
  | .constant name => name.string?.map Tree.constant
  | .model ctor args => do return .model (← ctor.string?) (← argumentTrees? args)
  | _ => Option.none

/-- The trees of named arguments. -/
def argumentTrees? : List (Value × Value) → Option (List (String × Tree))
  | [] => some []
  | (name, v) :: args => do return (← name.string?, ← v.tree?) :: (← argumentTrees? args)

end

/-- The trees of values assigned to paths. -/
def assignmentTrees? : Assignments → Option (List (List String × Tree))
  | [] => some []
  | (path, v) :: pairs => do return (← strings? path, ← v.tree?) :: (← assignmentTrees? pairs)

/-- The tree of an operation. -/
def operationTree? : Value → Option OperationTree
  | .glyph method (.int n) args => do return .glyph (← method.string?) n (← argumentTrees? args)
  | .layout ctor args => do return .layout (← ctor.string?) (← argumentTrees? args)
  | .glyphAttrs ctor pairs => do return .glyphAttrs (← ctor.string?) (← assignmentTrees? pairs)
  | .figureAttrs pairs => (assignmentTrees? pairs).map OperationTree.figureAttrs
  | _ => Option.none

/-- A string that is a name. -/
def IsIdentifier (v : Value) : Prop :=
  ∃ s, v.string? = some s ∧ IsName s

mutual

/-- References are to strings, and constructors and arguments have names. -/
def IsNamed : Value → Prop
  | .field name | .constant name => ∃ s, name.string? = some s
  | .model ctor args => ctor.IsIdentifier ∧ AreNamed args
  | _ => True

/-- Named arguments one by one. -/
def AreNamed : List (Value × Value) → Prop
  | [] => True
  | (name, v) :: args => name.IsIdentifier ∧ v.IsNamed ∧ AreNamed args

end

/-- An operation whose parts have names and whose data source is given by number. -/
def IsNamedOperation : Value → Prop
  | .glyph method src args => method.IsIdentifier ∧ (∃ n, src = .int n) ∧ AreNamed args
  | .layout ctor args => ctor.IsIdentifier ∧ AreNamed args
  | .glyphAttrs ctor pairs =>
    ctor.IsIdentifier ∧ ∀ p ∈ pairs, (∀ part ∈ p.1, part.IsIdentifier) ∧ p.2.IsNamed
  | .figureAttrs pairs => ∀ p ∈ pairs, (∀ part ∈ p.1, part.IsIdentifier) ∧ p.2.IsNamed
  | _ => True

end Value

/-! ## Strings of names -/

namespace Value

theorem interpolate_of_string? {v : Value} {s : String} (h : v.string? = some s) (hs : IsName s) :
    v.interpolate = .ok s := by
  unfold string? at h
  split at h
  · obtain rfl := Option.some.inj h
    simp [interpolate, toText]
  · obtain rfl := Option.some.inj h
    rename_i text
    have hpadded : unpadded text = text := by
      have hkeep : text.toList.reverse.dropWhile (· = '\x00') = text.toList.reverse := by
        refine List.dropWhile_eq_self_iff.mpr fun hlen => ?_
        have hname := hs _ (List.mem_reverse.mp (List.getElem_mem hlen))
        rw [decide_eq_true_iff]
        intro hnull
        rw [hnull] at hname
        revert hname
        decide
      rw [unpadded, hkeep, List.reverse_reverse, String.ofList_toList]
    simp [interpolate, toText, hpadded]
  · cases h

theorem interpolate_int {n : Int} {s : String} (h : (Value.int n).interpolate = .ok s) :
    n.natAbs < 10 ^ digitLimit ∧ s.toList = intText n := by
  have htext : integerText n = .ok s := by simpa only [interpolate, toText, repr, atomText] using h
  by_cases hn : n.natAbs < 10 ^ digitLimit
  · have hok : integerText n = .ok (String.ofList (intText n)) := by
      rw [integerText, Nat.pow_eq, if_neg (Nat.not_le.mpr hn)]
    rw [hok] at htext
    obtain rfl := Except.ok.inj htext
    exact ⟨hn, String.toList_ofList⟩
  · have hfail : integerText n = .error .tooManyDigits := by
      rw [integerText, Nat.pow_eq, if_pos (Nat.not_lt.mp hn)]
    rw [hfail] at htext
    cases htext

theorem pathParts_of_strings {path : List Value} (hpath : ∀ part ∈ path, part.IsIdentifier)
    {index : Nat} {parts : List String} (h : Code.pathParts index path = .ok parts) :
    strings? path = some parts ∧ ∀ part ∈ parts, IsName part := by
  induction path generalizing index parts with
  | nil =>
    obtain rfl : [] = parts := by simpa [Code.pathParts, pure, Except.pure] using h
    exact ⟨rfl, by simp⟩
  | cons part path ih =>
    obtain ⟨⟨s, hs, hname⟩, hrest⟩ := List.forall_mem_cons.mp hpath
    have hparts : ∃ parts', Code.pathParts (index + 1) path = .ok parts' ∧ parts = s :: parts' := by
      unfold string? at hs
      split at hs
      · obtain rfl := Option.some.inj hs
        rw [Code.pathParts] at h
        obtain ⟨parts', hparts, h⟩ := Json.exists_ok_of_bind h
        exact ⟨parts', hparts, (Except.ok.inj h).symm⟩
      · obtain rfl := Option.some.inj hs
        rw [Code.pathParts] at h
        obtain ⟨parts', hparts, h⟩ := Json.exists_ok_of_bind h
        exact ⟨parts', hparts, (Except.ok.inj h).symm⟩
      · cases hs
    obtain ⟨parts', hparts', rfl⟩ := hparts
    obtain ⟨hstrings, hnames⟩ := ih hrest hparts'
    refine ⟨?_, List.forall_mem_cons.mpr ⟨hname, hnames⟩⟩
    rw [strings?] at hstrings ⊢
    rw [List.mapM_cons, hs, hstrings]
    rfl

end Value

namespace Code

open Json (exists_ok_of_bind)

section

variable {room : Nat} {v : Value} {s code : String}

theorem constantText?_of_json (h : json room v = .ok code) : v.constantText? = some code := by
  rw [Value.constantText?, json, Json.write_of_depth_le h (Nat.le_refl _)]
  rfl

theorem json_of_string? (hs : v.string? = some s) (h : json room v = .ok code) :
    code.toList = Json.stringText (Text.codes s) := by
  obtain ⟨-, cs, hcs, rfl⟩ := Json.write_eq_ok_iff.mp h
  rw [String.toList_ofList]
  unfold Value.string? at hs
  split at hs
  · obtain rfl := Option.some.inj hs
    simpa [Json.encode, Json.atomJson] using hcs.symm
  · obtain rfl := Option.some.inj hs
    simpa [Json.encode, Json.atomJson] using hcs.symm
  · cases hs

theorem written_json (h : json room v = .ok code) : Json.Written code.toList := by
  obtain ⟨-, cs, hcs, rfl⟩ := Json.write_eq_ok_iff.mp h
  rw [String.toList_ofList]
  exact Json.encode_written v _ cs hcs

end

/-- The code of one named argument. -/
def renderMember (e : String × Tree) : List Char :=
  Tree.renderName e.1 ++ e.2.render

theorem renderMore_eq (args : List (String × Tree)) :
    Tree.renderMore args = (args.map renderMember).flatMap ([',', ' '] ++ ·) ++ [' ', '\x7d'] := by
  induction args with
  | nil => rfl
  | cons e args ih =>
    rw [Tree.renderMore, ih]
    simp [renderMember]

theorem separated_eq_flatMap (part : List Char) (parts : List (List Char)) :
    [',', ' '].intercalate (part :: parts) = part ++ parts.flatMap ([',', ' '] ++ ·) := by
  induction parts generalizing part with
  | nil => simp
  | cons next parts ih =>
    rw [List.intercalate_cons_cons, ih, List.flatMap_cons, List.append_assoc, List.append_assoc]

theorem toList_object_cons (m : String) (ms : List String) :
    (object (m :: ms)).toList =
      ['\x7b', ' '] ++ m.toList ++ ((ms.map String.toList).flatMap ([',', ' '] ++ ·) ++ [' ', '\x7d']) := by
  have hsep : ", ".toList = [',', ' '] := rfl
  have hopen : "\x7b".toList = ['\x7b'] := rfl
  have hclose : "\x7d".toList = ['\x7d'] := rfl
  have hblank : " ".toList = [' '] := rfl
  simp only [object, List.isEmpty_cons, Bool.false_eq_true, if_false, braced, String.toList_append,
    String.toList_intercalate, List.map_cons, hsep, hopen, hclose, hblank, separated_eq_flatMap]
  simp

theorem toList_member (name value : String) :
    (member name value).toList = Tree.renderName name ++ value.toList := by
  have hcolon : ": ".toList = [':', ' '] := rfl
  rw [member, String.toList_append, String.toList_append, hcolon, Tree.renderName]

/-- An object that stands for a reference. -/
theorem toList_reference (key value : String) :
    (object [member key value]).toList =
      ['\x7b', ' '] ++ Tree.renderName key ++ (value.toList ++ [' ', '\x7d']) := by
  rw [toList_object_cons, toList_member]
  simp

theorem toList_construct (ctor args : String) :
    (construct ctor args).toList =
      "new Bokeh.".toList ++ (ctor.toList ++ '(' :: (args.toList ++ [')'])) := by
  have hnew : "new ".toList ++ "Bokeh.".toList = "new Bokeh.".toList := rfl
  have hopen : "(".toList = ['('] := rfl
  have hclose : ")".toList = [')'] := rfl
  simp only [construct, library, String.toList_append, ← hnew, hopen, hclose, List.append_assoc,
    List.cons_append, List.nil_append]

theorem toList_object {members : List String} {args : List (String × Tree)}
    (h : members.map String.toList = args.map renderMember) :
    (object members).toList = Tree.renderObject args := by
  cases args with
  | nil =>
    obtain rfl : members = [] := by simpa using h
    rfl
  | cons e args =>
    cases members with
    | nil => cases h
    | cons m ms =>
      obtain ⟨hm, hms⟩ := List.cons.inj h
      rw [toList_object_cons, hm, hms, ← renderMore_eq, Tree.renderObject, renderMember]
      simp

mutual

/-- The code of an argument is that of its tree. -/
theorem exists_tree : ∀ (v : Value) (room : Nat) (code : String), v.IsNamed → ofValue room v = .ok code →
    ∃ t, v.tree? = some t ∧ t.IsSound ∧ code.toList = t.render
  | .literal v => by
    intro room code _ h
    rw [ofValue] at h
    exact ⟨.literal code, by rw [Value.tree?, constantText?_of_json h]; rfl, written_json h, rfl⟩
  | .field name => by
    intro room code hnamed h
    rw [Value.IsNamed] at hnamed
    obtain ⟨s, hs⟩ := hnamed
    obtain ⟨j, hj, h⟩ := exists_ok_of_bind h
    obtain rfl := Except.ok.inj h
    refine ⟨.field s, by rw [Value.tree?, hs]; rfl, trivial, ?_⟩
    rw [toList_reference, json_of_string? hs hj]
    rfl
  | .constant name => by
    intro room code hnamed h
    rw [Value.IsNamed] at hnamed
    obtain ⟨s, hs⟩ := hnamed
    obtain ⟨j, hj, h⟩ := exists_ok_of_bind h
    obtain rfl := Except.ok.inj h
    refine ⟨.constant s, by rw [Value.tree?, hs]; rfl, trivial, ?_⟩
    rw [toList_reference, json_of_string? hs hj]
    rfl
  | .model ctor args => by
    intro room code hnamed h
    rw [Value.IsNamed] at hnamed
    obtain ⟨⟨s, hs, hname⟩, hargs⟩ := hnamed
    rw [ofValue, Value.interpolate_of_string? hs hname] at h
    obtain ⟨members, hmembers, h⟩ :=
      exists_ok_of_bind (x := descend .tooManyCalls modelCalls room fun room => ofEntries room args) h
    obtain rfl := Except.ok.inj h
    obtain ⟨-, hmembers⟩ := descend_eq_ok_iff.mp hmembers
    obtain ⟨trees, htrees, hsound, hcode⟩ := exists_trees args _ members hargs hmembers
    refine ⟨.model s trees, by rw [Value.tree?, hs, htrees]; rfl, ⟨hname, hsound⟩, ?_⟩
    rw [toList_construct, toList_object hcode]
    rfl
  | .none | .bool _ | .int _ | .float _ | .text _ | .torn _ | .bytes _ | .complex _ _ | .list _
  | .tuple _ | .set _ | .dict _ | .cyclicList | .cyclicDict | .scalar _ _ | .array _ _ _
  | .glyph _ _ _ | .layout _ _ | .glyphAttrs _ _ | .figureAttrs _ | .source _ => by
    intro room code _ h
    obtain ⟨text, -, h⟩ := exists_ok_of_bind (by simpa only [ofValue] using h)
    cases h

theorem exists_trees : ∀ (args : List (Value × Value)) (room : Nat) (members : List String),
    Value.AreNamed args → ofEntries room args = .ok members →
      ∃ trees, Value.argumentTrees? args = some trees ∧ Tree.AreSound trees ∧
        members.map String.toList = trees.map renderMember
  | [] => by
    intro room members _ h
    obtain rfl : [] = members := by simpa [ofEntries, pure, Except.pure] using h
    exact ⟨[], rfl, trivial, rfl⟩
  | (name, v) :: args => by
    intro room members hnamed h
    rw [Value.AreNamed] at hnamed
    obtain ⟨⟨s, hs, hname⟩, hv, hargs⟩ := hnamed
    rw [ofEntries, Value.interpolate_of_string? hs hname] at h
    obtain ⟨code, hcode, h⟩ := exists_ok_of_bind (x := ofValue room v) h
    obtain ⟨members', hmembers, h⟩ := exists_ok_of_bind h
    obtain rfl := Except.ok.inj h
    obtain ⟨t, ht, hsound, htext⟩ := exists_tree v room code hv hcode
    obtain ⟨trees, htrees, hsounds, htexts⟩ := exists_trees args room members' hargs hmembers
    refine ⟨(s, t) :: trees, by rw [Value.argumentTrees?, hs, ht, htrees]; rfl,
      ⟨hname, hsound, hsounds⟩, ?_⟩
    rw [List.map_cons, List.map_cons, toList_member, htext, htexts]
    rfl

end

theorem toList_accessor {root target : String} {path : List Value} {parts : List String}
    (hparts : pathParts 1 path = .ok parts) (h : accessor root path = .ok target) :
    target.toList = root.toList ++ OperationTree.renderPath parts := by
  rw [accessor, hparts] at h
  obtain rfl := Except.ok.inj h
  rw [String.toList_intercalate, List.map_cons]
  have hdot : ".".toList = ['.'] := rfl
  rw [hdot]
  clear h hparts
  induction parts generalizing root with
  | nil => simp [OperationTree.renderPath]
  | cons part parts ih =>
    rw [List.map_cons, List.intercalate_cons_cons, ih, OperationTree.renderPath]
    simp

theorem exists_assignmentTrees {room : Nat} {indent root : String} {pairs : Assignments} {code : String}
    (hnamed : ∀ p ∈ pairs, (∀ part ∈ p.1, part.IsIdentifier) ∧ p.2.IsNamed)
    (h : assignments room indent root pairs = .ok code) :
    ∃ trees, Value.assignmentTrees? pairs = some trees ∧ OperationTree.ArePairsSound trees ∧
      code.toList = OperationTree.renderAssignments (indent.toList ++ root.toList) trees := by
  induction pairs generalizing code with
  | nil =>
    obtain rfl : "" = code := by simpa [assignments, pure, Except.pure] using h
    exact ⟨[], rfl, by simp [OperationTree.ArePairsSound], rfl⟩
  | cons pair pairs ih =>
    obtain ⟨path, v⟩ := pair
    obtain ⟨⟨hpath, hv⟩, hrest⟩ := List.forall_mem_cons.mp hnamed
    rw [assignments] at h
    obtain ⟨target, htarget, h⟩ := exists_ok_of_bind h
    obtain ⟨value, hvalue, h⟩ := exists_ok_of_bind h
    obtain ⟨more, hmore, h⟩ := exists_ok_of_bind h
    obtain rfl := Except.ok.inj h
    obtain ⟨parts, hparts, -⟩ := exists_ok_of_bind htarget
    obtain ⟨hstrings, hnames⟩ := Value.pathParts_of_strings hpath hparts
    obtain ⟨t, ht, hsound, htext⟩ := exists_tree v room value hv hvalue
    obtain ⟨trees, htrees, hsounds, htexts⟩ := ih hrest hmore
    refine ⟨(parts, t) :: trees, by rw [Value.assignmentTrees?, hstrings, ht, htrees]; rfl,
      List.forall_mem_cons.mpr ⟨⟨hnames, hsound⟩, hsounds⟩, ?_⟩
    have hequals : " = ".toList = [' ', '=', ' '] := rfl
    have hend : ";\n".toList = [';', '\n'] := rfl
    simp only [String.toList_append, toList_accessor hparts htarget, htext, htexts, hequals, hend,
      OperationTree.renderAssignments]
    simp

theorem toList_select (opening ctor : String) {body : String} {pairs : List (List String × Tree)}
    (hbody : body.toList = OperationTree.renderAssignments [' ', ' ', 'g'] pairs) :
    (opening ++ library ctor ++ ")) \x7b\n" ++ body ++ "\x7d\n").toList =
      OperationTree.renderGlyphAttrs opening.toList ctor pairs := by
  have hclose : ")) \x7b\n".toList = ')' :: ") \x7b\n".toList := rfl
  have hend : "\x7d\n".toList = ['\x7d', '\n'] := rfl
  simp only [OperationTree.renderGlyphAttrs, library, String.toList_append, hbody, hclose, hend,
    List.append_assoc, List.cons_append]

/-- The code of an operation is that of its tree. -/
theorem exists_operationTree {room : Nat} {op : Value} {code : String} (hnamed : op.IsNamedOperation)
    (h : ofOperation room op = .ok code) :
    ∃ t, op.operationTree? = some t ∧ t.IsSound ∧ code.toList = t.render := by
  cases op with
  | glyph method src args =>
    obtain ⟨⟨s, hs, hname⟩, ⟨n, rfl⟩, hargs⟩ := hnamed
    rw [ofOperation, Value.interpolate_of_string? hs hname] at h
    obtain ⟨index, hindex, h⟩ := exists_ok_of_bind h
    obtain ⟨members, hmembers, h⟩ := exists_ok_of_bind h
    obtain rfl := Except.ok.inj h
    obtain ⟨trees, htrees, hsound, hcode⟩ := exists_trees args room members hargs hmembers
    obtain ⟨hlimit, htext⟩ := Value.interpolate_int hindex
    refine ⟨.glyph s n trees, by rw [Value.operationTree?, hs, htrees]; rfl,
      ⟨hname, hlimit, hsound⟩, ?_⟩
    have hopen : "(".toList = ['('] := rfl
    have hend : ")\n".toList = [')', '\n'] := rfl
    have hcdsa : "cdsa[".toList = ['c', 'd', 's', 'a', '['] := rfl
    have hclose : "]".toList = [']'] := rfl
    have hsource : "\x7b source: cdsa[".toList =
        ['\x7b', ' '] ++ Tree.renderName "source" ++ ['c', 'd', 's', 'a', '['] := rfl
    rw [OperationTree.render, OperationTree.renderGlyph, hsource, renderMore_eq, ← hcode]
    simp only [String.toList_append, toList_object_cons, toList_member, hopen, hend, hcdsa, hclose,
      htext]
    simp
  | layout ctor args =>
    obtain ⟨⟨s, hs, hname⟩, hargs⟩ := hnamed
    rw [ofOperation, Value.interpolate_of_string? hs hname] at h
    obtain ⟨members, hmembers, h⟩ := exists_ok_of_bind (x := ofEntries room args) h
    obtain rfl := Except.ok.inj h
    obtain ⟨trees, htrees, hsound, hcode⟩ := exists_trees args room members hargs hmembers
    refine ⟨.layout s trees, by rw [Value.operationTree?, hs, htrees]; rfl, ⟨hname, hsound⟩, ?_⟩
    have hsplit : "fig.add_layout(".toList = "fig.".toList ++ ("add_layout".toList ++ ['(']) := rfl
    have hend : ")\n".toList = [')', '\n'] := rfl
    have hmodel : (construct s (object members)).toList = (Tree.model s trees).render := by
      rw [toList_construct, toList_object hcode]
      rfl
    simp only [OperationTree.render, OperationTree.renderLayout, String.toList_append, hmodel,
      hsplit, hend, List.append_assoc, List.cons_append, List.nil_append]
  | glyphAttrs ctor pairs =>
    obtain ⟨⟨s, hs, hname⟩, hpairs⟩ := hnamed
    rw [ofOperation, Value.interpolate_of_string? hs hname] at h
    obtain ⟨body, hbody, h⟩ := exists_ok_of_bind (x := assignments room "  " "g" pairs) h
    obtain rfl := Except.ok.inj h
    obtain ⟨trees, htrees, hsound, hcode⟩ := exists_assignmentTrees hpairs hbody
    refine ⟨.glyphAttrs s trees, by rw [Value.operationTree?, hs, htrees]; rfl, ⟨hname, hsound⟩, ?_⟩
    exact toList_select _ s hcode
  | figureAttrs pairs =>
    obtain ⟨trees, htrees, hsound, hcode⟩ := exists_assignmentTrees hnamed h
    exact ⟨.figureAttrs trees, by rw [Value.operationTree?, htrees]; rfl, hsound, hcode⟩
  | _ =>
    obtain ⟨text, -, h⟩ := exists_ok_of_bind (by simpa only [ofOperation] using h)
    cases h

end Code

/-- The code of an argument determines its tree: the kind at every node, the constructors, the names
of arguments in order and with their repetitions, the names of references, and the JSON text of
constants. The code of an operation determines its kind, its method or constructor, the number of
its data source, its paths in order, and the trees of its values. -/
theorem code_determines_tree :
    (∀ (v w : Value) (room room' : Nat) (code : String), v.IsNamed → w.IsNamed →
      Code.ofValue room v = .ok code → Code.ofValue room' w = .ok code →
        ∃ t, v.tree? = some t ∧ w.tree? = some t) ∧
    (∀ (a b : Value) (room room' : Nat) (code : String), a.IsNamedOperation → b.IsNamedOperation →
      Code.appendOperation room "" a = .ok code → Code.appendOperation room' "" b = .ok code →
        ∃ t, a.operationTree? = some t ∧ b.operationTree? = some t) := by
  refine ⟨fun v w room room' code hv hw hcode hcode' => ?_,
    fun a b room room' code ha hb hcode hcode' => ?_⟩
  · obtain ⟨t, ht, hsound, htext⟩ := Code.exists_tree v room code hv hcode
    obtain ⟨t', ht', hsound', htext'⟩ := Code.exists_tree w room' code hw hcode'
    have hsame : t.render ++ [] = t'.render ++ [] := by rw [← htext, ← htext']
    have hnil : Json.Follows [] := by simp [Json.Follows]
    obtain ⟨rfl, -⟩ := t.render_inj t' [] [] hsound hsound' hnil hnil hsame
    exact ⟨t, ht, ht'⟩
  · obtain ⟨text, htext, hcode⟩ := Json.exists_ok_of_bind hcode
    obtain ⟨text', htext', hcode'⟩ := Json.exists_ok_of_bind hcode'
    obtain ⟨t, ht, hsound, hrender⟩ := Code.exists_operationTree ha htext
    obtain ⟨t', ht', hsound', hrender'⟩ := Code.exists_operationTree hb htext'
    have hlist : text.toList = text'.toList := by
      have hsame := congrArg String.toList (Except.ok.inj (hcode.trans hcode'.symm))
      simpa using hsame
    rw [hrender, hrender'] at hlist
    obtain rfl := OperationTree.render_inj hsound hsound' hlist
    exact ⟨t, ht, ht'⟩

/-- A model with a constant and a reference. -/
def hoverTool (tips : Value) : Value :=
  .model (.text "HoverTool")
    [(.text "tips", .literal tips), (.text "at", .field (.text "x")), (.text "tips", .literal tips)]

theorem isNamed_hoverTool (tips : Value) : (hoverTool tips).IsNamed := by
  have hname {s : String} (h : IsName s) : (Value.text s).IsIdentifier := ⟨s, rfl, h⟩
  simp only [hoverTool, Value.IsNamed, Value.AreNamed, true_and, and_true]
  exact ⟨hname (by decide), hname (by decide), hname (by decide), ⟨"x", rfl⟩, hname (by decide)⟩

/-- Assignments of such a model. -/
def hoverAttrs (tips : Value) : Value :=
  .glyphAttrs (.text "Line") [([.text "a", .text "b"], hoverTool tips), ([.text "c"], .literal tips)]

theorem isNamed_hoverAttrs (tips : Value) : (hoverAttrs tips).IsNamedOperation := by
  have hname {s : String} (h : IsName s) : (Value.text s).IsIdentifier := ⟨s, rfl, h⟩
  simp only [hoverAttrs, Value.IsNamedOperation, List.forall_mem_cons, List.not_mem_nil,
    false_implies, implies_true, and_true]
  exact ⟨hname (by decide), ⟨⟨hname (by decide), hname (by decide)⟩, isNamed_hoverTool tips⟩,
    hname (by decide), by simp only [Value.IsNamed]⟩

/-- A tuple and a list have the same JSON text. -/
theorem code_determines_tree_hover :
    (∃ t, (hoverTool (.tuple [.int 1])).tree? = some t ∧ (hoverTool (.list [.int 1])).tree? = some t) ∧
    ∃ t, (hoverAttrs (.tuple [.int 1])).operationTree? = some t ∧
      (hoverAttrs (.list [.int 1])).operationTree? = some t := by
  have hvalue : (Code.ofValue 1000 (hoverTool (.tuple [.int 1]))).toOption.any
      (fun s => (Code.ofValue 1000 (hoverTool (.list [.int 1]))).toOption.any
        fun s' => s == s') = true := by
    decide +kernel
  have hoperation : (Code.appendOperation 1000 "" (hoverAttrs (.tuple [.int 1]))).toOption.any
      (fun s => (Code.appendOperation 1000 "" (hoverAttrs (.list [.int 1]))).toOption.any
        fun s' => s == s') = true := by
    decide +kernel
  obtain ⟨s, hs, hsame⟩ := Json.exists_ok_of_any hvalue
  obtain ⟨s', hs', hsame⟩ := Json.exists_ok_of_any hsame
  obtain rfl := beq_iff_eq.mp hsame
  obtain ⟨c, hc, hsame⟩ := Json.exists_ok_of_any hoperation
  obtain ⟨c', hc', hsame⟩ := Json.exists_ok_of_any hsame
  obtain rfl := beq_iff_eq.mp hsame
  exact ⟨code_determines_tree.1 _ _ _ _ s (isNamed_hoverTool _) (isNamed_hoverTool _) hs hs',
    code_determines_tree.2 _ _ _ _ c (isNamed_hoverAttrs _) (isNamed_hoverAttrs _) hc hc'⟩

end PlotStream
