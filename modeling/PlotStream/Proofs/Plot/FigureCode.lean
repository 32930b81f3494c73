import PlotStream.Proofs.Plot.Histories
import PlotStream.Proofs.Wire.Messages

/-!
# The code of a figure is what its calls say

The code of a figure is a row of lines, one for each operation, linked range and argument
(`Code.IsFigure`), and `Histories` tells which these are. Together they tell the code of a figure from
the calls that have been made (`figure_code_follows_calls`). The arguments of one call keep their order
and repetitions, and a path given as text stands in the code as it is.
-/

namespace PlotStream

namespace Code

/-! ## Rows of code -/

/-- Pieces of code that are made one by one are put together in order. -/
theorem row_eq_ok_iff {α : Type} {one : α → Except Fault String} {row : List α → Except Fault String}
    (hnil : row [] = .ok "") (hcons : ∀ a as, row (a :: as) = do return (← one a) ++ (← row as))
    {as : List α} {code : String} :
    row as = .ok code ↔
      ∃ pieces, List.Forall₂ (fun a piece => one a = .ok piece) as pieces ∧
        code = String.join pieces := by
  induction as generalizing code with
  | nil =>
    rw [hnil]
    constructor
    · intro h
      exact ⟨[], .nil, (Except.ok.inj h).symm⟩
    · rintro ⟨pieces, hpieces, rfl⟩
      cases hpieces
      rfl
  | cons a as ih =>
    rw [hcons]
    constructor
    · intro h
      obtain ⟨piece, hpiece, h⟩ := Json.exists_ok_of_bind h
      obtain ⟨rest, hrest, h⟩ := Json.exists_ok_of_bind h
      obtain ⟨pieces, hpieces, rfl⟩ := ih.mp hrest
      exact ⟨piece :: pieces, .cons hpiece hpieces, by
        rw [String.join_cons]
        exact (Except.ok.inj h).symm⟩
    · rintro ⟨pieces, hpieces, rfl⟩
      cases hpieces with
      | cons hpiece hpieces =>
        rw [hpiece, ih.mpr ⟨_, hpieces, rfl⟩, String.join_cons]
        rfl

/-- The code of an operation does not depend on the code in front of it. -/
theorem appendOperation_eq (room : Nat) (code : String) (op : Value) :
    appendOperation room code op = (appendOperation room "" op).map (code ++ ·) := by
  unfold appendOperation
  cases ofOperation room op with
  | error fault => rfl
  | ok s => simp [bind, Except.bind, pure, Except.pure, Except.map]

theorem appendOperation_empty (room : Nat) (op : Value) :
    appendOperation room "" op = ofOperation room op := by
  unfold appendOperation
  cases ofOperation room op with
  | error fault => rfl
  | ok s => simp [bind, Except.bind, pure, Except.pure]

theorem appendLink_empty (room : Nat) (group range axis : Value) :
    appendLink room "" group range axis = ofLink room group range axis := by
  unfold appendLink
  cases ofLink room group range axis with
  | error fault => rfl
  | ok s => simp [bind, Except.bind, pure, Except.pure]

section Rows

variable {room : Nat}

theorem ofOperations_eq_ok_iff {ops : List Value} {code : String} :
    ofOperations room ops = .ok code ↔
      ∃ pieces, List.Forall₂ (fun op piece => appendOperation room "" op = .ok piece) ops pieces ∧
        code = String.join pieces := by
  simp only [appendOperation_empty]
  exact row_eq_ok_iff rfl fun _ _ => rfl

theorem ofLinks_eq_ok_iff {group : Value} {links : List (Value × Value)} {code : String} :
    ofLinks room group links = .ok code ↔
      ∃ lines,
        List.Forall₂ (fun link line => appendLink room "" group link.1 link.2 = .ok line) links lines ∧
          code = String.join lines := by
  simp only [appendLink_empty]
  exact row_eq_ok_iff rfl fun _ _ => rfl

/-- A named argument as a member of an object. -/
def IsMember (room : Nat) (arg : Value × Value) (piece : String) : Prop :=
  ∃ name value, arg.1.interpolate = .ok name ∧ ofValue room arg.2 = .ok value ∧
    piece = name ++ ": " ++ value

theorem ofEntries_eq_ok_iff {args : List (Value × Value)} {members : List String} :
    ofEntries room args = .ok members ↔ List.Forall₂ (IsMember room) args members := by
  induction args generalizing members with
  | nil =>
    rw [List.forall₂_nil_left_iff]
    constructor
    · intro h
      exact (Except.ok.inj h).symm
    · rintro rfl
      rfl
  | cons arg args ih =>
    rw [ofEntries, List.forall₂_cons_left_iff]
    constructor
    · intro h
      obtain ⟨name, hname, h⟩ := Json.exists_ok_of_bind h
      obtain ⟨value, hvalue, h⟩ := Json.exists_ok_of_bind h
      obtain ⟨rest, hrest, h⟩ := Json.exists_ok_of_bind h
      exact ⟨_, rest, ⟨name, value, hname, hvalue, rfl⟩, ih.mp hrest, (Except.ok.inj h).symm⟩
    · rintro ⟨_, rest, ⟨name, value, hname, hvalue, rfl⟩, hrest, rfl⟩
      rw [hname, hvalue, ih.mpr hrest]
      rfl

/-- An assignment to an attribute of an object. -/
def IsAssignment (room : Nat) (indent root : String) (pair : List Value × Value) (line : String) :
    Prop :=
  ∃ target value, accessor root pair.1 = .ok target ∧ ofValue room pair.2 = .ok value ∧
    line = indent ++ target ++ " = " ++ value ++ ";\n"

/-- The line of one assignment. -/
def assignment (room : Nat) (indent root : String) (pair : List Value × Value) :
    Except Fault String := do
  let target ← accessor root pair.1
  let value ← ofValue room pair.2
  return indent ++ target ++ " = " ++ value ++ ";\n"

theorem assignment_eq_ok_iff {indent root : String} {pair : List Value × Value} {line : String} :
    assignment room indent root pair = .ok line ↔ IsAssignment room indent root pair line := by
  constructor
  · intro h
    obtain ⟨target, htarget, h⟩ := Json.exists_ok_of_bind h
    obtain ⟨value, hvalue, h⟩ := Json.exists_ok_of_bind h
    exact ⟨target, value, htarget, hvalue, (Except.ok.inj h).symm⟩
  · rintro ⟨target, value, htarget, hvalue, rfl⟩
    rw [assignment, htarget, hvalue]
    rfl

theorem assignments_eq_ok_iff {indent root : String} {pairs : Assignments} {code : String} :
    assignments room indent root pairs = .ok code ↔
      ∃ lines, List.Forall₂ (IsAssignment room indent root) pairs lines ∧
        code = String.join lines := by
  have hline : IsAssignment room indent root =
      fun pair line => assignment room indent root pair = .ok line :=
    funext₂ fun _ _ => propext assignment_eq_ok_iff.symm
  rw [hline]
  refine row_eq_ok_iff rfl fun pair pairs => ?_
  obtain ⟨path, v⟩ := pair
  rw [assignments, assignment]
  cases accessor root path with
  | error fault => rfl
  | ok target =>
    cases ofValue room v with
    | error fault => rfl
    | ok value => rfl

end Rows

/-! ## Operations -/

/-- The statements of the operations. -/
inductive IsStatement (room : Nat) : Value → String → Prop
  | glyph {method source : Value} {args : Arguments} {name index : String} {members : List String}
      (hmethod : method.interpolate = .ok name) (hsource : source.interpolate = .ok index)
      (h : List.Forall₂ (IsMember room) args members) :
      IsStatement room (.glyph method source args)
        ("fig." ++ name ++ "(" ++ object (("source: cdsa[" ++ index ++ "]") :: members) ++ ")\n")
  | layout {ctor : Value} {args : Arguments} {name : String} {members : List String}
      (hctor : ctor.interpolate = .ok name) (h : List.Forall₂ (IsMember room) args members) :
      IsStatement room (.layout ctor args)
        ("fig.add_layout(new Bokeh." ++ name ++ "(" ++ object members ++ "))\n")
  | glyphAttrs {ctor : Value} {pairs : Assignments} {name : String} {lines : List String}
      (hctor : ctor.interpolate = .ok name)
      (h : List.Forall₂ (IsAssignment room "  " "g") pairs lines) :
      IsStatement room (.glyphAttrs ctor pairs)
        ("for (let g of fig.select(Bokeh." ++ name ++ ")) \x7b\n" ++ String.join lines ++ "\x7d\n")
  | figureAttrs {pairs : Assignments} {lines : List String}
      (h : List.Forall₂ (IsAssignment room "" "fig") pairs lines) :
      IsStatement room (.figureAttrs pairs) (String.join lines)

theorem layoutText_eq (name args : String) :
    "fig.add_layout(" ++ construct name args ++ ")\n" =
      "fig.add_layout(new Bokeh." ++ name ++ "(" ++ args ++ "))\n" := by
  apply String.toList_inj.mp
  simp [construct, library]

theorem selectionText_eq (name : String) :
    "for (let g of fig.select(" ++ library name ++ ")) \x7b\n" =
      "for (let g of fig.select(Bokeh." ++ name ++ ")) \x7b\n" := by
  apply String.toList_inj.mp
  simp [library]

theorem isStatement_of_ofOperation {room : Nat} {op : Value} {code : String}
    (h : ofOperation room op = .ok code) : IsStatement room op code := by
  unfold ofOperation at h
  split at h
  · obtain ⟨index, hindex, h⟩ := Json.exists_ok_of_bind h
    obtain ⟨members, hmembers, h⟩ := Json.exists_ok_of_bind h
    obtain ⟨name, hname, h⟩ := Json.exists_ok_of_bind h
    obtain rfl := Except.ok.inj h
    exact .glyph hname hindex (ofEntries_eq_ok_iff.mp hmembers)
  · obtain ⟨name, hname, h⟩ := Json.exists_ok_of_bind h
    obtain ⟨members, hmembers, h⟩ := Json.exists_ok_of_bind h
    obtain rfl := Except.ok.inj h
    rw [layoutText_eq]
    exact .layout hname (ofEntries_eq_ok_iff.mp hmembers)
  · obtain ⟨name, hname, h⟩ := Json.exists_ok_of_bind h
    obtain ⟨code, hcode, h⟩ := Json.exists_ok_of_bind h
    obtain ⟨lines, hlines, rfl⟩ := assignments_eq_ok_iff.mp hcode
    obtain rfl := Except.ok.inj h
    rw [selectionText_eq]
    exact .glyphAttrs hname hlines
  · obtain ⟨lines, hlines, rfl⟩ := assignments_eq_ok_iff.mp h
    exact .figureAttrs hlines
  · obtain ⟨shown, -, h⟩ := Json.exists_ok_of_bind h
    cases h

/-- An operation has the statements that it should have, and only operations have any. -/
theorem appendOperation_eq_ok_iff {room : Nat} {op : Value} {code : String} :
    appendOperation room "" op = .ok code ↔ IsStatement room op code := by
  rw [appendOperation_empty]
  refine ⟨isStatement_of_ofOperation, fun h => ?_⟩
  cases h with
  | glyph hmethod hsource h =>
    rw [ofOperation, hmethod, hsource, ofEntries_eq_ok_iff.mpr h]
    rfl
  | layout hctor h =>
    rw [ofOperation, hctor, ofEntries_eq_ok_iff.mpr h, ← layoutText_eq]
    rfl
  | glyphAttrs hctor h =>
    rw [ofOperation, hctor, assignments_eq_ok_iff.mpr ⟨_, h, rfl⟩, ← selectionText_eq]
    rfl
  | figureAttrs h =>
    rw [ofOperation]
    exact assignments_eq_ok_iff.mpr ⟨_, h, rfl⟩

/-! ## Figures -/

/-- The code of a figure with the given operations, linked ranges and construction arguments. -/
def IsFigure (room : Nat) (group : Value) (operations : List Value)
    (links arguments : List (Value × Value)) (code : String) : Prop :=
  ∃ statements lines members,
    List.Forall₂ (fun op statement => appendOperation room "" op = .ok statement) operations
      statements ∧
    List.Forall₂ (fun link line => appendLink room "" group link.1 link.2 = .ok line) links lines ∧
    List.Forall₂ (IsMember room) arguments members ∧
    code = "(async function(fig) \x7b\n" ++ String.join statements ++ String.join lines ++
      "Bokeh.Plotting.show(fig);\n" ++ "\x7d)(Bokeh.Plotting.figure(" ++ object members ++ "))\n"

theorem ofFigure_eq_ok_iff {room : Nat} {f : Figure} {code : String} :
    ofFigure room f = .ok code ↔ IsFigure room f.groupId f.operations f.links f.arguments code := by
  have hshow : library "Plotting.show(fig);\n" = "Bokeh.Plotting.show(fig);\n" := by decide
  have hfigure : "\x7d)(" ++ library "Plotting.figure(" = "\x7d)(Bokeh.Plotting.figure(" := by decide
  constructor
  · intro h
    obtain ⟨operations, hoperations, h⟩ := Json.exists_ok_of_bind h
    obtain ⟨links, hlinks, h⟩ := Json.exists_ok_of_bind h
    obtain ⟨arguments, harguments, h⟩ := Json.exists_ok_of_bind h
    obtain ⟨members, hmembers, harguments⟩ := Json.exists_ok_of_bind harguments
    obtain ⟨statements, hstatements, rfl⟩ := ofOperations_eq_ok_iff.mp hoperations
    obtain ⟨lines, hlines, rfl⟩ := ofLinks_eq_ok_iff.mp hlinks
    obtain rfl := Except.ok.inj harguments
    obtain rfl := Except.ok.inj h
    refine ⟨statements, lines, members, hstatements, hlines, ofEntries_eq_ok_iff.mp hmembers, ?_⟩
    rw [hshow, ← hfigure]
    simp only [String.append_assoc]
  · rintro ⟨statements, lines, members, hstatements, hlines, hmembers, rfl⟩
    rw [ofFigure, ofOperations_eq_ok_iff.mpr ⟨_, hstatements, rfl⟩,
      ofLinks_eq_ok_iff.mpr ⟨_, hlines, rfl⟩, ofArguments, ofEntries_eq_ok_iff.mpr hmembers]
    simp only [bind, Except.bind, pure, Except.pure, hshow, ← hfigure, String.append_assoc]

/-! ## Paths -/

/-- The code points of text are split where the text is. -/
theorem splitOn_map_toNat (c : Char) (cs : List Char) :
    (cs.map Char.toNat).splitOn c.toNat = (cs.splitOn c).map (List.map Char.toNat) := by
  induction cs with
  | nil => rfl
  | cons d cs ih =>
    rw [List.map_cons, List.splitOn_cons_eq_if_modifyHead, List.splitOn_cons_eq_if_modifyHead, ih]
    by_cases hd : d = c
    · simp [hd]
    · obtain ⟨part, parts, hparts⟩ := List.exists_cons_of_ne_nil (List.splitOn_ne_nil c cs)
      simp [hd, hparts, Char.toNat_inj]

theorem pathParts_texts (index : Nat) (parts : List String) :
    pathParts index (parts.map Value.text) = .ok parts := by
  induction parts generalizing index with
  | nil => rfl
  | cons part parts ih =>
    rw [List.map_cons, pathParts]
    simp only [ih]
    rfl

/-- The parts of a path given as text. -/
def dotted (path : String) : List Value :=
  ((path.toList.splitOn '.').map String.ofList).map .text

theorem toPath_text (path : String) : (Value.text path).toPath = .ok (dotted path) := by
  have hpart (part : List Char) : Value.ofCodes (part.map Char.toNat) = .text (String.ofList part) := by
    simpa [Text.codes] using Json.ofCodes_codes (String.ofList part)
  have hcodes : (Value.text path).codes? = some (path.toList.map Char.toNat) := rfl
  simp only [Value.toPath, hcodes, splitOn_map_toNat, dotted, List.map_map, Function.comp_def, hpart]

/-- A path given as text stands in the code as it is. -/
theorem accessor_dotted (root path : String) :
    accessor root (dotted path) = .ok (root ++ "." ++ path) := by
  rw [accessor, dotted, pathParts_texts]
  have hpath : ".".intercalate (root :: (path.toList.splitOn '.').map String.ofList) =
      root ++ "." ++ path := by
    apply String.toList_inj.mp
    obtain ⟨part, parts, heq⟩ := List.exists_cons_of_ne_nil (List.splitOn_ne_nil '.' path.toList)
    have hsplit : ['.'].intercalate (path.toList.splitOn '.') = path.toList :=
      List.intercalate_splitOn '.'
    have hid (cs : List (List Char)) : (cs.map String.ofList).map String.toList = cs := by
      simp [List.map_map, Function.comp_def]
    rw [String.toList_intercalate, List.map_cons, hid, heq, List.intercalate_cons_cons, ← heq]
    simp [hsplit]
  exact congrArg Except.ok hpath

end Code

/-! ## Arguments -/

theorem mapM_eq_ok {α β : Type} {f : α → Except Fault β} {g : α → β} {as : List α}
    (h : ∀ a ∈ as, f a = .ok (g a)) : as.mapM f = .ok (as.map g) := by
  induction as with
  | nil => rfl
  | cons a as ih =>
    obtain ⟨ha, has⟩ := List.forall_mem_cons.mp h
    rw [List.mapM_cons, ha, ih has]
    rfl

/-- A path given by its parts is the one given as text. -/
theorem toPath_parts (path : String) :
    (Value.list (Code.dotted path)).toPath = .ok (Code.dotted path) ∧
      (Value.tuple (Code.dotted path)).toPath = .ok (Code.dotted path) := by
  have hparts : (Code.dotted path).mapM .ok = (.ok (Code.dotted path) : Except Fault (List Value)) := by
    rw [mapM_eq_ok fun _ _ => rfl, List.map_id']
  constructor
  · simp [Value.toPath, Value.codes?, Value.items, Value.itemsOr, Items.of, Items.mapM, hparts, bind,
      Except.bind]
  · simp [Value.toPath, Value.codes?, Value.items, Value.itemsOr, Items.of, Items.mapM, hparts, bind,
      Except.bind]

/-- A named argument as it is kept. -/
def keptArgument (arg : String × Value) : Value × Value :=
  (.text arg.1, arg.2.asArgument)

/-- Arguments given as pairs are kept in order and with their repetitions. -/
theorem toArguments_pairs (args : List (String × Value)) :
    (Value.list (args.map fun arg => .tuple [.text arg.1, arg.2])).toArguments =
      .ok (args.map keptArgument) := by
  have hpairs : (args.map fun arg => Value.tuple [.text arg.1, arg.2]).mapM Value.pairArgument =
      .ok (args.map keptArgument) := by
    rw [List.mapM_map]
    exact mapM_eq_ok fun _ _ => rfl
  simp [Value.toArguments, Value.items, Value.itemsOr, Items.of, Items.mapM, hpairs, bind, Except.bind]

/-- Arguments given by keyword follow the others. -/
theorem mergeArguments_eq (args : Value) {keywords : List (String × Value)}
    (h : (keywords.map Prod.fst).Nodup) :
    mergeArguments args keywords = args.toArguments.map (· ++ keywords.map keptArgument) := by
  have hdistinct : Entries.Distinct (keywords.map fun arg => (Value.text arg.1, arg.2)) := by
    rw [Entries.Distinct, Entries.keys, List.map_map]
    refine List.pairwise_map.mpr (List.Pairwise.imp ?_ (List.pairwise_map.mp h))
    intro a b hne
    simpa using hne
  have hnamed : (Value.dictOf (keywords.map fun arg => (Value.text arg.1, arg.2))).toArguments =
      .ok (keywords.map keptArgument) := by
    rw [Value.dictOf, Entries.ofList_of_distinct hdistinct, Value.toArguments, List.mapM_map]
    exact mapM_eq_ok fun _ _ => rfl
  rw [mergeArguments, hnamed]
  cases args.toArguments <;> rfl

/-! ## Figures and their calls -/

/-- The code of a figure is what its calls say. Whatever calls have been made on a new group, a figure
of it has been opened by one of those that did not fail, and its code consists of the opening line, the
statements of the operations in the order of the calls that added them, one line for each linked range
in the order in which the ranges were first linked and with the axis that each was linked to last, the
line that shows the figure, and the construction with one entry for each argument in the order in which
the arguments were first set and with the value that each was set to last. Calls on other figures
change nothing about it. The statements of an operation do not depend on what stands before them. The
arguments of an operation are those given as one value and then those given by keyword, with all their
repetitions, and a path given as text, or by the parts of the text, stands in them as it is. Text is a
`String` here: names with an unpaired surrogate are left out, which the code shows in quotes
(`Code.pathParts`, `Value.interpolate`). -/
theorem figure_code_follows_calls :
    (∀ (room : Nat) (id : Value) (calls : List BuilderCall) (i j : Nat) (f : Figure),
      ((Group.blank id).attemptAll calls).figure i j = .ok f →
        ∃ args, (BuilderCall.openings i ((Group.blank id).accepted calls))[j]? = some args ∧
          ∀ code, Code.ofFigure room f = .ok code ↔
            let parts := BuilderCall.parts i j ((Group.blank id).accepted calls)
            Code.IsFigure room id (parts.filterMap FigurePart.operation?)
              (Entries.settled (parts.filterMap FigurePart.link?))
              (Entries.settled (args ++ parts.filterMap FigurePart.setting?)) code) ∧
    (∀ (g g' : Group) (c : BuilderCall) (answer : Answer) (i j : Nat) (f : Figure),
      g.call c = .ok (g', answer) → (∀ p, c.part? ≠ some ((i, j), p)) →
        g.figure i j = .ok f → g'.figure i j = .ok f) ∧
    (∀ room code op,
      Code.appendOperation room code op = (Code.appendOperation room "" op).map (code ++ ·)) ∧
    (∀ room op code, Code.appendOperation room "" op = .ok code ↔ Code.IsStatement room op code) ∧
    (∀ (args : Value) (keywords : List (String × Value)), (keywords.map Prod.fst).Nodup →
      mergeArguments args keywords = args.toArguments.map (· ++ keywords.map keptArgument)) ∧
    (∀ args : List (String × Value),
      (Value.list (args.map fun arg => .tuple [.text arg.1, arg.2])).toArguments =
        .ok (args.map keptArgument)) ∧
    ∀ path : String, ∃ parts, (Value.text path).toPath = .ok parts ∧
      (Value.list parts).toPath = .ok parts ∧ (Value.tuple parts).toPath = .ok parts ∧
      ∀ root, Code.accessor root parts = .ok (root ++ "." ++ path) := by
  refine ⟨fun room id calls i j f hf => ?_, fun g g' c answer i j f hcall hc hf => ?_,
    Code.appendOperation_eq, fun room op code => Code.appendOperation_eq_ok_iff,
    fun args keywords => mergeArguments_eq args, toArguments_pairs, fun path => ?_⟩
  · have htold := (Group.told_blank id).attemptAll calls
    rw [List.nil_append] at htold
    obtain ⟨args, hargs, hfilled⟩ := htold.filled hf
    refine ⟨args, hargs, fun code => ?_⟩
    rw [Code.ofFigure_eq_ok_iff, hfilled.groupId, hfilled.operations, hfilled.links,
      hfilled.arguments, Entries.ofList_eq_settled, Entries.ofList_eq_settled]
  · exact (Group.effect_of_call hcall).figure_eq hf hc
  · exact ⟨Code.dotted path, Code.toPath_text path, (toPath_parts path).1, (toPath_parts path).2,
      fun root => Code.accessor_dotted root path⟩

/-- Calls on two figures, with arguments that come twice and a call that fails. -/
def mixedCalls : List BuilderCall :=
  [.newWindow (.text "w"),
    .newFigure 0 (.dict [(.text "title", .text "a")]) [("width", .int 3)],
    .newFigure 0 .none [],
    .addGlyph 0 0 (.text "line") (.int 0)
      (.list [.tuple [.text "x", .field (.text "t")], .tuple [.text "x", .int 1]]) [("y", .int 2)],
    .linkAxis 0 0 (.text "x_range") (.int 1),
    .addLayout 0 1 (.text "Legend") .none [],
    .linkAxis 0 0 (.text "y_range") (.int 1),
    .addGlyph 0 7 (.text "line") (.int 0) .none [],
    .linkAxis 0 0 (.text "x_range") (.int 2),
    .setFigureArg 0 0 (.text "title") (.text "b"),
    .setFigureAttrs 0 0 (.list [.tuple [.text "xaxis.axis_label", .text "s"]])]

theorem figure_code_follows_mixed_calls :
    ∃ f args, ((Group.blank (.text "g")).attemptAll mixedCalls).figure 0 0 = .ok f ∧
      (BuilderCall.openings 0 ((Group.blank (.text "g")).accepted mixedCalls))[0]? = some args ∧
      ∀ code, Code.ofFigure 1000 f = .ok code ↔
        let parts := BuilderCall.parts 0 0 ((Group.blank (.text "g")).accepted mixedCalls)
        Code.IsFigure 1000 (.text "g") (parts.filterMap FigurePart.operation?)
          (Entries.settled (parts.filterMap FigurePart.link?))
          (Entries.settled (args ++ parts.filterMap FigurePart.setting?)) code := by
  obtain ⟨f, hf⟩ : ∃ f, ((Group.blank (.text "g")).attemptAll mixedCalls).figure 0 0 = .ok f :=
    ⟨_, rfl⟩
  obtain ⟨args, h⟩ := figure_code_follows_calls.1 _ _ _ _ _ f hf
  exact ⟨f, args, hf, h⟩

example : (((Group.blank (.text "g")).attemptAll mixedCalls).figure 0 0 >>= Code.ofFigure 1000).toOption =
    some ("(async function(fig) \x7b\n" ++
      "fig.line(\x7b source: cdsa[0], x: \x7b field: \"t\" \x7d, x: 1, y: 2 \x7d)\n" ++
      "fig.xaxis.axis_label = \"s\";\n" ++
      "syncRange(fig.x_range, \"rng@g#2\");\nsyncRange(fig.y_range, \"rng@g#1\");\n" ++
      "Bokeh.Plotting.show(fig);\n" ++
      "\x7d)(Bokeh.Plotting.figure(\x7b title: \"b\", width: 3 \x7d))\n") := by
  decide +kernel

end PlotStream
