import PlotStream.Proofs.Plot.Tokens

/-!
# Trees and their code

A `Tree` is what the code of an argument says: a constant by its JSON text, a reference by its name,
and a model by its constructor and its named arguments in order. `Tree.render` is the code, and
nothing else gives the same code, whatever follows (`Tree.render_inj`): the first characters tell the
four kinds apart, a name ends before the first character that is none of a name, and a constant ends
where `token` says. The same is done for operations (`OperationTree.render_inj`).
-/

namespace PlotStream

/-- A character of a name: a letter or digit of any script, an underscore or a dollar sign. -/
def isNameChar (c : Char) : Bool :=
  c.isAlphanum || c = '_' || c = '$' || 128 ≤ c.toNat

/-- Only characters of names. -/
def IsName (s : String) : Prop :=
  ∀ c ∈ s.toList, isNameChar c = true

instance (s : String) : Decidable (IsName s) :=
  decidable_of_iff (s.toList.all isNameChar = true) List.all_eq_true

/-! ## Trees -/

/-- What the code of an argument says. -/
inductive Tree
  | literal (json : String)
  | field (name : String)
  | constant (name : String)
  | model (ctor : String) (args : List (String × Tree))

/-- What the code of an operation says. -/
inductive OperationTree
  | glyph (method : String) (source : Int) (args : List (String × Tree))
  | layout (ctor : String) (args : List (String × Tree))
  | glyphAttrs (ctor : String) (pairs : List (List String × Tree))
  | figureAttrs (pairs : List (List String × Tree))

/-! ## The code of trees -/

namespace Tree

/-- The name of an argument, up to its value. -/
def renderName (name : String) : List Char :=
  name.toList ++ [':', ' ']

mutual

/-- The code of an argument. -/
def render : Tree → List Char
  | .literal json => json.toList
  | .field name => ['\x7b', ' ', 'f', 'i', 'e', 'l', 'd', ':', ' '] ++
      (Json.stringText (Text.codes name) ++ [' ', '\x7d'])
  | .constant name => ['\x7b', ' ', 'v', 'a', 'l', 'u', 'e', ':', ' '] ++
      (Json.stringText (Text.codes name) ++ [' ', '\x7d'])
  | .model ctor args => ['n', 'e', 'w', ' ', 'B', 'o', 'k', 'e', 'h', '.'] ++
      (ctor.toList ++ '(' :: (renderObject args ++ [')']))

/-- Named arguments as an object. -/
def renderObject : List (String × Tree) → List Char
  | [] => ['\x7b', '\x7d']
  | (name, t) :: args => ['\x7b', ' '] ++ renderName name ++ t.render ++ renderMore args

/-- What follows an argument: the other arguments and the end of the object. -/
def renderMore : List (String × Tree) → List Char
  | [] => [' ', '\x7d']
  | (name, t) :: args => [',', ' '] ++ renderName name ++ t.render ++ renderMore args

end

/-! ## What ends where -/

/-- Runs of characters of one sort end at the same place. -/
theorem run_inj {p : Char → Bool} {xs ys rest rest' : List Char} {c c' : Char}
    (hxs : ∀ c ∈ xs, p c = true) (hys : ∀ c ∈ ys, p c = true) (hc : p c = false)
    (hc' : p c' = false) (h : xs ++ c :: rest = ys ++ c' :: rest') :
    xs = ys ∧ c :: rest = c' :: rest' := by
  have hrun (more : List Char) {zs : List Char} {d : Char} (hzs : ∀ c ∈ zs, p c = true)
      (hd : p d = false) :
      (zs ++ d :: more).takeWhile p = zs := by
    rw [List.takeWhile_append_of_pos hzs, List.takeWhile_cons_of_neg (by simp [hd]), List.append_nil]
  have hsame : xs = ys := by rw [← hrun rest hxs hc, h, hrun rest' hys hc']
  subst hsame
  exact ⟨rfl, List.append_cancel_left h⟩

/-- Names end at the first character that is none of a name. -/
theorem name_inj {s s' : String} {rest rest' : List Char} {c c' : Char} (hs : IsName s)
    (hs' : IsName s') (hc : isNameChar c = false) (hc' : isNameChar c' = false)
    (h : s.toList ++ c :: rest = s'.toList ++ c' :: rest') : s = s' ∧ c :: rest = c' :: rest' := by
  obtain ⟨hname, hrest⟩ := run_inj hs hs' hc hc' h
  exact ⟨String.toList_inj.mp hname, hrest⟩

/-- The name of an argument ends where its value begins. -/
theorem renderName_inj {s s' : String} {rest rest' : List Char} (hs : IsName s) (hs' : IsName s')
    (h : renderName s ++ rest = renderName s' ++ rest') : s = s' ∧ rest = rest' := by
  simp only [renderName, List.append_assoc] at h
  obtain ⟨hname, hvalue⟩ := name_inj hs hs' (by decide) (by decide) h
  exact ⟨hname, @List.append_cancel_left _ [':', ' '] _ _ hvalue⟩

/-- A written string tells the text and where it ends. -/
theorem string_inj {s s' : String} {rest rest' : List Char}
    (h : Json.stringText (Text.codes s) ++ rest = Json.stringText (Text.codes s') ++ rest') :
    s = s' ∧ rest = rest' := by
  simp only [Json.stringText, List.cons_append, List.append_assoc, List.nil_append,
    List.cons.injEq, true_and] at h
  have hscan := Json.scansAs_codes s 0 rest
  rw [h, Json.scansAs_codes s' 0 rest'] at hscan
  obtain ⟨hcodes, hrest⟩ := Prod.mk.inj (Except.ok.inj hscan)
  have hvalue := congrArg Value.ofCodes hcodes
  rw [Json.ofCodes_codes, Json.ofCodes_codes] at hvalue
  exact ⟨(Value.text.inj hvalue).symm, hrest.symm⟩

theorem constant_inj {cs cs' rest rest' : List Char} (hcs : Json.Written cs)
    (hcs' : Json.Written cs') (hrest : Json.Follows rest) (hrest' : Json.Follows rest')
    (h : cs ++ rest = cs' ++ rest') : cs = cs' ∧ rest = rest' := by
  have hsame : cs = cs' := by
    rw [← Json.token_written hcs hrest, h, Json.token_written hcs' hrest']
  subst hsame
  exact ⟨rfl, List.append_cancel_left h⟩

/-! ## Kinds -/

/-- The kinds of arguments. -/
inductive Kind
  | literal
  | field
  | constant
  | model
deriving DecidableEq

def kind : Tree → Kind
  | .literal _ => .literal
  | .field _ => .field
  | .constant _ => .constant
  | .model _ _ => .model

/-- The kind that the first characters of some code tell. -/
def kindOf : List Char → Kind
  | '\x7b' :: ' ' :: 'f' :: _ => .field
  | '\x7b' :: ' ' :: 'v' :: _ => .constant
  | 'n' :: 'e' :: _ => .model
  | _ => .literal

mutual

/-- Constants are written as JSON, and constructors and arguments have names. -/
def IsSound : Tree → Prop
  | .literal json => Json.Written json.toList
  | .field _ | .constant _ => True
  | .model ctor args => IsName ctor ∧ AreSound args

/-- Named arguments one by one. -/
def AreSound : List (String × Tree) → Prop
  | [] => True
  | (name, t) :: args => IsName name ∧ t.IsSound ∧ AreSound args

end

theorem kindOf_eq_literal {cs : List Char} (hword : ∀ tail, cs ≠ 'n' :: 'e' :: tail)
    (hbrace : ∀ tail, cs ≠ '\x7b' :: ' ' :: tail) : kindOf cs = .literal := by
  unfold kindOf
  split
  · exact absurd rfl (hbrace _)
  · exact absurd rfl (hbrace _)
  · exact absurd rfl (hword _)
  · rfl

theorem kindOf_written {cs rest : List Char} (h : Json.Written cs) (hrest : Json.Follows rest) :
    kindOf (cs ++ rest) = .literal := by
  cases cs with
  | nil =>
    refine kindOf_eq_literal (fun tail htail => ?_) (fun tail htail => ?_)
    · obtain rfl : rest = 'n' :: 'e' :: tail := htail
      exact absurd (hrest 'n' (by simp)) (by decide)
    · obtain rfl : rest = '\x7b' :: ' ' :: tail := htail
      exact absurd (hrest '\x7b' (by simp)) (by decide)
  | cons c cs =>
    refine kindOf_eq_literal (fun tail htail => ?_) (fun tail htail => ?_)
    · obtain ⟨rfl, hsecond⟩ := List.cons.inj htail
      obtain ⟨more, rfl⟩ := h.opens.word cs rfl
      exact absurd (List.cons.inj hsecond).1 (by decide)
    · obtain ⟨rfl, hsecond⟩ := List.cons.inj htail
      obtain ⟨d, more, rfl, hd⟩ := h.opens.brace cs rfl
      exact hd (List.cons.inj hsecond).1

theorem kindOf_render {t : Tree} (h : t.IsSound) {rest : List Char} (hrest : Json.Follows rest) :
    kindOf (t.render ++ rest) = t.kind := by
  cases t with
  | literal json =>
    rw [IsSound] at h
    rw [render]
    exact kindOf_written h hrest
  | field name =>
    rw [render]
    rfl
  | constant name =>
    rw [render]
    rfl
  | model ctor args =>
    rw [render]
    rfl

/-- What is written tells of what kind it is. -/
theorem kind_eq {t t' : Tree} {rest rest' : List Char} (ht : t.IsSound) (ht' : t'.IsSound)
    (hrest : Json.Follows rest) (hrest' : Json.Follows rest')
    (h : t.render ++ rest = t'.render ++ rest') : t.kind = t'.kind := by
  rw [← kindOf_render ht hrest, ← kindOf_render ht' hrest', h]

theorem follows_renderMore (args : List (String × Tree)) (rest : List Char) :
    Json.Follows (renderMore args ++ rest) := by
  cases args <;> simp [renderMore, Json.Follows, isDelimiter]

theorem follows_cons {c : Char} (h : isDelimiter c = true) (rest : List Char) :
    Json.Follows (c :: rest) := by
  simp [Json.Follows, h]

/-! ## Nothing else has the same code -/

mutual

/-- The code of an argument tells its tree and where it ends. -/
theorem render_inj : ∀ (t t' : Tree) (rest rest' : List Char), t.IsSound → t'.IsSound →
    Json.Follows rest → Json.Follows rest' → t.render ++ rest = t'.render ++ rest' →
      t = t' ∧ rest = rest'
  | .literal json, t', rest, rest', ht, ht', hrest, hrest', h => by
    have hkind := kind_eq ht ht' hrest hrest' h
    cases t' with
    | literal json' =>
      rw [IsSound] at ht ht'
      rw [render, render] at h
      obtain ⟨hjson, hmore⟩ := constant_inj ht ht' hrest hrest' h
      exact ⟨congrArg Tree.literal (String.toList_inj.mp hjson), hmore⟩
    | _ => cases hkind
  | .field name, t', rest, rest', ht, ht', hrest, hrest', h => by
    have hkind := kind_eq ht ht' hrest hrest' h
    cases t' with
    | field name' =>
      simp only [render, List.append_assoc] at h
      obtain ⟨hname, hmore⟩ := string_inj (List.append_cancel_left h)
      exact ⟨congrArg Tree.field hname, List.append_cancel_left hmore⟩
    | _ => cases hkind
  | .constant name, t', rest, rest', ht, ht', hrest, hrest', h => by
    have hkind := kind_eq ht ht' hrest hrest' h
    cases t' with
    | constant name' =>
      simp only [render, List.append_assoc] at h
      obtain ⟨hname, hmore⟩ := string_inj (List.append_cancel_left h)
      exact ⟨congrArg Tree.constant hname, List.append_cancel_left hmore⟩
    | _ => cases hkind
  | .model ctor args, t', rest, rest', ht, ht', hrest, hrest', h => by
    have hkind := kind_eq ht ht' hrest hrest' h
    cases t' with
    | model ctor' args' =>
      rw [IsSound] at ht ht'
      simp only [render, List.append_assoc] at h
      obtain ⟨rfl, hargs⟩ :=
        @name_inj _ _ _ _ '(' '(' ht.1 ht'.1 (by decide) (by decide) (by simpa using h)
      obtain ⟨rfl, hmore⟩ := renderObject_inj args args' (')' :: rest) (')' :: rest') ht.2 ht'.2
        (List.cons.inj hargs).2
      exact ⟨rfl, (List.cons.inj hmore).2⟩
    | _ => cases hkind

theorem renderObject_inj : ∀ (args args' : List (String × Tree)) (rest rest' : List Char),
    AreSound args → AreSound args' → renderObject args ++ rest = renderObject args' ++ rest' →
      args = args' ∧ rest = rest'
  | [], args', rest, rest', _, _, h => by
    cases args' with
    | nil => exact ⟨rfl, by simpa [renderObject] using h⟩
    | cons e args' => simp [renderObject] at h
  | (name, t) :: args, args', rest, rest', hargs, hargs', h => by
    cases args' with
    | nil => simp [renderObject] at h
    | cons e args' =>
      obtain ⟨name', t'⟩ := e
      rw [AreSound] at hargs hargs'
      simp only [renderObject, List.append_assoc] at h
      obtain ⟨rfl, hvalue⟩ := renderName_inj hargs.1 hargs'.1 (List.append_cancel_left h)
      obtain ⟨rfl, hmore⟩ := render_inj t t' _ _ hargs.2.1 hargs'.2.1 (follows_renderMore _ _)
        (follows_renderMore _ _) hvalue
      obtain ⟨rfl, hrest⟩ := renderMore_inj args args' _ _ hargs.2.2 hargs'.2.2 hmore
      exact ⟨rfl, hrest⟩

theorem renderMore_inj : ∀ (args args' : List (String × Tree)) (rest rest' : List Char),
    AreSound args → AreSound args' → renderMore args ++ rest = renderMore args' ++ rest' →
      args = args' ∧ rest = rest'
  | [], args', rest, rest', _, _, h => by
    cases args' with
    | nil => exact ⟨rfl, by simpa [renderMore] using h⟩
    | cons e args' => simp [renderMore] at h
  | (name, t) :: args, args', rest, rest', hargs, hargs', h => by
    cases args' with
    | nil => simp [renderMore] at h
    | cons e args' =>
      obtain ⟨name', t'⟩ := e
      rw [AreSound] at hargs hargs'
      simp only [renderMore, List.append_assoc] at h
      obtain ⟨rfl, hvalue⟩ := renderName_inj hargs.1 hargs'.1 (List.append_cancel_left h)
      obtain ⟨rfl, hmore⟩ := render_inj t t' _ _ hargs.2.1 hargs'.2.1 (follows_renderMore _ _)
        (follows_renderMore _ _) hvalue
      obtain ⟨rfl, hrest⟩ := renderMore_inj args args' _ _ hargs.2.2 hargs'.2.2 hmore
      exact ⟨rfl, hrest⟩

end

end Tree

/-! ## Operations -/

namespace OperationTree

/-- The parts of a path, each behind a dot. -/
def renderPath : List String → List Char
  | [] => []
  | part :: path => '.' :: (part.toList ++ renderPath path)

/-- Assignments to attributes of a target. -/
def renderAssignments (target : List Char) : List (List String × Tree) → List Char
  | [] => []
  | (path, t) :: pairs =>
    target ++ (renderPath path ++ ' ' :: '=' :: ' ' :: (t.render ++
      ';' :: '\n' :: renderAssignments target pairs))

/-- The code of an operation that draws a glyph. -/
def renderGlyph (method : String) (n : Int) (args : List (String × Tree)) : List Char :=
  "fig.".toList ++ (method.toList ++ '(' :: ("\x7b source: cdsa[".toList ++
    (intText n ++ ']' :: (Tree.renderMore args ++ [')', '\n']))))

/-- The code of an operation that adds a model. -/
def renderLayout (model : Tree) : List Char :=
  "fig.".toList ++ ("add_layout".toList ++ '(' :: (model.render ++ [')', '\n']))

/-- The code of an operation on all renderers of a type, behind the opening of the loop. -/
def renderGlyphAttrs (opening : List Char) (ctor : String) (pairs : List (List String × Tree)) :
    List Char :=
  opening ++ ("Bokeh.".toList ++ (ctor.toList ++
    ')' :: (") \x7b\n".toList ++ (renderAssignments [' ', ' ', 'g'] pairs ++ ['\x7d', '\n']))))

/-- The code of an operation. -/
def render : OperationTree → List Char
  | .glyph method n args => renderGlyph method n args
  | .layout ctor args => renderLayout (.model ctor args)
  | .glyphAttrs ctor pairs => renderGlyphAttrs "for (let g of fig.select(".toList ctor pairs
  | .figureAttrs pairs => renderAssignments ['f', 'i', 'g'] pairs

/-- The parts of paths are names, and the values are sound. -/
def ArePairsSound (pairs : List (List String × Tree)) : Prop :=
  ∀ p ∈ pairs, (∀ part ∈ p.1, IsName part) ∧ p.2.IsSound

/-- An operation whose parts have names and whose number is not too long. -/
def IsSound : OperationTree → Prop
  | .glyph method n args => IsName method ∧ n.natAbs < 10 ^ digitLimit ∧ Tree.AreSound args
  | .layout ctor args => IsName ctor ∧ Tree.AreSound args
  | .glyphAttrs ctor pairs => IsName ctor ∧ ArePairsSound pairs
  | .figureAttrs pairs => ArePairsSound pairs

theorem exists_cons_of_path (path : List String) (rest : List Char) :
    ∃ c more, renderPath path ++ ' ' :: rest = c :: more ∧ (c = '.' ∨ c = ' ') := by
  cases path with
  | nil => exact ⟨' ', rest, rfl, .inr rfl⟩
  | cons part path => exact ⟨'.', _, rfl, .inl rfl⟩

theorem renderPath_inj {path path' : List String} {rest rest' : List Char}
    (hpath : ∀ part ∈ path, IsName part) (hpath' : ∀ part ∈ path', IsName part)
    (h : renderPath path ++ ' ' :: rest = renderPath path' ++ ' ' :: rest') :
    path = path' ∧ rest = rest' := by
  induction path generalizing path' with
  | nil =>
    cases path' with
    | nil => exact ⟨rfl, (List.cons.inj h).2⟩
    | cons part' path' => exact absurd (List.cons.inj h).1 (by decide)
  | cons part path ih =>
    cases path' with
    | nil => exact absurd (List.cons.inj h).1 (by decide)
    | cons part' path' =>
      obtain ⟨hpart, hrest⟩ := List.forall_mem_cons.mp hpath
      obtain ⟨hpart', hrest'⟩ := List.forall_mem_cons.mp hpath'
      simp only [renderPath, List.cons_append, List.append_assoc, List.cons.injEq, true_and] at h
      obtain ⟨c, more, hmore, hc⟩ := exists_cons_of_path path rest
      obtain ⟨c', more', hmore', hc'⟩ := exists_cons_of_path path' rest'
      have hend {d : Char} (hd : d = '.' ∨ d = ' ') : isNameChar d = false := by
        rcases hd with rfl | rfl <;> decide
      rw [hmore, hmore'] at h
      obtain ⟨rfl, hsame⟩ := Tree.name_inj hpart hpart' (hend hc) (hend hc') h
      rw [← hmore, ← hmore'] at hsame
      obtain ⟨rfl, hmore⟩ := ih hrest hrest' hsame
      exact ⟨rfl, hmore⟩

/-- Assignments end where no other begins. -/
theorem renderAssignments_inj {target closing : List Char}
    (hclosing : ∀ more, closing ≠ target ++ more) {pairs pairs' : List (List String × Tree)}
    (hpairs : ArePairsSound pairs) (hpairs' : ArePairsSound pairs')
    (h : renderAssignments target pairs ++ closing = renderAssignments target pairs' ++ closing) :
    pairs = pairs' := by
  induction pairs generalizing pairs' with
  | nil =>
    cases pairs' with
    | nil => rfl
    | cons p' pairs' =>
      simp only [renderAssignments, List.nil_append, List.append_assoc] at h
      exact absurd h (hclosing _)
  | cons p pairs ih =>
    cases pairs' with
    | nil =>
      simp only [renderAssignments, List.nil_append, List.append_assoc] at h
      exact absurd h.symm (hclosing _)
    | cons p' pairs' =>
      obtain ⟨path, t⟩ := p
      obtain ⟨path', t'⟩ := p'
      obtain ⟨hp, hrest⟩ := List.forall_mem_cons.mp hpairs
      obtain ⟨hp', hrest'⟩ := List.forall_mem_cons.mp hpairs'
      simp only [renderAssignments, List.append_assoc, List.cons_append] at h
      obtain ⟨rfl, hvalue⟩ := renderPath_inj hp.1 hp'.1 (List.append_cancel_left h)
      obtain ⟨rfl, hmore⟩ := t.render_inj t' _ _ hp.2 hp'.2 (Tree.follows_cons (by decide) _)
        (Tree.follows_cons (by decide) _) (List.cons.inj (List.cons.inj hvalue).2).2
      obtain rfl := ih hrest hrest' (List.cons.inj (List.cons.inj hmore).2).2
      rfl

theorem intText_inj {n n' : Int} {rest rest' : List Char} (hn : n.natAbs < 10 ^ digitLimit)
    (hn' : n'.natAbs < 10 ^ digitLimit) (h : intText n ++ ']' :: rest = intText n' ++ ']' :: rest') :
    n = n' ∧ rest = rest' := by
  obtain ⟨htext, hrest⟩ := Tree.run_inj (Json.isAtom_intText n).chars (Json.isAtom_intText n').chars
    (by decide) (by decide) h
  have hread := (Json.readsAs_int hn).read
  rw [htext, (Json.readsAs_int hn').read] at hread
  exact ⟨(Value.int.inj (Except.ok.inj hread)).symm, (List.cons.inj hrest).2⟩

/-! ### Kinds of operations -/

/-- The kinds of operations. -/
inductive Kind
  | glyph
  | layout
  | glyphAttrs
  | figureAttrs
deriving DecidableEq

def kind : OperationTree → Kind
  | .glyph _ _ _ => .glyph
  | .layout _ _ => .layout
  | .glyphAttrs _ _ => .glyphAttrs
  | .figureAttrs _ => .figureAttrs

/-- The kind that tells what follows the name of a part of the figure. -/
def kindBehindName : List Char → Kind
  | '(' :: '\x7b' :: _ => .glyph
  | '(' :: _ => .layout
  | _ => .figureAttrs

/-- The kind that some code tells. -/
def kindOf : List Char → Kind
  | 'f' :: 'o' :: _ => .glyphAttrs
  | 'f' :: 'i' :: 'g' :: '.' :: cs => kindBehindName (cs.dropWhile isNameChar)
  | _ => .figureAttrs

theorem dropWhile_name {s : String} (hs : IsName s) {c : Char} (hc : isNameChar c = false)
    (rest : List Char) : (s.toList ++ c :: rest).dropWhile isNameChar = c :: rest := by
  rw [List.dropWhile_append_of_pos hs, List.dropWhile_cons_of_neg (by simp [hc])]

theorem kindOf_member {s : String} (hs : IsName s) {c : Char} (hc : isNameChar c = false)
    (rest : List Char) :
    kindOf ("fig.".toList ++ (s.toList ++ c :: rest)) = kindBehindName (c :: rest) :=
  congrArg kindBehindName (dropWhile_name hs hc rest)

theorem kindOf_assignments {pairs : List (List String × Tree)} (h : ArePairsSound pairs) :
    kindOf (renderAssignments ['f', 'i', 'g'] pairs) = .figureAttrs := by
  cases pairs with
  | nil => rfl
  | cons p pairs =>
    obtain ⟨path, t⟩ := p
    cases path with
    | nil => rfl
    | cons part path =>
      have hpart := (h _ (List.mem_cons_self ..)).1 part (List.mem_cons_self ..)
      simp only [renderAssignments, renderPath, List.cons_append, List.nil_append,
        List.append_assoc]
      obtain ⟨c, more, hmore, hc⟩ := exists_cons_of_path path ('=' :: ' ' :: (t.render ++
        ';' :: '\n' :: renderAssignments ['f', 'i', 'g'] pairs))
      rw [hmore, kindOf]
      rcases hc with rfl | rfl <;> rw [dropWhile_name hpart (by decide)] <;> rfl

theorem kindOf_render {op : OperationTree} (h : op.IsSound) : kindOf op.render = op.kind := by
  cases op with
  | glyph method n args =>
    exact kindOf_member (s := method) h.1 (by decide) _
  | layout ctor args =>
    have hname : IsName "add_layout" := by decide
    have hmodel : kindOf (layout ctor args).render =
        kindBehindName ('(' :: ((Tree.model ctor args).render ++ [')', '\n'])) :=
      kindOf_member hname (by decide) _
    rw [hmodel, Tree.render]
    rfl
  | glyphAttrs ctor pairs => rfl
  | figureAttrs pairs => exact kindOf_assignments h

/-- The code of an operation tells its tree. -/
theorem render_inj {op op' : OperationTree} (hop : op.IsSound) (hop' : op'.IsSound)
    (h : op.render = op'.render) : op = op' := by
  have hkind : op.kind = op'.kind := by rw [← kindOf_render hop, ← kindOf_render hop', h]
  cases op with
  | glyph method n args =>
    cases op' with
    | glyph method' n' args' =>
      obtain ⟨rfl, hmore⟩ := @Tree.name_inj _ _ _ _ '(' '(' hop.1 hop'.1 (by decide)
        (by decide)
        (List.append_cancel_left h)
      obtain ⟨rfl, hargs⟩ := intText_inj hop.2.1 hop'.2.1
        (List.append_cancel_left (List.cons.inj hmore).2)
      obtain ⟨rfl, -⟩ := Tree.renderMore_inj args args' _ _ hop.2.2 hop'.2.2 hargs
      rfl
    | _ => cases hkind
  | layout ctor args =>
    cases op' with
    | layout ctor' args' =>
      have hmodel := (List.cons.inj (List.append_cancel_left (List.append_cancel_left h))).2
      obtain ⟨hmodel, -⟩ := (Tree.model ctor args).render_inj (.model ctor' args') _ _ hop hop'
        (Tree.follows_cons (by decide) _) (Tree.follows_cons (by decide) _) hmodel
      cases hmodel
      rfl
    | _ => cases hkind
  | glyphAttrs ctor pairs =>
    cases op' with
    | glyphAttrs ctor' pairs' =>
      obtain ⟨rfl, hmore⟩ := @Tree.name_inj _ _ _ _ ')' ')' hop.1 hop'.1 (by decide)
        (by decide)
        (List.append_cancel_left (List.append_cancel_left h))
      have hpairs := List.append_cancel_left (List.cons.inj hmore).2
      obtain rfl := renderAssignments_inj (by simp) hop.2 hop'.2 hpairs
      rfl
    | _ => cases hkind
  | figureAttrs pairs =>
    cases op' with
    | figureAttrs pairs' =>
      obtain rfl := @renderAssignments_inj _ [] (by simp) _ _ hop hop' (congrArg (· ++ []) h)
      rfl
    | _ => cases hkind

end OperationTree

end PlotStream
