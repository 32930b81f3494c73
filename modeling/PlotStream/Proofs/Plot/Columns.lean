import PlotStream.Proofs.Plot.Histories
import PlotStream.Proofs.Plot.Steps
import PlotStream.Proofs.Value.Texts
import PlotStream.Proofs.Wire.Replies

/-!
# Columns over a history

A source is made once and columns are added to it, in whatever order and whether they can be or not
(`Source.afterAll`); `Source.stored` are the columns of the additions that succeed. An addition compares
lengths with the first column of another name alone. This is enough since all columns have one length
(`Source.Orderly`), which each addition preserves. What the source holds is what has been stored, every
name in its first place and with its last values (`Source.Tabulates`).

Which column is made of the values of an addition is up to `Value.toColumn`. Of a list of plain numbers it
makes these numbers, in order (`Value.toColumn_leaves`).
-/

namespace PlotStream

/-! ## Entries under names of text -/

namespace Entries

variable {α : Type} {es : Entries α} {key name : Value} {x : α}

theorem keys_insert_of_present (h : ∃ k ∈ es.keys, k.keyEqual key = true) :
    (insert es key x).keys = es.keys := by
  rcases keys_insert es key x with hkeys | ⟨-, hfresh⟩
  · exact hkeys
  · obtain ⟨k, hk, hequal⟩ := h
    simp [hfresh k hk] at hequal

/-- What stands in entries after one has been put in: the new value, and whatever stood there under
another name. -/
theorem mem_insert_text (hes : ∀ e ∈ es, e.1.IsText) (hdistinct : es.Distinct) (hkey : key.IsText)
    {e : Value × α} (he : e ∈ insert es key x) : e.2 = x ∨ e ∈ es ∧ e.1.codes? ≠ key.codes? := by
  induction es with
  | nil =>
    obtain rfl := List.mem_singleton.mp he
    exact .inl rfl
  | cons e' es ih =>
    obtain ⟨he', hes⟩ := List.forall_mem_cons.mp hes
    obtain ⟨hfirst, hrest⟩ := List.pairwise_cons.mp hdistinct
    rw [insert, he'.keyEqual hkey] at he
    by_cases hsame : e'.1.codes? = key.codes?
    · rw [if_pos (by simpa using hsame)] at he
      rcases List.mem_cons.mp he with rfl | he
      · exact .inl rfl
      · have hne := hfirst e.1 (List.mem_map_of_mem he)
        rw [he'.keyEqual (hes e he), decide_eq_false_iff_not, hsame] at hne
        exact .inr ⟨List.mem_cons_of_mem _ he, fun heq => hne heq.symm⟩
    · rw [if_neg (by simpa using hsame)] at he
      rcases List.mem_cons.mp he with rfl | he
      · exact .inr ⟨List.mem_cons_self .., hsame⟩
      · rcases ih hes hrest he with hx | ⟨hmem, hne⟩
        · exact .inl hx
        · exact .inr ⟨List.mem_cons_of_mem _ hmem, hne⟩

theorem get?_insert_text (hes : ∀ e ∈ es, e.1.IsText) (hkey : key.IsText) (hname : name.IsText) :
    get? (insert es key x) name = if key.codes? = name.codes? then some x else get? es name := by
  induction es with
  | nil => simp [insert, get?_cons, hkey.keyEqual hname]
  | cons e es ih =>
    obtain ⟨he, hes⟩ := List.forall_mem_cons.mp hes
    rw [insert, he.keyEqual hkey]
    by_cases hsame : e.1.codes? = key.codes?
    · rw [if_pos (by simpa using hsame), get?_cons, get?_cons, he.keyEqual hname, hsame]
      by_cases hfound : key.codes? = name.codes? <;> simp [hfound]
    · rw [if_neg (by simpa using hsame), get?_cons, get?_cons, he.keyEqual hname, ih hes]
      by_cases hfound : e.1.codes? = name.codes?
      · have hother : key.codes? ≠ name.codes? := fun heq => hsame (hfound.trans heq.symm)
        simp [hfound, hother]
      · simp [hfound]

section OfList

variable {es : List (Value × α)}

theorem isText_of_mem_ofList (h : ∀ e ∈ es, e.1.IsText) : ∀ e ∈ ofList es, e.1.IsText := by
  have hall := @forall_mem_ofList α Value.IsText (fun _ => True) es fun e he => ⟨h e he, trivial⟩
  exact fun e he => (hall e he).1

/-- The names come in the order in which each is first given. -/
theorem names_ofList (h : ∀ e ∈ es, e.1.IsText) :
    (ofList es).keys.map Value.codes? = (es.map fun e => e.1.codes?).eraseDups := by
  induction es using List.reverseRecOn with
  | nil => rfl
  | append_singleton es e ih =>
    obtain ⟨hes, he⟩ := List.forall_mem_append.mp h
    have he : e.1.IsText := he e (List.mem_singleton.mpr rfl)
    have hkeys : ∀ k ∈ (ofList es).keys, k.IsText := by
      intro k hk
      obtain ⟨e', he', rfl⟩ := List.mem_map.mp hk
      exact isText_of_mem_ofList hes e' he'
    rw [ofList_append_singleton, List.map_append, List.eraseDups_append, ← ih hes]
    by_cases hpresent : ∃ k ∈ (ofList es).keys, k.keyEqual e.1 = true
    · rw [keys_insert_of_present hpresent]
      obtain ⟨k, hk, hequal⟩ := hpresent
      rw [(hkeys k hk).keyEqual he, decide_eq_true_eq] at hequal
      have hmem : e.1.codes? ∈ es.map fun e => e.1.codes? := by
        rw [← List.mem_eraseDups, ← ih hes, ← hequal]
        exact List.mem_map_of_mem hk
      simp only [List.map_cons, List.map_nil, List.removeAll]
      rw [List.filter_cons_of_neg (by simpa using hmem)]
      simp
    · have hfresh : ∀ k ∈ (ofList es).keys, k.keyEqual e.1 = false := by
        intro k hk
        exact Bool.eq_false_iff.mpr fun hequal => hpresent ⟨k, hk, hequal⟩
      have hnew : e.1.codes? ∉ es.map fun e => e.1.codes? := by
        rw [← List.mem_eraseDups, ← ih hes]
        intro hmem
        obtain ⟨k, hk, hsame⟩ := List.mem_map.mp hmem
        have hother := hfresh k hk
        rw [(hkeys k hk).keyEqual he, decide_eq_false_iff_not] at hother
        exact hother hsame
      rw [insert_of_fresh hfresh]
      simp only [keys, List.map_append, List.map_cons, List.map_nil, List.removeAll]
      rw [List.filter_cons_of_pos (by simpa using hnew)]
      simp [List.eraseDups_cons]

theorem get?_ofList (h : ∀ e ∈ es, e.1.IsText) (hname : name.IsText) :
    get? (ofList es) name =
      (es.reverse.find? fun e => e.1.codes? = name.codes?).map Prod.snd := by
  induction es using List.reverseRecOn with
  | nil => rfl
  | append_singleton es e ih =>
    obtain ⟨hes, he⟩ := List.forall_mem_append.mp h
    rw [ofList_append_singleton, get?_insert_text (isText_of_mem_ofList hes) (he e (by simp)) hname,
      ih hes, List.reverse_append, List.reverse_singleton, List.singleton_append, List.find?_cons]
    by_cases hsame : e.1.codes? = name.codes? <;> simp [hsame]

end OfList

end Entries

/-! ## Plain numbers as a column -/

/-- A value that is no nested data of its own. -/
def Value.isLeaf : Value → Bool
  | .list _ | .tuple _ | .cyclicList | .array _ _ _ => false
  | _ => true

namespace Nesting

/-- What is known of the axes when a list of `n` leaves has been looked at. -/
def flat (n : Nat) : Nesting :=
  ⟨1, (List.replicate axisLimit 0).set 0 n, true, false⟩

theorem visit_leaf {v : Value} (h : v.isLeaf) (s : Nesting) (level : Nat) :
    s.visit level v = s.meet level [] false := by
  cases v <;> first | rfl | cases h

theorem meet_flat (n : Nat) : (flat n).meet 1 [] false = flat n :=
  rfl

theorem visitAll_flat {vs : List Value} (h : ∀ v ∈ vs, v.isLeaf) (n : Nat) :
    (flat n).visitAll 1 vs = flat n := by
  induction vs with
  | nil => rfl
  | cons v vs ih =>
    obtain ⟨hv, hvs⟩ := List.forall_mem_cons.mp h
    rw [visitAll, visit_leaf hv, meet_flat, ih hvs]

/-- The first leaf of a list settles that there is one axis. -/
theorem visitSequence_leaves {v : Value} {vs : List Value} (h : ∀ x ∈ v :: vs, x.isLeaf) :
    start.visitSequence 0 (v :: vs) = flat (vs.length + 1) := by
  obtain ⟨hv, hvs⟩ := List.forall_mem_cons.mp h
  have hfits : start.fails 0 [vs.length + 1] true = false := rfl
  have hfirst : (start.meet 0 [vs.length + 1] true).meet 1 [] false = flat (vs.length + 1) := rfl
  rw [visitSequence, hfits, if_neg nofun, visit_leaf hv, hfirst, visitAll_flat hvs]

end Nesting

namespace Value

theorem nestedShape_leaves {v : Value} {vs : List Value} (hv : v = .list vs ∨ v = .tuple vs)
    (h : ∀ x ∈ vs, x.isLeaf) : v.nestedShape = .ok [vs.length] := by
  have hvisit : Nesting.start.visit 0 v = Nesting.start.visitSequence 0 vs := by
    rcases hv with rfl | rfl <;> rfl
  rw [nestedShape, hvisit]
  cases vs with
  | nil => rfl
  | cons v vs =>
    rw [Nesting.visitSequence_leaves h]
    rfl

theorem mapM_singletons {α β : Type} (f : α → Except Fault β) (xs : List α) :
    (do return (← xs.mapM fun x => do return [← f x]).flatten) = xs.mapM f := by
  induction xs with
  | nil => rfl
  | cons x xs ih =>
    rw [List.mapM_cons, List.mapM_cons, ← ih]
    cases f x with
    | error fault => rfl
    | ok y => cases xs.mapM (fun x => do return [← f x]) <;> rfl

/-- A list or tuple of leaves is the column of these as numbers, in order. -/
theorem toColumn_leaves {v : Value} {vs : List Value} (hv : v = .list vs ∨ v = .tuple vs)
    (h : ∀ x ∈ vs, x.isLeaf) : v.toColumn = vs.mapM toReal := by
  rw [toColumn, nestedShape_leaves hv h]
  have hfill : v.fill toReal [vs.length] = vs.mapM toReal := by
    rcases hv with rfl | rfl
    · exact mapM_singletons toReal vs
    · exact mapM_singletons toReal vs
  exact hfill

theorem toColumn_floats (xs : List Double) : (list (xs.map .float)).toColumn = .ok xs := by
  have hreal : toReal ∘ float = fun x => (pure (id x) : Except Fault Double) := rfl
  rw [toColumn_leaves (.inl rfl) (by simp [isLeaf]), List.mapM_map, hreal, List.mapM_pure, List.map_id]
  rfl

/-- Integers are stored as the numbers nearest to them, if all are in range. -/
theorem toColumn_ints {ns : List Int} (h : ∀ n ∈ ns, (Double.ofInt n).isFinite) :
    (list (ns.map .int)).toColumn = .ok (ns.map Double.ofInt) := by
  rw [toColumn_leaves (.inl rfl) (by simp [isLeaf]), List.mapM_map]
  induction ns with
  | nil => rfl
  | cons n ns ih =>
    obtain ⟨hn, hns⟩ := List.forall_mem_cons.mp h
    have hreal : (int n).toReal = .ok (Double.ofInt n) := if_pos hn
    rw [List.mapM_cons, Function.comp_apply, hreal, ih hns]
    rfl

end Value

namespace Source

/-! ## Sources in order -/

/-- The names of a source are text and no two are equal, and all of its columns have one length. -/
structure Orderly (s : Source) : Prop where
  names : ∀ e ∈ s.columns, e.1.IsText
  distinct : s.columns.Distinct
  rectangular : ∀ e ∈ s.columns, e.2.length = s.rows

theorem orderly_empty : empty.Orderly where
  names := by simp [empty]
  distinct := List.Pairwise.nil
  rectangular := by simp [empty]

/-- Columns of one length give a source its rows. -/
theorem rows_eq {s : Source} {n : Nat} (h : ∀ e ∈ s.columns, e.2.length = n) :
    ∀ e ∈ s.columns, e.2.length = s.rows := by
  intro e he
  rw [h e he, rows]
  cases hcolumns : s.columns with
  | nil => simp [hcolumns] at he
  | cons first rest => simpa using (h first (by simp [hcolumns])).symm

theorem filterM_ok {α : Type} {xs : List α} {p : α → Except Fault Bool} {q : α → Bool}
    (h : ∀ x ∈ xs, p x = .ok (q x)) : xs.filterM p = .ok (xs.filter q) := by
  have haux : ∀ acc : List α, xs.filterAuxM p acc = .ok ((xs.filter q).reverse ++ acc) := by
    induction xs with
    | nil => simp [List.filterAuxM, pure, Except.pure]
    | cons x xs ih =>
      obtain ⟨hx, hxs⟩ := List.forall_mem_cons.mp h
      intro acc
      rw [List.filterAuxM, hx]
      cases hq : q x <;> simp [hq, ih hxs, bind, Except.bind]
  rw [List.filterM, haux []]
  simp [bind, Except.bind, pure, Except.pure]

variable {s s' : Source} {name values : Value} {column : Column}

/-- The length that is required is that of the first column under other text. -/
theorem requiredLength?_text (hnames : ∀ e ∈ s.columns, e.1.IsText) (hname : name.IsText) :
    s.requiredLength? name =
      .ok ((s.columns.filter fun e => e.1.codes? ≠ name.codes?).head?.map fun e => e.2.length) := by
  have hothers : s.columns.filterM (fun e => do (← e.1.equal name).negate.truth) =
      .ok (s.columns.filter fun e => e.1.codes? ≠ name.codes?) := by
    apply filterM_ok
    intro e he
    rw [(hnames e he).equal hname]
    simp [bind, Except.bind, Verdict.negate, Verdict.truth]
  rw [requiredLength?, hothers]
  rfl

/-- Another column of another length stands in the way of a column. -/
def Conflicts (s : Source) (name : Value) (column : Column) : Prop :=
  ∃ e ∈ s.columns, e.1.codes? ≠ name.codes? ∧ e.2.length ≠ column.length

theorem requiredLength?_of_other (h : s.Orderly) (hname : name.IsText)
    (hother : ∃ e ∈ s.columns, e.1.codes? ≠ name.codes?) :
    s.requiredLength? name = .ok (some s.rows) := by
  rw [requiredLength?_text h.names hname]
  cases hothers : s.columns.filter fun e => e.1.codes? ≠ name.codes? with
  | nil =>
    obtain ⟨e, he, hne⟩ := hother
    have hnone := List.filter_eq_nil_iff.mp hothers e he
    simp [hne] at hnone
  | cons first rest =>
    have hmem : first ∈ s.columns := by
      apply List.mem_of_mem_filter
      rw [hothers]
      exact List.mem_cons_self ..
    rw [List.head?_cons, Option.map_some, h.rectangular first hmem]

theorem requiredLength?_of_no_other (h : s.Orderly) (hname : name.IsText)
    (hother : ¬ ∃ e ∈ s.columns, e.1.codes? ≠ name.codes?) :
    s.requiredLength? name = .ok none := by
  have hothers : (s.columns.filter fun e => e.1.codes? ≠ name.codes?) = [] := by
    rw [List.filter_eq_nil_iff]
    intro e he hne
    exact hother ⟨e, he, by simpa using hne⟩
  rw [requiredLength?_text h.names hname, hothers]
  rfl

/-- In an orderly source any other column tells whether there is a conflict. -/
theorem conflicts_iff (h : s.Orderly) :
    s.Conflicts name column ↔
      (∃ e ∈ s.columns, e.1.codes? ≠ name.codes?) ∧ s.rows ≠ column.length := by
  constructor
  · rintro ⟨e, he, hother, hlength⟩
    exact ⟨⟨e, he, hother⟩, by rwa [← h.rectangular e he]⟩
  · rintro ⟨⟨e, he, hother⟩, hlength⟩
    exact ⟨e, he, hother, by rwa [h.rectangular e he]⟩

theorem addColumn_of_conflict (h : s.Orderly) (hname : name.IsText)
    (hvalues : values.toColumn = .ok column) (hconflict : s.Conflicts name column) :
    ∃ shown, s.addColumn name values = .error (.unequalColumn shown column.length s.rows) := by
  obtain ⟨hother, hlength⟩ := (conflicts_iff h).mp hconflict
  obtain ⟨shown, hshown⟩ := hname.interpolate
  refine ⟨shown, ?_⟩
  rw [addColumn, hvalues]
  change (s.requiredLength? name >>= _) = _
  rw [requiredLength?_of_other h hname hother]
  change (if s.rows ≠ column.length then _ else _) = _
  rw [if_pos hlength, hshown]
  rfl

theorem addColumn_of_no_conflict (h : s.Orderly) (hname : name.IsText)
    (hvalues : values.toColumn = .ok column) (hconflict : ¬ s.Conflicts name column) :
    s.addColumn name values = .ok (⟨Entries.insert s.columns name column⟩, column) := by
  have hkey : checkKey name = .ok () := by rw [checkKey, hname.unhashable?]
  rw [conflicts_iff h, not_and_not_right] at hconflict
  rw [addColumn, hvalues]
  change (s.requiredLength? name >>= _) = _
  by_cases hother : ∃ e ∈ s.columns, e.1.codes? ≠ name.codes?
  · rw [requiredLength?_of_other h hname hother]
    change (if s.rows ≠ column.length then _ else _) = _
    rw [if_neg (not_not.mpr (hconflict hother)), hkey]
    rfl
  · rw [requiredLength?_of_no_other h hname hother]
    change (checkKey name >>= _) = _
    rw [hkey]
    rfl

/-- An added column fits the others, and the source stays orderly. -/
theorem Orderly.addColumn (h : s.Orderly) (hname : name.IsText)
    (hadd : s.addColumn name values = .ok (s', column)) : s'.Orderly := by
  obtain ⟨hvalues, rfl⟩ := addColumn_ok hadd
  have hfits : ∀ e ∈ s.columns, e.1.codes? ≠ name.codes? → e.2.length = column.length := by
    intro e he hother
    by_contra hlength
    obtain ⟨shown, hfault⟩ := addColumn_of_conflict h hname hvalues ⟨e, he, hother, hlength⟩
    rw [hfault] at hadd
    cases hadd
  have hlengths : ∀ e ∈ Entries.insert s.columns name column, e.2.length = column.length := by
    intro e he
    rcases Entries.mem_insert_text h.names h.distinct hname he with hnew | ⟨hold, hother⟩
    · rw [hnew]
    · exact hfits e hold hother
  refine ⟨?_, h.distinct.insert name column, rows_eq hlengths⟩
  have hall := @Entries.forall_mem_insert _ Value.IsText (fun _ => True) s.columns name column
    (fun e he => ⟨h.names e he, trivial⟩) hname trivial
  exact fun e he => (hall e he).1

/-! ## Histories -/

/-- Add a column; what is left of the source, also when the addition fails, is the source from then
on. -/
def after (s : Source) (add : Value × Value) : Source :=
  match addColumnSteps add.1 add.2 s with
  | .ok _ s => s
  | .error _ s => s

/-- Add columns one after the other, whether they can be added or not. -/
def afterAll (s : Source) (adds : List (Value × Value)) : Source :=
  adds.foldl after s

/-- The columns of the additions that succeed, in order. -/
def stored (s : Source) : List (Value × Value) → List (Value × Column)
  | [] => []
  | add :: adds =>
    match addColumnSteps add.1 add.2 s with
    | .ok column s => (add.1, column) :: s.stored adds
    | .error _ s => s.stored adds

/-- The columns that a source is made with. -/
def entriesOf : Value → List (Value × Value)
  | .dict entries => entries
  | .cyclicDict => [(.text "self", .cyclicDict)]
  | _ => []

/-- An addition stores a column, or it fails and leaves the source as it was. -/
theorem addColumnSteps_cases (s : Source) (add : Value × Value) :
    (∃ s' column, s.addColumn add.1 add.2 = .ok (s', column) ∧
      addColumnSteps add.1 add.2 s = .ok column s') ∨
    ∃ fault, addColumnSteps add.1 add.2 s = .error fault s := by
  rw [mirrors_addColumnSteps add.1 add.2 s]
  dsimp only
  cases hadd : s.addColumn add.1 add.2 with
  | ok out => exact .inl ⟨out.1, out.2, rfl, rfl⟩
  | error fault => exact .inr ⟨fault, rfl⟩

/-- Only names that are given are stored. -/
theorem mem_stored {adds : List (Value × Value)} {e : Value × Column} (h : e ∈ s.stored adds) :
    ∃ add ∈ adds, add.1 = e.1 := by
  induction adds generalizing s with
  | nil => cases h
  | cons add adds ih =>
    rw [stored] at h
    cases hadd : addColumnSteps add.1 add.2 s with
    | ok column s' =>
      rw [hadd] at h
      rcases List.mem_cons.mp h with rfl | h
      · exact ⟨add, List.mem_cons_self .., rfl⟩
      · obtain ⟨add', hmem, hname⟩ := ih h
        exact ⟨add', List.mem_cons_of_mem _ hmem, hname⟩
    | error fault s' =>
      rw [hadd] at h
      obtain ⟨add', hmem, hname⟩ := ih h
      exact ⟨add', List.mem_cons_of_mem _ hmem, hname⟩

/-- The columns of a source are those that have been stored, put in one after the other. -/
theorem columns_afterAll (s : Source) (adds : List (Value × Value)) :
    (s.afterAll adds).columns =
      (s.stored adds).foldl (fun es e => Entries.insert es e.1 e.2) s.columns := by
  induction adds generalizing s with
  | nil => rfl
  | cons add adds ih =>
    rw [afterAll, List.foldl_cons, ← afterAll, ih, after, stored]
    rcases s.addColumnSteps_cases add with ⟨s', column, hadd, hsteps⟩ | ⟨fault, hsteps⟩
    · rw [hsteps, (addColumn_ok hadd).2]
      rfl
    · rw [hsteps]

/-- Additions keep a source orderly, those that fail included. -/
theorem Orderly.afterAll (h : s.Orderly) {adds : List (Value × Value)}
    (hnames : ∀ add ∈ adds, add.1.IsText) : (s.afterAll adds).Orderly := by
  induction adds generalizing s with
  | nil => exact h
  | cons add adds ih =>
    obtain ⟨hname, hnames⟩ := List.forall_mem_cons.mp hnames
    rw [Source.afterAll, List.foldl_cons, ← Source.afterAll]
    refine ih ?_ hnames
    rw [after]
    rcases s.addColumnSteps_cases add with ⟨s', column, hadd, hsteps⟩ | ⟨fault, hsteps⟩
    · rw [hsteps]
      exact h.addColumn hname hadd
    · rw [hsteps]
      exact h

/-- Columns that can all be added are added as when a source is made. -/
theorem afterAll_of_addColumns {entries : List (Value × Value)}
    (h : s.addColumns entries = .ok s') : s.afterAll entries = s' := by
  induction entries generalizing s with
  | nil => exact Except.ok.inj h
  | cons e entries ih =>
    rw [addColumns, List.foldlM_cons] at h
    obtain ⟨next, hnext, h⟩ := Json.exists_ok_of_bind h
    obtain ⟨⟨s'', column⟩, hadd, hnext⟩ := Json.exists_ok_of_bind hnext
    obtain rfl : s'' = next := Except.ok.inj hnext
    have hafter : s.after e = s'' := by
      rw [after, mirrors_addColumnSteps e.1 e.2 s]
      simp [hadd]
    rw [afterAll, List.foldl_cons, ← afterAll, hafter]
    exact ih h

/-- A source that is made is an empty one to which the columns it is made with have been added. -/
theorem afterAll_entriesOf {columns : Value} (h : ofValue columns = .ok s) :
    empty.afterAll (entriesOf columns) = s := by
  obtain ⟨filled, htruth, h⟩ := Json.exists_ok_of_bind h
  cases filled with
  | true =>
    cases columns with
    | dict entries => exact afterAll_of_addColumns h
    | cyclicDict => exact afterAll_of_addColumns h
    | _ => cases h
  | false =>
    have hnone : entriesOf columns = [] := by
      cases columns with
      | dict entries => simpa [Value.truth, Value.truthy, entriesOf] using htruth
      | cyclicDict => cases htruth
      | _ => rfl
    rw [hnone]
    exact Except.ok.inj h

/-! ## What a source holds -/

/-- What a source holds after columns have been stored: columns of one length under different names, the
names in the order in which each is first stored, and under each the column that is stored last. -/
structure Tabulates (s : Source) (columns : List (Value × Column)) : Prop where
  rectangular : ∀ c ∈ s.values, c.length = s.rows
  noRows : s.columns = [] → s.rows = 0
  names : s.names.map Value.codes? = (columns.map fun e => e.1.codes?).eraseDups
  distinct : (s.names.map Value.codes?).Nodup
  last : ∀ name, name.IsText → Entries.get? s.columns name =
    (columns.reverse.find? fun e => e.1.codes? = name.codes?).map Prod.snd
  byteSize : s.byteSize = 8 * s.rows * s.names.length
  aligned : s.columns = s.names.zip s.values

theorem foldl_byteSize {cs : List Column} {n : Nat} (h : ∀ c ∈ cs, c.length = n) (total : Nat) :
    cs.foldl (fun total c => total + 8 * c.length) total = total + 8 * n * cs.length := by
  induction cs generalizing total with
  | nil => simp
  | cons c cs ih =>
    obtain ⟨hc, hcs⟩ := List.forall_mem_cons.mp h
    rw [List.foldl_cons, ih hcs, hc, List.length_cons, Nat.mul_succ]
    omega

theorem Orderly.tabulates (h : s.Orderly) {columns : List (Value × Column)}
    (hnames : ∀ e ∈ columns, e.1.IsText) (hcolumns : s.columns = Entries.ofList columns) :
    s.Tabulates columns := by
  have hvalues : ∀ c ∈ s.values, c.length = s.rows := by
    intro c hc
    obtain ⟨e, he, rfl⟩ := List.mem_map.mp hc
    exact h.rectangular e he
  refine ⟨hvalues, ?_, ?_, ?_, ?_, ?_, ?_⟩
  · intro hempty
    simp [rows, hempty]
  · rw [Source.names, hcolumns]
    exact Entries.names_ofList hnames
  · have hdistinct : s.names.Pairwise fun a b => a.keyEqual b = false := h.distinct
    have htext : ∀ k ∈ s.names, k.IsText := by
      intro k hk
      obtain ⟨e, he, rfl⟩ := List.mem_map.mp hk
      exact h.names e he
    refine List.pairwise_map.mpr (hdistinct.imp_of_mem fun ha hb hne => ?_)
    rw [(htext _ ha).keyEqual (htext _ hb)] at hne
    exact of_decide_eq_false hne
  · intro name hname
    rw [hcolumns]
    exact Entries.get?_ofList hnames hname
  · rw [byteSize, foldl_byteSize hvalues, Nat.zero_add, Source.names, values, Entries.keys,
      List.length_map, List.length_map]
  · exact List.zip_of_prod rfl rfl

/-- After whatever history of additions a source tabulates the columns that have been stored. Values
that can be converted are refused, as wrong values, exactly if another column has another length, and an
addition that fails, for whatever reason, leaves the source as it was. -/
theorem columns_over_history {columns : Value} {s₀ : Source} (h₀ : ofValue columns = .ok s₀)
    (adds : List (Value × Value)) (hnames : ∀ add ∈ entriesOf columns ++ adds, add.1.IsText) :
    (s₀.afterAll adds).Tabulates (empty.stored (entriesOf columns ++ adds)) ∧
    (∀ name values column, name.IsText → values.toColumn = .ok column →
      ((s₀.afterAll adds).Conflicts name column → ∃ fault,
        addColumnSteps name values (s₀.afterAll adds) = .error fault (s₀.afterAll adds) ∧
          fault.kind = .value) ∧
      (¬ (s₀.afterAll adds).Conflicts name column →
        addColumnSteps name values (s₀.afterAll adds) =
          .ok column ⟨Entries.insert (s₀.afterAll adds).columns name column⟩)) ∧
    ∀ name values s',
      (∀ column, addColumnSteps name values (s₀.afterAll adds) = .ok column s' →
        values.toColumn = .ok column) ∧
      ∀ fault, addColumnSteps name values (s₀.afterAll adds) = .error fault s' →
        s' = s₀.afterAll adds := by
  have hstart : s₀.afterAll adds = empty.afterAll (entriesOf columns ++ adds) := by
    rw [← afterAll_entriesOf h₀, afterAll, afterAll, afterAll, List.foldl_append]
  have horderly : (s₀.afterAll adds).Orderly := by
    rw [hstart]
    exact orderly_empty.afterAll hnames
  refine ⟨?_, ?_, ?_⟩
  · apply horderly.tabulates
    · intro e he
      obtain ⟨add, hadd, hname⟩ := mem_stored he
      rw [← hname]
      exact hnames add hadd
    · rw [hstart, columns_afterAll]
      rfl
  · intro name values column hname hvalues
    rw [mirrors_addColumnSteps name values]
    dsimp only
    constructor
    · intro hconflict
      obtain ⟨shown, hfault⟩ := addColumn_of_conflict horderly hname hvalues hconflict
      exact ⟨_, by rw [hfault], rfl⟩
    · intro hconflict
      rw [addColumn_of_no_conflict horderly hname hvalues hconflict]
  · intro name values s'
    constructor
    · intro column hok
      exact (addColumn_ok ((mirrors_addColumnSteps name values).changed hok)).1
    · intro fault hfault
      exact ((mirrors_addColumnSteps name values).unchanged hfault).1

/-- A column that does not fit is refused, and the only column is then replaced by a shorter one. -/
theorem columns_over_history_refused :
    ∃ s₀, ofValue (.dict [(.text "x", .list [.int 1, .int 2])]) = .ok s₀ ∧
      (s₀.afterAll [(.text "y", .list [.int 3]), (.text "x", .list [.bool true])]).Tabulates
        (empty.stored [(.text "x", .list [.int 1, .int 2]), (.text "y", .list [.int 3]),
          (.text "x", .list [.bool true])]) := by
  obtain ⟨s₀, h₀⟩ : ∃ s₀, ofValue (.dict [(.text "x", .list [.int 1, .int 2])]) = .ok s₀ := ⟨_, rfl⟩
  have hnames : ∀ add ∈ entriesOf (.dict [(.text "x", .list [.int 1, .int 2])]) ++
      [(.text "y", .list [.int 3]), (.text "x", .list [.bool true])], add.1.IsText := by
    simp [entriesOf, Value.IsText, Value.codes?]
  exact ⟨s₀, h₀, (columns_over_history h₀ _ hnames).1⟩

end Source

end PlotStream
