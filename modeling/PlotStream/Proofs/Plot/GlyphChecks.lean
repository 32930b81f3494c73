import Mathlib.Data.Rat.Cast.Order
import PlotStream.Plot.Validation

/-!
# The glyphs that a group is refused for

The check of a group comes down to one walk over its glyphs, window by window, figure by figure and
operation by operation (`Group.glyphs`). What it refuses a group for is the first glyph whose own check
fails (`Group.fault?_validate`), and the check of a glyph that names its data source by an integer
fails exactly if no source of the window has that position (`PlacedGlyph.failure?_eq_none_iff`).
-/

namespace PlotStream

/-- What a check fails with. -/
def failure? {α : Type} : Except Fault α → Option Fault
  | .ok _ => none
  | .error fault => some fault

theorem failure?_forM {α : Type} (xs : List α) (check : α → Except Fault Unit) :
    failure? (xs.forM check) = xs.findSome? fun x => failure? (check x) := by
  induction xs with
  | nil => rfl
  | cons x xs ih =>
    rw [List.findSome?_cons, ← ih]
    change failure? (check x >>= fun _ => xs.forM check) = _
    cases check x <;> rfl

/-- Checks that are made list by list are made along the joined list. -/
theorem forM_flatMap {α β : Type} (xs : List α) (f : α → List β) (check : β → Except Fault Unit) :
    (xs.flatMap f).forM check = xs.forM fun x => (f x).forM check := by
  induction xs with
  | nil => rfl
  | cons x xs ih =>
    rw [List.forM_eq_forM] at ih ⊢
    rw [List.flatMap_cons, List.forM_append, ih]
    rfl

/-! ## Integers in their order to integers -/

theorem Order.test_int (o : Order) (bound n : Int) :
    o.test bound (Value.int n).comparand =
      match o with
      | .atLeast => decide (bound ≤ n)
      | .below => decide (n < bound) := by
  have hle (a b : Int) : (ExactNumber.ofInt a).le (ExactNumber.ofInt b) = decide (a ≤ b) := by
    refine decide_eq_decide.mpr ?_
    rw [← Dyadic.toRat_le_toRat_iff]
    simp [Dyadic.toRat_ofIntWithPrec_eq_mul_two_pow]
  have hsame (a b : Int) : (ExactNumber.ofInt a).same (ExactNumber.ofInt b) = decide (a = b) := by
    refine decide_eq_decide.mpr ?_
    rw [← Dyadic.toRat_inj]
    simp [Dyadic.toRat_ofIntWithPrec_eq_mul_two_pow]
  have hcompare : o.test bound (Value.int n).comparand =
      o.holds (.ofInt n, .ofInt 0) (.ofInt bound, .ofInt 0) := rfl
  rw [hcompare]
  cases o <;> simp only [Order.holds, hle, hsame] <;> grind

theorem inRange_int (bound : Nat) (n : Int) :
    inRange bound (.int n) = .ok (decide (0 ≤ n ∧ n < bound)) := by
  have horder (o : Order) (b : Int) :
      Value.order o b (.int n) = .ok (.single (o.test b (Value.int n).comparand)) := rfl
  have hordered : isOrdered (.int n) = true := rfl
  rw [inRange, hordered, horder, horder, Order.test_int, Order.test_int]
  by_cases hn : 0 ≤ n <;> simp [hn, Verdict.truth, bind, Except.bind, pure, Except.pure]

/-! ## The walk over the glyphs -/

/-- A glyph where it stands: in a figure, by its position, of a window with some number of sources. -/
structure PlacedGlyph where
  window : String
  sources : Nat
  figure : Nat
  method : Value
  source : Value

namespace PlacedGlyph

/-- The glyph that an operation is. -/
def of? (window : String) (sources figure : Nat) : Value → Option PlacedGlyph
  | .glyph method source _ => some ⟨window, sources, figure, method, source⟩
  | _ => none

def check (glyph : PlacedGlyph) : Except Fault Unit := do
  if ← inRange glyph.sources glyph.source then return ()
  else throw (missingSource glyph.window glyph.sources glyph.figure glyph.method glyph.source)

end PlacedGlyph

/-- The glyphs of a window, figure by figure. -/
def Window.glyphs (w : Window) : List PlacedGlyph :=
  w.figures.zipIdx.flatMap fun (f, i) =>
    f.operations.filterMap (PlacedGlyph.of? w.id w.sources.length i)

/-- The glyphs of a group, window by window. -/
def Group.glyphs (g : Group) : List PlacedGlyph :=
  g.windows.flatMap Window.glyphs

theorem PlacedGlyph.forM_of? (window : String) (sources figure : Nat) (ops : List Value) :
    (ops.filterMap (of? window sources figure)).forM check =
      ops.forM (checkOperation window sources figure) := by
  induction ops with
  | nil => rfl
  | cons op ops ih =>
    change _ = checkOperation window sources figure op >>= fun _ =>
      ops.forM (checkOperation window sources figure)
    rw [← ih, List.filterMap_cons]
    cases op <;> rfl

theorem Window.checkGlyphs_eq (w : Window) : w.checkGlyphs = w.glyphs.forM PlacedGlyph.check := by
  rw [glyphs, forM_flatMap]
  simp only [PlacedGlyph.forM_of?]
  rfl

/-- A group is refused for the first of its glyphs that is refused. -/
theorem Group.fault?_validate (g : Group) :
    g.validate.fault? = g.glyphs.findSome? fun glyph => failure? glyph.check := by
  rw [← failure?_forM, glyphs, forM_flatMap, validate]
  induction g.windows with
  | nil => rfl
  | cons w ws ih =>
    rw [validateWindows, w.checkGlyphs_eq]
    change _ = failure? (w.glyphs.forM PlacedGlyph.check >>= fun _ =>
      ws.forM fun w => w.glyphs.forM PlacedGlyph.check)
    cases w.glyphs.forM PlacedGlyph.check with
    | error fault => rfl
    | ok => exact ih

theorem Window.mem_glyphs {w : Window} {glyph : PlacedGlyph} :
    glyph ∈ w.glyphs ↔ ∃ (i : Nat) (f : Figure) (args : Arguments), w.figures[i]? = some f ∧
      .glyph glyph.method glyph.source args ∈ f.operations ∧
      glyph.window = w.id ∧ glyph.sources = w.sources.length ∧ glyph.figure = i := by
  simp only [glyphs, List.mem_flatMap, Prod.exists, List.mem_zipIdx_iff_getElem?, List.mem_filterMap]
  constructor
  · rintro ⟨f, i, hf, op, hop, hglyph⟩
    cases op with
    | glyph method source args =>
      obtain rfl := Option.some.inj hglyph
      exact ⟨i, f, args, hf, hop, rfl, rfl, rfl⟩
    | _ => cases hglyph
  · rintro ⟨i, f, args, hf, hop, hwindow, hsources, rfl⟩
    refine ⟨f, _, hf, _, hop, ?_⟩
    cases glyph
    simp_all [PlacedGlyph.of?]

/-! ## Glyphs that name their source by an integer -/

theorem Value.interpolate_int_eq {n : Int} (hn : n.natAbs < 10 ^ digitLimit) :
    (Value.int n).interpolate = .ok (toString n) := by
  have htext : String.ofList (intText n) = toString n := by
    cases n with
    | ofNat m =>
      rw [Int.ofNat_eq_natCast, intText, if_neg (Int.not_lt.mpr (Int.natCast_nonneg m))]
      rfl
    | negSucc m =>
      rw [intText, if_pos (Int.negSucc_lt_zero m), String.ofList_append]
      rfl
  change integerText n = _
  rw [integerText, Nat.pow_eq, if_neg (Nat.not_le.mpr hn), htext]

namespace PlacedGlyph

variable {glyph : PlacedGlyph} {n : Int}

/-- The window of the glyph has a source at the position that it names. -/
def Resolved (glyph : PlacedGlyph) : Prop :=
  ∃ n : Int, glyph.source = .int n ∧ 0 ≤ n ∧ n < glyph.sources

/-- The glyph names its method by text and its source by an integer that can be written. -/
structure Plain (glyph : PlacedGlyph) : Prop where
  method : ∃ method, glyph.method = .text method
  source : ∃ n : Int, glyph.source = .int n ∧ n.natAbs < 10 ^ digitLimit

theorem failure?_eq_none (h : glyph.Resolved) : failure? glyph.check = none := by
  obtain ⟨n, hsource, hn⟩ := h
  rw [check, hsource, inRange_int, decide_eq_true hn]
  rfl

/-- A glyph that names no source of its window is refused, and told apart by all that places it. -/
theorem failure?_eq_some {method : String} (hmethod : glyph.method = .text method)
    (hsource : glyph.source = .int n) (hlimit : n.natAbs < 10 ^ digitLimit)
    (hn : ¬(0 ≤ n ∧ n < glyph.sources)) :
    failure? glyph.check =
      some (.missingSource method glyph.figure glyph.window (toString n) glyph.sources) := by
  have hfault : missingSource glyph.window glyph.sources glyph.figure (.text method) (.int n) =
      .missingSource method glyph.figure glyph.window (toString n) glyph.sources := by
    rw [missingSource, Value.interpolate_int_eq hlimit]
    rfl
  rw [check, hmethod, hsource, inRange_int, decide_eq_false hn, hfault]
  rfl

theorem exists_of_failure? (h : glyph.Plain) {fault : Fault}
    (hfault : failure? glyph.check = some fault) :
    ∃ method n, glyph.method = .text method ∧ glyph.source = .int n ∧ ¬(0 ≤ n ∧ n < glyph.sources) ∧
      fault = .missingSource method glyph.figure glyph.window (toString n) glyph.sources := by
  obtain ⟨⟨method, hmethod⟩, n, hsource, hlimit⟩ := h
  by_cases hn : 0 ≤ n ∧ n < glyph.sources
  · rw [failure?_eq_none ⟨n, hsource, hn⟩] at hfault
    cases hfault
  · rw [failure?_eq_some hmethod hsource hlimit hn] at hfault
    exact ⟨method, n, hmethod, hsource, hn, (Option.some.inj hfault).symm⟩

theorem failure?_eq_none_iff (h : glyph.Plain) : failure? glyph.check = none ↔ glyph.Resolved := by
  refine ⟨fun hnone => ?_, failure?_eq_none⟩
  obtain ⟨⟨method, hmethod⟩, n, hsource, hlimit⟩ := h
  by_cases hn : 0 ≤ n ∧ n < glyph.sources
  · exact ⟨n, hsource, hn⟩
  · rw [failure?_eq_some hmethod hsource hlimit hn] at hnone
    cases hnone

end PlacedGlyph

namespace Group

variable {g : Group}

/-- A group whose glyphs all name sources of their windows is not refused. -/
theorem fault?_validate_of_resolved (h : ∀ glyph ∈ g.glyphs, glyph.Resolved) :
    g.validate.fault? = none := by
  rw [fault?_validate, List.findSome?_eq_none_iff]
  exact fun glyph hglyph => PlacedGlyph.failure?_eq_none (h glyph hglyph)

variable (hplain : ∀ glyph ∈ g.glyphs, glyph.Plain)
include hplain

theorem resolved_of_fault?_validate (h : g.validate.fault? = none) :
    ∀ glyph ∈ g.glyphs, glyph.Resolved := by
  rw [fault?_validate, List.findSome?_eq_none_iff] at h
  exact fun glyph hglyph => (PlacedGlyph.failure?_eq_none_iff (hplain glyph hglyph)).mp (h glyph hglyph)

/-- What a group is refused for is the first glyph that names no source of its window. -/
theorem exists_of_fault?_validate {fault : Fault} (h : g.validate.fault? = some fault) :
    ∃ before glyph after method n, g.glyphs = before ++ glyph :: after ∧
      (∀ earlier ∈ before, earlier.Resolved) ∧
      glyph.method = .text method ∧ glyph.source = .int n ∧ ¬(0 ≤ n ∧ n < glyph.sources) ∧
      fault = .missingSource method glyph.figure glyph.window (toString n) glyph.sources := by
  rw [fault?_validate] at h
  obtain ⟨before, glyph, after, hglyphs, hfault, hbefore⟩ := List.findSome?_eq_some_iff.mp h
  obtain ⟨method, n, hmethod, hsource, hn, hmissing⟩ :=
    PlacedGlyph.exists_of_failure? (hplain glyph (by simp [hglyphs])) hfault
  refine ⟨before, glyph, after, method, n, hglyphs, fun earlier hearlier => ?_, hmethod, hsource, hn,
    hmissing⟩
  exact (PlacedGlyph.failure?_eq_none_iff (hplain earlier (by simp [hglyphs, hearlier]))).mp
    (hbefore earlier hearlier)

end Group

end PlotStream
