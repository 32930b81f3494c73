import PlotStream.Proofs.Plot.CodeTrees
import PlotStream.Proofs.Plot.FigureCode
import PlotStream.Proofs.Plot.GlyphChecks
import PlotStream.Proofs.Wire.Replay

/-!
# Which source a glyph gets in the browser

A glyph goes by the position of a data source in its window. The check of a group refuses positions
that the window does not have, the code of a window indexes the rebuilt sources by what is left, and
the message of the window lists the names of the last source first, so that the list for position `k`
of `n` is number `n - 1 - k`. `accepted_glyphs_resolve` puts the three together: what the check accepts
is what the browser finds.
-/

namespace PlotStream

/-! ## Pieces of code -/

namespace Code

/-- A text stands somewhere in another one. -/
def Contains (whole piece : String) : Prop :=
  ∃ before after, whole = before ++ piece ++ after

theorem Contains.trans {a b c : String} (hab : Contains a b) (hbc : Contains b c) : Contains a c := by
  obtain ⟨before, after, rfl⟩ := hab
  obtain ⟨before', after', rfl⟩ := hbc
  exact ⟨before ++ before', after' ++ after, by simp only [String.append_assoc]⟩

theorem contains_join {pieces : List String} {piece : String} (h : piece ∈ pieces) :
    Contains (String.join pieces) piece := by
  obtain ⟨before, after, rfl⟩ := List.append_of_mem h
  exact ⟨String.join before, String.join after, by simp [String.append_assoc]⟩

/-- The piece that stands for an item of a row. -/
theorem exists_piece {α : Type} {R : α → String → Prop} {as : List α} {pieces : List String}
    (h : List.Forall₂ R as pieces) {a : α} (ha : a ∈ as) :
    ∃ piece, R a piece ∧ Contains (String.join pieces) piece := by
  obtain ⟨i, hi, rfl⟩ := List.getElem_of_mem ha
  obtain ⟨hlength, hrow⟩ := List.forall₂_iff_get.mp h
  have hi' : i < pieces.length := hlength ▸ hi
  exact ⟨pieces[i], hrow i hi hi', contains_join (List.getElem_mem hi')⟩

/-- The code of a window contains the statement of each operation of its figures. -/
theorem exists_statement {room : Nat} {w : Window} {code : String} (h : ofWindow room w = .ok code)
    {f : Figure} (hf : f ∈ w.figures) {op : Value} (hop : op ∈ f.operations) :
    ∃ statement, IsStatement room op statement ∧ Contains code statement := by
  obtain ⟨figures, hfigures, h⟩ := Json.exists_ok_of_bind h
  obtain rfl := Except.ok.inj h
  obtain ⟨pieces, hpieces, rfl⟩ := (row_eq_ok_iff rfl fun _ _ => rfl).mp hfigures
  obtain ⟨piece, hpiece, hfigure⟩ := exists_piece hpieces hf
  obtain ⟨statements, lines, members, hstatements, -, -, rfl⟩ := ofFigure_eq_ok_iff.mp hpiece
  obtain ⟨statement, hstatement, hin⟩ := exists_piece hstatements hop
  refine ⟨statement, appendOperation_eq_ok_iff.mp hstatement, ?_⟩
  have hwindow : Contains ("(pgid, pwid, cdsa) => \x7b\n\n" ++ String.join pieces ++ "\n\x7d\n")
      (String.join pieces) := ⟨_, _, rfl⟩
  refine (hwindow.trans hfigure).trans (Contains.trans ?_ hin)
  refine ⟨"(async function(fig) \x7b\n", String.join lines ++ "Bokeh.Plotting.show(fig);\n" ++
    "\x7d)(Bokeh.Plotting.figure(" ++ object members ++ "))\n", ?_⟩
  simp only [String.append_assoc]

/-- How the statement of a glyph begins: with its method, and the rebuilt source that it draws. -/
def glyphOpening (method : String) (source : Nat) : String :=
  "fig." ++ method ++ "(\x7b source: cdsa[" ++ toString source ++ "]"

theorem contains_glyphOpening {room : Nat} {method : String} {k : Nat} (hk : k < 10 ^ digitLimit)
    {args : Arguments} {statement : String}
    (h : IsStatement room (.glyph (.text method) (.int k) args) statement) :
    Contains statement (glyphOpening method k) := by
  cases h with
  | @glyph _ _ _ name index members hmethod hsource h =>
    obtain rfl : method = name := Except.ok.inj hmethod
    obtain rfl : toString k = index :=
      Except.ok.inj ((Value.interpolate_int_eq (by simpa using hk)).symm.trans hsource)
    refine ⟨"", String.ofList ((members.map String.toList).flatMap ([',', ' '] ++ ·) ++ [' ', '\x7d']) ++
      ")\n", String.toList_inj.mp ?_⟩
    simp only [glyphOpening, String.toList_append, toList_object_cons, String.toList_ofList,
      String.toList_empty, List.nil_append]
    simp

end Code

/-! ## Positions in the message -/

theorem Window.length_of_listsComeBack {w : Window} {lists : List (List Value)}
    (h : Json.ListsComeBack (w.sources.reverse.map Source.names) lists) :
    lists.length = w.sources.length := by
  simpa using h.length_eq.symm

/-- The source at position `k` of `n` is rebuilt at this position, under the names that have come back
for it as list number `n - 1 - k`. -/
theorem Window.rebuilt_at {w : Window} {lists : List (List Value)}
    (h : Json.ListsComeBack (w.sources.reverse.map Source.names) lists) (code : String)
    (group : Value) {k : Nat} {s : Source} (hs : w.sources[k]? = some s) :
    ∃ names, lists[w.sources.length - 1 - k]? = some names ∧
      List.Forall₂ (Json.ComesBack .refuse) s.names names ∧
      w.columnNames[w.sources.length - 1 - k]? = some (.list s.names) ∧
      (w.shownUnder code group lists).sources[k]? = some (s.rebuiltUnder names) := by
  obtain ⟨hk, -⟩ := List.getElem?_eq_some_iff.mp hs
  have hlength := length_of_listsComeBack h
  have hmirror : w.sources.reverse[w.sources.length - 1 - k]? = some s := by
    rw [List.getElem?_reverse (by omega), ← hs]
    congr 1
    omega
  obtain ⟨names, hnames⟩ : ∃ names, lists[w.sources.length - 1 - k]? = some names :=
    ⟨_, List.getElem?_eq_getElem (by omega)⟩
  refine ⟨names, hnames, ?_, ?_, ?_⟩
  · obtain ⟨hj, rfl⟩ := List.getElem?_eq_some_iff.mp hnames
    obtain ⟨hj', rfl⟩ := List.getElem?_eq_some_iff.mp hmirror
    simpa using h.get (by simpa using hj') hj
  · rw [columnNames_eq, List.map_map, List.getElem?_map, hmirror]
    rfl
  · have hzip :
        (List.zipWith Source.rebuiltUnder w.sources.reverse lists).length = w.sources.length := by
      simp [hlength]
    rw [shownUnder, List.getElem?_reverse (by omega), hzip, List.getElem?_zipWith, hmirror, hnames]

/-! ## Accepted groups -/

/-- What the browser makes of the glyphs of a window, given the text that shows the window: the code
indexes the rebuilt sources, and the source that it finds has the names, as they have come back, and the
columns of the one that the glyph goes by. -/
structure Window.GlyphsResolve (room : Room) (w : Window) (x code : String) (group : Value)
    (lists : List (List Value)) : Prop where
  compiled : Code.ofWindow room.calls w = .ok code
  sent : (w.message code).toJson room.calls = .ok x
  read : Message.ofJson x = .ok (Message.plotWindow group (.text w.id)
    (.list (lists.map Value.list)) (.text code))
  count : lists.length = w.sources.length ∧
    (w.shownUnder code group lists).sources.length = w.sources.length
  resolved : ∀ f ∈ w.figures, ∀ (method : String) (n : Int) (args : Arguments),
    .glyph (.text method) (.int n) args ∈ f.operations →
    ∃ (k : Nat) (s : Source) (names : List Value), n = k ∧ k < w.sources.length ∧
      Code.Contains code (Code.glyphOpening method k) ∧
      w.sources[k]? = some s ∧
      w.columnNames[w.sources.length - 1 - k]? = some (.list s.names) ∧
      lists[w.sources.length - 1 - k]? = some names ∧
      List.Forall₂ (Json.ComesBack .refuse) s.names names ∧
      ((∀ name ∈ s.names, ∃ t, name = .text t) → names = s.names) ∧
      (w.shownUnder code group lists).sources[k]? = some (s.rebuiltUnder names)

theorem Window.exists_glyphsResolve {room : Room} {w : Window} {x : String}
    (hplain : ∀ glyph ∈ w.glyphs, glyph.Plain) (hresolved : ∀ glyph ∈ w.glyphs, glyph.Resolved)
    (hx : w.shownText room = .ok x) :
    ∃ code group lists, w.GlyphsResolve room x code group lists ∧ ∀ stack,
      Receiver.receive (w.stacked ++ stack) (.text x) =
        some (stack, some (w.shownUnder code group lists)) := by
  obtain ⟨code, group, lists, hcode, hsent, hlists, hread, hreceive⟩ := receive_shown hx
  have hlength := length_of_listsComeBack hlists
  refine ⟨code, group, lists, ⟨hcode, hsent, hread, ⟨hlength, by simp [shownUnder, hlength]⟩, ?_⟩,
    hreceive⟩
  intro f hf method n args hop
  obtain ⟨i, hi⟩ := List.mem_iff_getElem?.mp hf
  have hglyph : ⟨w.id, w.sources.length, i, .text method, .int n⟩ ∈ w.glyphs :=
    mem_glyphs.mpr ⟨i, f, args, hi, hop, rfl, rfl, rfl⟩
  obtain ⟨n', hn', hlow, hhigh⟩ := hresolved _ hglyph
  obtain ⟨-, n'', hn'', hlimit⟩ := hplain _ hglyph
  obtain rfl := Value.int.inj hn'
  obtain rfl := Value.int.inj hn''
  obtain ⟨k, rfl⟩ := Int.eq_ofNat_of_zero_le hlow
  have hk : k < w.sources.length := by exact_mod_cast hhigh
  obtain ⟨names, hnames, hback, hcolumn, hrebuilt⟩ :=
    rebuilt_at hlists code group (List.getElem?_eq_getElem hk)
  obtain ⟨statement, hstatement, hin⟩ := Code.exists_statement hcode hf hop
  refine ⟨k, w.sources[k], names, rfl, hk,
    hin.trans (Code.contains_glyphOpening (by simpa using hlimit) hstatement),
    List.getElem?_eq_getElem hk, hcolumn, hnames, hback, fun htexts => ?_, hrebuilt⟩
  have hsame : List.Forall₂ (Json.ComesBack .refuse) w.sources[k].names w.sources[k].names := by
    refine List.forall₂_same.mpr fun name hname => ?_
    obtain ⟨t, rfl⟩ := htexts name hname
    exact Json.comesBack_text t
  exact Json.rightUnique_comesBack.forall₂ hback hsame

namespace Group

variable {g : Group} (hplain : ∀ glyph ∈ g.glyphs, glyph.Plain)
include hplain

/-- A group is refused if and only if some glyph goes by a position that its window has no source at. -/
theorem malformed_iff :
    (∃ fault, g.validate.fault? = some fault ∧ fault.kind = .malformedPlot) ↔
      ∃ w ∈ g.windows, ∃ f ∈ w.figures, ∃ (method : Value) (n : Int) (args : Arguments),
        .glyph method (.int n) args ∈ f.operations ∧ (n < 0 ∨ w.sources.length ≤ n) := by
  constructor
  · rintro ⟨fault, hfault, -⟩
    obtain ⟨before, glyph, after, method, n, hglyphs, -, -, hsource, hn, -⟩ :=
      exists_of_fault?_validate hplain hfault
    obtain ⟨w, hw, hglyph⟩ := List.mem_flatMap.mp (by simp [hglyphs] : glyph ∈ g.glyphs)
    obtain ⟨i, f, args, hf, hop, -, hsources, -⟩ := Window.mem_glyphs.mp hglyph
    rw [hsource] at hop
    exact ⟨w, hw, f, List.mem_of_getElem? hf, _, n, args, hop, by omega⟩
  · rintro ⟨w, hw, f, hf, method, n, args, hop, hn⟩
    obtain ⟨i, hi⟩ := List.mem_iff_getElem?.mp hf
    have hglyph : ⟨w.id, w.sources.length, i, method, .int n⟩ ∈ g.glyphs :=
      List.mem_flatMap.mpr ⟨w, hw, Window.mem_glyphs.mpr ⟨i, f, args, hi, hop, rfl, rfl, rfl⟩⟩
    cases hfault : g.validate.fault? with
    | none =>
      obtain ⟨n', hn', hrange⟩ := resolved_of_fault?_validate hplain hfault _ hglyph
      obtain rfl := Value.int.inj hn'
      exact absurd hrange (by simp only []; omega)
    | some fault =>
      obtain ⟨-, -, -, -, -, -, -, -, -, -, rfl⟩ := exists_of_fault?_validate hplain hfault
      exact ⟨_, rfl, rfl⟩

/-- Every text that the windows of an accepted group are sent as shows a window, and every glyph of it
finds its source. -/
theorem exists_glyphsResolve (haccepted : g.validate.fault? = none) {room : Room}
    {sent rest : List Frame} {x : String} (hsplit : windowFrames room g.windows = sent ++ .text x :: rest) :
    ∃ w ∈ g.windows, ∃ code group lists, w.GlyphsResolve room x code group lists ∧
      ∀ base, ∃ stack, Receiver.stackAfter base sent = some stack ∧
        Receiver.receive stack (.text x) = some (base, some (w.shownUnder code group lists)) := by
  obtain ⟨shown, w, ws, hwindows, hshown, rfl, hx⟩ := windowFrames_split hsplit
  have hw : w ∈ g.windows := by simp [hwindows]
  have hresolved := resolved_of_fault?_validate hplain haccepted
  have hmem (glyph : PlacedGlyph) (h : glyph ∈ w.glyphs) : glyph ∈ g.glyphs :=
    List.mem_flatMap.mpr ⟨w, hw, h⟩
  obtain ⟨code, group, lists, hresolve, hreceive⟩ :=
    Window.exists_glyphsResolve (fun glyph h => hplain glyph (hmem glyph h))
      (fun glyph h => hresolved glyph (hmem glyph h)) hx
  refine ⟨w, hw, code, group, lists, hresolve, fun base => ⟨w.stacked ++ base, ?_, hreceive base⟩⟩
  rw [Receiver.stackAfter_append, stackAfter_windowFrames hshown, Option.bind_some,
    w.stackAfter_columnFrames]

end Group

/-- The check accepts exactly the groups whose glyphs the browser can resolve. For glyphs with methods
of text and integers for sources, a group is refused if and only if some glyph names a position that
its window has no source at, and the fault tells the first of these. If the group is accepted, every
text that its windows are sent as shows a window, to a receiver on any stack, in which the code of each
glyph indexes the source that it goes by. Methods of text are `String`s: those with an unpaired surrogate
are left out, which code and faults show in quotes (`Value.interpolate`). -/
theorem accepted_glyphs_resolve (room : Room) (g : Group) (hplain : ∀ glyph ∈ g.glyphs, glyph.Plain) :
    ((∃ fault, g.validate.fault? = some fault ∧ fault.kind = .malformedPlot) ↔
        ∃ w ∈ g.windows, ∃ f ∈ w.figures, ∃ (method : Value) (n : Int) (args : Arguments),
          .glyph method (.int n) args ∈ f.operations ∧ (n < 0 ∨ w.sources.length ≤ n)) ∧
      (∀ fault, g.validate.fault? = some fault → ∃ before glyph after method, ∃ n : Int,
        g.glyphs = before ++ glyph :: after ∧ (∀ earlier ∈ before, earlier.Resolved) ∧
          glyph.method = .text method ∧ glyph.source = .int n ∧ (n < 0 ∨ glyph.sources ≤ n) ∧
          fault.kind = .malformedPlot ∧
          fault.message = "Glyph '" ++ method ++ "' of figure " ++ toString glyph.figure ++
            " in window '" ++ glyph.window ++ "' uses data source " ++ toString n ++
            ", but the window has " ++ toString glyph.sources) ∧
      (g.validate.fault? = none → ∀ sent x rest,
        Action.sends (g.windows.flatMap (Window.script room)) = sent ++ .text x :: rest →
        ∃ w ∈ g.windows, ∃ code group lists, w.GlyphsResolve room x code group lists ∧
          ∀ base, ∃ stack, Receiver.stackAfter base sent = some stack ∧
            Receiver.receive stack (.text x) = some (base, some (w.shownUnder code group lists))) := by
  refine ⟨Group.malformed_iff hplain, fun fault hfault => ?_, fun haccepted sent x rest hsplit => ?_⟩
  · obtain ⟨before, glyph, after, method, n, hglyphs, hbefore, hmethod, hsource, hn, rfl⟩ :=
      Group.exists_of_fault?_validate hplain hfault
    exact ⟨before, glyph, after, method, n, hglyphs, hbefore, hmethod, hsource, by omega, rfl, rfl⟩
  · rw [sends_windowScripts] at hsplit
    exact Group.exists_glyphsResolve hplain haccepted hsplit

/-- A window with two sources and a glyph that goes by a position. -/
def Window.drawing (n : Int) : Window :=
  let one := Double.ofInt 1
  let wide : Source := ⟨[(.text "x", [one, one]), (.text "y", [one, one])]⟩
  let narrow : Source := ⟨[(.text "z", [])]⟩
  ⟨"a", .text "g", [wide, narrow], [⟨"a", .text "g", [.glyph (.text "line") (.int n) []], [], []⟩]⟩

def Group.drawing (n : Int) : Group :=
  ⟨.text "g", 0, [Window.drawing n]⟩

theorem Group.plain_drawing {n : Int} (hn : n.natAbs < 10 ^ digitLimit) :
    ∀ glyph ∈ (Group.drawing n).glyphs, glyph.Plain := by
  intro glyph hglyph
  obtain rfl := List.mem_singleton.mp hglyph
  exact ⟨⟨"line", rfl⟩, n, rfl, hn⟩

theorem accepted_glyphs_resolve_drawing :
    ((∀ glyph ∈ (Group.drawing 1).glyphs, glyph.Plain) ∧ (Group.drawing 1).validate.fault? = none ∧
        ∃ sent x rest,
          Action.sends ((Group.drawing 1).windows.flatMap (Window.script .standard)) =
              sent ++ .text x :: rest ∧
          ∃ w ∈ (Group.drawing 1).windows, ∃ code group lists,
            w.GlyphsResolve .standard x code group lists ∧
            ∀ base, ∃ stack, Receiver.stackAfter base sent = some stack ∧
              Receiver.receive stack (.text x) =
                some (base, some (w.shownUnder code group lists))) ∧
      (∀ glyph ∈ (Group.drawing 2).glyphs, glyph.Plain) ∧
        ∃ fault, (Group.drawing 2).validate.fault? = some fault ∧ fault.kind = .malformedPlot := by
  have hone : ∀ glyph ∈ (Group.drawing 1).glyphs, glyph.Plain :=
    Group.plain_drawing (Nat.one_lt_pow (by decide) (by decide))
  have htwo : ∀ glyph ∈ (Group.drawing 2).glyphs, glyph.Plain :=
    Group.plain_drawing (Nat.lt_of_lt_of_le (by decide : 2 < 10 ^ 1)
      (Nat.pow_le_pow_right (by decide) (by decide)))
  have haccepted : (Group.drawing 1).validate.fault? = none := by rfl
  refine ⟨⟨hone, haccepted, ?_⟩, htwo, ?_⟩
  · have hany : ((Window.drawing 1).shownText .standard).toOption.any (fun _ => true) = true := by
      decide +kernel
    obtain ⟨x, hx, -⟩ := Json.exists_ok_of_any hany
    have hsends : Action.sends ((Group.drawing 1).windows.flatMap (Window.script .standard)) =
        (Window.drawing 1).columnFrames ++ .text x :: [] := by
      rw [sends_windowScripts, Group.drawing]
      simp only [windowFrames, hx]
    exact ⟨_, x, [], hsends, (accepted_glyphs_resolve .standard _ hone).2.2 haccepted _ x [] hsends⟩
  · refine (accepted_glyphs_resolve .standard _ htwo).1.mpr ?_
    exact ⟨_, List.mem_singleton_self _, _, List.mem_singleton_self _, _, 2, _,
      List.mem_singleton_self _, .inr (by decide)⟩

end PlotStream
