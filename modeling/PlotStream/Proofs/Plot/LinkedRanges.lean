import PlotStream.Proofs.Plot.Changes
import PlotStream.Proofs.Plot.CodeTrees
import PlotStream.Proofs.Plot.FigureCode
import PlotStream.Proofs.Wire.PlainMessages

/-!
# Ranges that are linked

A group hands out axes by number, and the figures of the group link their ranges to these. The code of
a figure synchronises each linked range under a key made of the group's identifier and the number of
the axis. The browser knows nothing but these keys, so they must tell axes apart, and axes of different
groups as well, whatever characters the identifiers have.

The numbers that a group hands out count up (`Group.axisReferences_eq`). A key ends with its last `#`
and the number behind it, which holds none, and the JSON of a key determines it (`Code.keyString_inj`).
-/

namespace PlotStream

/-! ## Axes -/

namespace BuilderCall

/-- Whether a call asks for a linked axis. -/
def asksAxis : BuilderCall → Bool
  | .newLinkedAxis => true
  | _ => false

end BuilderCall

namespace Group

/-- What a call is answered if it asks for a linked axis. -/
def axisReference? (g : Group) : BuilderCall → Option Nat
  | .newLinkedAxis =>
    match g.call .newLinkedAxis with
    | .ok (_, .number n) => some n
    | _ => none
  | _ => none

/-- The references that are handed out for linked axes during some calls. -/
def axisReferences (g : Group) : List BuilderCall → List Nat
  | [] => []
  | c :: calls => (g.axisReference? c).toList ++ (g.attempt c).axisReferences calls

/-- Only a call that asks for an axis counts one. The cases are those of the calls. -/
theorem linkedAxes_attempt (g : Group) (c : BuilderCall) :
    (g.attempt c).linkedAxes = g.linkedAxes + c.asksAxis.toNat := by
  rw [attempt]
  cases hcall : g.call c with
  | error fault =>
    cases c with
    | newLinkedAxis => cases hcall
    | _ => rfl
  | ok out =>
    have hchange : g.Change c.place out.1 := g.yields_call c out hcall
    cases c with
    | newWindow id =>
      obtain ⟨text, -, hcall⟩ := Json.exists_ok_of_bind hcall
      obtain rfl := Except.ok.inj hcall
      rfl
    | newLinkedAxis =>
      obtain rfl := Except.ok.inj hcall
      rfl
    | _ =>
      obtain ⟨g', answer⟩ := out
      cases hchange
      rfl

/-- The references handed out are the next numbers, one after the other. -/
theorem axisReferences_eq (g : Group) (calls : List BuilderCall) :
    g.axisReferences calls = List.range' (g.linkedAxes + 1) (calls.countP BuilderCall.asksAxis) := by
  induction calls generalizing g with
  | nil => rfl
  | cons c calls ih =>
    rw [axisReferences, ih, linkedAxes_attempt]
    cases c with
    | newLinkedAxis =>
      rw [List.countP_cons_of_pos rfl, List.range'_succ]
      rfl
    | _ =>
      rw [List.countP_cons_of_neg (by simp [BuilderCall.asksAxis])]
      rfl

end Group

/-! ## Keys -/

/-- Before the last of some sign, texts are the same if they are followed by the same. -/
theorem append_sign_inj {c : Char} {xs xs' ys ys' : List Char} (hys : c ∉ ys) (hys' : c ∉ ys')
    (h : xs ++ c :: ys = xs' ++ c :: ys') : xs = xs' ∧ ys = ys' := by
  rcases List.append_eq_append_iff.mp h with ⟨more, rfl, hmore⟩ | ⟨more, rfl, hmore⟩
  · cases more with
    | nil => exact ⟨(List.append_nil _).symm, (List.cons.inj hmore).2⟩
    | cons d more => exact absurd (by simp [(List.cons.inj hmore).2]) hys
  · cases more with
    | nil => exact ⟨List.append_nil _, (List.cons.inj hmore).2.symm⟩
    | cons d more => exact absurd (by simp [(List.cons.inj hmore).2]) hys'

theorem hash_not_mem_intText (n : Int) : '#' ∉ intText n := by
  intro h
  have hchar := (Json.isAtom_intText n).chars _ h
  revert hchar
  decide

namespace Code

/-- The string that a range linked to an axis of a group is synchronised under, as it stands in code. -/
def keyString (room : Nat) (group axis : Value) : Except Fault String := do
  json room (.text (← linkKey group axis))

section Keys

variable {room room' : Nat}

theorem exists_of_keyString {id key : String} {axis : Int}
    (h : keyString room (.text id) (.int axis) = .ok key) :
    axis.natAbs < 10 ^ digitLimit ∧ ∃ text : String,
      text.toList = "rng@".toList ++ id.toList ++ '#' :: intText axis ∧
      key.toList = Json.stringText (Text.codes text) := by
  obtain ⟨text, htext, hkey⟩ := Json.exists_ok_of_bind h
  obtain ⟨group, hgroup, htext⟩ := Json.exists_ok_of_bind htext
  obtain ⟨number, hnumber, htext⟩ := Json.exists_ok_of_bind htext
  obtain ⟨hlimit, hdigits⟩ := Value.interpolate_int hnumber
  obtain rfl : id = group := Except.ok.inj hgroup
  obtain rfl := Except.ok.inj htext
  refine ⟨hlimit, _, ?_, json_of_string? rfl hkey⟩
  have hhash : "#".toList = ['#'] := rfl
  simp only [String.toList_append, hdigits, hhash, List.append_assoc, List.cons_append, List.nil_append]

/-- Key strings are the same exactly for the same axis of the same group, whatever room there was to write
them. -/
theorem keyString_inj {id id' key key' : String} {axis axis' : Int}
    (h : keyString room (.text id) (.int axis) = .ok key)
    (h' : keyString room' (.text id') (.int axis') = .ok key') :
    key = key' ↔ id = id' ∧ axis = axis' := by
  obtain ⟨hlimit, text, htext, hkey⟩ := exists_of_keyString h
  obtain ⟨hlimit', text', htext', hkey'⟩ := exists_of_keyString h'
  constructor
  · rintro rfl
    have hstring :
        Json.stringText (Text.codes text) ++ [] = Json.stringText (Text.codes text') ++ [] := by
      rw [← hkey, ← hkey']
    obtain ⟨rfl, -⟩ := Tree.string_inj hstring
    rw [htext] at htext'
    obtain ⟨hid, hdigits⟩ := append_sign_inj (hash_not_mem_intText _) (hash_not_mem_intText _) htext'
    have hnumber : intText axis ++ ']' :: [] = intText axis' ++ ']' :: [] := by rw [hdigits]
    exact ⟨String.toList_inj.mp (List.append_cancel_left hid),
      (OperationTree.intText_inj hlimit hlimit' hnumber).1⟩
  · rintro ⟨rfl, rfl⟩
    obtain rfl : text = text' := String.toList_inj.mp (htext.trans htext'.symm)
    exact String.toList_inj.mp (hkey.trans hkey'.symm)

end Keys

/-! ## Synchronised ranges -/

/-- The line that synchronises a range under a key string. -/
def syncLine (range key : String) : String :=
  "syncRange(fig." ++ range ++ ", " ++ key ++ ");\n"

/-- The name and the key string that a linked range is synchronised with. -/
def IsSync (room : Nat) (group : Value) (link : Value × Value) (sync : String × String) : Prop :=
  link.1.interpolate = .ok sync.1 ∧ keyString room group link.2 = .ok sync.2

/-- The code of a figure synchronises ranges under key strings, line by line and one line for each
linked range, behind its operations and before it is shown. -/
def Syncs (room : Nat) (f : Figure) (code : String) (syncs : List (String × String)) : Prop :=
  List.Forall₂ (IsSync room f.groupId) f.links syncs ∧
    ∃ statements members,
      List.Forall₂ (IsStatement room) f.operations statements ∧
      List.Forall₂ (IsMember room) f.arguments members ∧
      code = "(async function(fig) \x7b\n" ++ String.join statements ++
        String.join (syncs.map fun sync => syncLine sync.1 sync.2) ++
        "Bokeh.Plotting.show(fig);\n" ++ "\x7d)(Bokeh.Plotting.figure(" ++ object members ++ "))\n"

section Lines

variable {room : Nat}

theorem exists_sync {group : Value} {link : Value × Value} {line : String}
    (h : appendLink room "" group link.1 link.2 = .ok line) :
    ∃ sync, IsSync room group link sync ∧ line = syncLine sync.1 sync.2 := by
  rw [appendLink_empty] at h
  obtain ⟨range, hrange, h⟩ := Json.exists_ok_of_bind h
  obtain ⟨text, htext, h⟩ := Json.exists_ok_of_bind h
  obtain ⟨key, hkey, h⟩ := Json.exists_ok_of_bind h
  obtain rfl := Except.ok.inj h
  refine ⟨(range, key), ⟨hrange, ?_⟩, rfl⟩
  rw [keyString, htext]
  exact hkey

theorem exists_syncs_of_lines {group : Value} {links : List (Value × Value)} {lines : List String}
    (h : List.Forall₂ (fun link line => appendLink room "" group link.1 link.2 = .ok line) links lines) :
    ∃ syncs, List.Forall₂ (IsSync room group) links syncs ∧
      lines = syncs.map fun sync => syncLine sync.1 sync.2 := by
  induction h with
  | nil => exact ⟨[], .nil, rfl⟩
  | cons hline _ ih =>
    obtain ⟨sync, hsync, rfl⟩ := exists_sync hline
    obtain ⟨syncs, hsyncs, rfl⟩ := ih
    exact ⟨sync :: syncs, .cons hsync hsyncs, rfl⟩

theorem exists_syncs {f : Figure} {code : String} (h : ofFigure room f = .ok code) :
    ∃ syncs, Syncs room f code syncs := by
  obtain ⟨statements, lines, members, hstatements, hlines, hmembers, rfl⟩ := ofFigure_eq_ok_iff.mp h
  obtain ⟨syncs, hsyncs, rfl⟩ := exists_syncs_of_lines hlines
  exact ⟨syncs, hsyncs, statements, members,
    hstatements.imp fun _ _ => appendOperation_eq_ok_iff.mp, hmembers, rfl⟩

end Lines

end Code

/-! ## Figures of groups -/

/-- A figure that compiles, of a group that some calls have filled. -/
structure CompiledFigure where
  room : Nat
  group : String
  calls : List BuilderCall
  window : Nat
  position : Nat
  figure : Figure
  code : String
  placed : ((Group.blank (.text group)).attemptAll calls).figure window position = .ok figure
  compiled : Code.ofFigure room figure = .ok code

namespace CompiledFigure

variable (x : CompiledFigure)

/-- The ranges that calls have linked on the figure, in the order of the calls. -/
def linked : List (Value × Value) :=
  (BuilderCall.parts x.window x.position ((Group.blank (.text x.group)).accepted x.calls)).filterMap
    FigurePart.link?

theorem filled : x.figure.groupId = .text x.group ∧ x.figure.links = Entries.ofList x.linked := by
  have htold := (Group.told_blank (.text x.group)).attemptAll x.calls
  rw [List.nil_append] at htold
  obtain ⟨args, -, hfilled⟩ := htold.filled x.placed
  exact ⟨hfilled.groupId, hfilled.links⟩

/-- What a range is synchronised under, by its place among the linked ranges. -/
theorem keyString_eq {syncs : List (String × String)} (h : Code.Syncs x.room x.figure x.code syncs)
    {n : Nat} {range axis : Value} {sync : String × String} (hlink : x.figure.links[n]? = some (range, axis))
    (hsync : syncs[n]? = some sync) : Code.keyString x.room (.text x.group) axis = .ok sync.2 := by
  obtain ⟨hn, hlink⟩ := List.getElem?_eq_some_iff.mp hlink
  obtain ⟨hn', rfl⟩ := List.getElem?_eq_some_iff.mp hsync
  have hkey := (h.1.get hn hn').2
  rw [List.get_eq_getElem, hlink, x.filled.1] at hkey
  exact hkey

end CompiledFigure

/-- Ranges are synchronised exactly if they have been linked to the same axis of the same group. In a
run of any calls a group hands out references that are all different. The code of a figure has one
line for each range that calls have linked on it, under the axis that it was linked to last. And the
key strings of two such lines, of any figures of any groups, are the same if and only if the groups
have the same identifier and the references are the same. -/
theorem synchronised_iff_linked :
    (∀ (g : Group) (calls : List BuilderCall), (g.axisReferences calls).Nodup) ∧
      (∀ x : CompiledFigure, x.figure.links = Entries.settled x.linked ∧
        Entries.Distinct x.figure.links ∧ ∃ syncs, Code.Syncs x.room x.figure x.code syncs) ∧
      ∀ (x x' : CompiledFigure) (syncs syncs' : List (String × String)),
        Code.Syncs x.room x.figure x.code syncs → Code.Syncs x'.room x'.figure x'.code syncs' →
        ∀ (n n' : Nat) (range range' : Value) (axis axis' : Int) (sync sync' : String × String),
          x.figure.links[n]? = some (range, .int axis) → syncs[n]? = some sync →
          x'.figure.links[n']? = some (range', .int axis') → syncs'[n']? = some sync' →
          (sync.2 = sync'.2 ↔ x.group = x'.group ∧ axis = axis') := by
  refine ⟨fun g calls => ?_, fun x => ?_, ?_⟩
  · rw [Group.axisReferences_eq]
    exact List.nodup_range'
  · refine ⟨?_, ?_, Code.exists_syncs x.compiled⟩
    · rw [x.filled.2, Entries.ofList_eq_settled]
    · rw [x.filled.2]
      exact Entries.distinct_ofList _
  · intro x x' syncs syncs' hsyncs hsyncs' n n' range range' axis axis' sync sync'
      hlink hsync hlink' hsync'
    exact Code.keyString_inj (x.keyString_eq hsyncs hlink hsync) (x'.keyString_eq hsyncs' hlink' hsync')

/-- The calls that link one range of a figure. -/
def linkingCalls (axis : Int) : List BuilderCall :=
  [.newWindow (.text "w"), .newFigure 0 .none [], .newLinkedAxis,
    .linkAxis 0 0 (.text "x_range") (.int axis)]

/-- An identifier that ends like a key, and one that its beginning is. -/
theorem synchronised_iff_linked_hash :
    ∃ (x x' : CompiledFigure) (syncs syncs' : List (String × String)) (sync sync' : String × String),
      x.group = "g#1" ∧ x'.group = "g" ∧ Code.Syncs x.room x.figure x.code syncs ∧
        Code.Syncs x'.room x'.figure x'.code syncs' ∧
        x.figure.links[0]? = some (.text "x_range", .int 2) ∧ syncs[0]? = some sync ∧
        x'.figure.links[0]? = some (.text "x_range", .int 12) ∧ syncs'[0]? = some sync' ∧
        sync.2 ≠ sync'.2 := by
  let figure (group : String) (axis : Int) : Figure :=
    { Figure.blank "w" (.text group) with links := [(.text "x_range", .int axis)] }
  have hany : (Code.ofFigure 1000 (figure "g#1" 2)).toOption.any (fun _ => true) = true := by
    decide +kernel
  have hany' : (Code.ofFigure 1000 (figure "g" 12)).toOption.any (fun _ => true) = true := by
    decide +kernel
  obtain ⟨code, hcode, -⟩ := Json.exists_ok_of_any hany
  obtain ⟨code', hcode', -⟩ := Json.exists_ok_of_any hany'
  let x : CompiledFigure := ⟨1000, "g#1", linkingCalls 2, 0, 0, figure "g#1" 2, code, rfl, hcode⟩
  let x' : CompiledFigure := ⟨1000, "g", linkingCalls 12, 0, 0, figure "g" 12, code', rfl, hcode'⟩
  obtain ⟨-, hcompiled, hsame⟩ := synchronised_iff_linked
  obtain ⟨-, -, syncs, hsyncs⟩ := hcompiled x
  obtain ⟨-, -, syncs', hsyncs'⟩ := hcompiled x'
  obtain ⟨sync, hsync⟩ : ∃ sync, syncs[0]? = some sync :=
    ⟨_, List.getElem?_eq_getElem (by rw [← hsyncs.1.length_eq]; exact Nat.one_pos)⟩
  obtain ⟨sync', hsync'⟩ : ∃ sync', syncs'[0]? = some sync' :=
    ⟨_, List.getElem?_eq_getElem (by rw [← hsyncs'.1.length_eq]; exact Nat.one_pos)⟩
  have hiff := hsame x x' syncs syncs' hsyncs hsyncs' 0 0 _ _ 2 12 sync sync' rfl hsync rfl hsync'
  refine ⟨x, x', syncs, syncs', sync, sync', rfl, rfl, hsyncs, hsyncs', rfl, hsync, rfl, hsync', ?_⟩
  intro heq
  exact absurd (hiff.mp heq).2 (by decide)

end PlotStream
