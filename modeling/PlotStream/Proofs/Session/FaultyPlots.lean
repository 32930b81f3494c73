import PlotStream.Proofs.Session.Outcome

/-!
# Plots that cannot be shown

The check of a group looks at the data sources of its glyphs. Whether a window compiles, and whether
the message that shows it can be written, turns out only when the columns of the window have gone out.
`frames_of_faulty_plot` says what a call leaves behind that ends with a fault of its plot: nothing, if
its procedure or the check has failed; and all frames of its group up to the columns of a window that
cannot be shown otherwise. So the check does not keep such a plot from the browser
(`frames_of_plot_with_set`).
-/

namespace PlotStream

/-- Every text of a group can be made: its announcement, and the text that shows each window. -/
def Group.Presentable (room : Room) (g : Group) : Prop :=
  (∃ s, g.announcement room = .ok s) ∧ ∀ w ∈ g.windows, ∃ s, w.shownText room = .ok s

section Texts

variable {room : Room}

/-- A window whose text can be made does not fail. -/
theorem Window.not_fail_of_shown {w : Window} {s : String} (h : w.shownText room = .ok s)
    (fault : Fault) : .fail fault ∉ w.script room := by
  intro hfail
  rcases List.mem_append.mp hfail with hfail | hfail
  · obtain ⟨f, -, hf⟩ := List.mem_map.mp hfail
    cases hf
  · unfold Window.shownText at h
    cases hcode : Code.ofWindow room.calls w with
    | error cause =>
      rw [hcode] at h
      cases h
    | ok code =>
      rw [hcode] at h hfail
      have htext : (w.message code).toJson room.calls = .ok s := h
      simp [htext, Action.sendText] at hfail

/-- A script fails only where a text of its group cannot be made. -/
theorem Group.not_presentable_of_fail {g : Group} {fault : Fault} (h : .fail fault ∈ g.script room) :
    ¬ g.Presentable room := by
  rintro ⟨⟨s, hs⟩, hwindows⟩
  rcases List.mem_cons.mp h with h | h
  · rw [hs] at h
    cases h
  · obtain ⟨w, hw, hfail⟩ := List.mem_flatMap.mp h
    obtain ⟨text, htext⟩ := hwindows w hw
    exact Window.not_fail_of_shown htext fault hfail

/-- The text of a window whose script does not fail can be made. -/
theorem Window.shown_of_not_fail {w : Window} (h : ∀ fault, .fail fault ∉ w.script room) :
    ∃ s, w.shownText room = .ok s := by
  unfold Window.shownText
  unfold Window.script at h
  cases hcode : Code.ofWindow room.calls w with
  | error fault =>
    rw [hcode] at h
    exact absurd (by simp) (h fault)
  | ok code =>
    rw [hcode] at h
    cases htext : (w.message code).toJson room.calls with
    | ok s => exact ⟨s, htext⟩
    | error fault => exact absurd (by simp [htext, Action.sendText]) (h fault)

/-- A script that does not fail makes all texts of its group. -/
theorem Group.presentable_of_not_fail {g : Group} (h : ∀ fault, .fail fault ∉ g.script room) :
    g.Presentable room := by
  constructor
  · cases hannounced : g.announcement room with
    | ok s => exact ⟨s, rfl⟩
    | error fault =>
      refine absurd ?_ (h fault)
      rw [script, hannounced]
      exact List.mem_cons_self ..
  · intro w hw
    refine Window.shown_of_not_fail fun fault hmem => h fault ?_
    exact List.mem_cons_of_mem _ (List.mem_flatMap.mpr ⟨w, hw, hmem⟩)

end Texts

/-- The procedure of a call fails with a fault, or the check of its group does, when the call has done
`mine`. What fails in a procedure is one of its steps by itself, or a socket refuses to be connected. -/
def PlotCall.FailsEarly (room : Room) (call : PlotCall) (mine : List Event) (fault : Fault) : Prop :=
  call.built room = .error fault ∨ (∃ s, .refused s fault ∈ mine) ∨
    ∃ g, call.built room = .ok g ∧ g.validate.fault? = some fault

/-- A call that fails, and neither as a send does nor by being cancelled, has failed before it asked
for the lease, or at a text of its group that could not be made. -/
theorem PlotExit.of_fault {w : World} {call : PlotCall} {t : TaskId} {es : List Event}
    {outcome : Except Fault TaskResult} {fault : Fault} (h : PlotExit w call t es outcome)
    (hfault : outcome = .error fault) (htransport : fault.kind ≠ .transport)
    (hcancelled : fault.kind ≠ .cancelled) :
    (call.FailsEarly w.room es fault ∧ deliveries es = [] ∧ askOrder es = []) ∨
      ∃ g s, call.Yields w.room g ∧ ¬ g.Presentable w.room ∧ grants es = [(t, some s)] ∧
        deliveries es = (g.frames w.room).map (s, ·) := by
  cases h with
  | idle | refused | streamed => cases hfault
  | notBuilt hbuilt hasked _ hsmooth =>
    cases hfault
    exact .inl ⟨.inl hbuilt, hsmooth.sent, hasked⟩
  | notConnected hrefused hasked _ hsent =>
    cases hfault
    exact .inl ⟨.inr (.inl ⟨_, hrefused⟩), hsent, hasked⟩
  | malformed hbuilt hcause hasked _ hsmooth =>
    cases hfault
    exact .inl ⟨.inr (.inr ⟨_, hbuilt, hcause⟩), hsmooth.sent, hasked⟩
  | cancelled =>
    cases hfault
    exact absurd rfl hcancelled
  | cut _ _ _ _ _ _ _ hcause =>
    cases hfault
    rcases hcause with rfl | ⟨frame, detail, rfl⟩
    · exact absurd rfl hcancelled
    · exact absurd rfl htransport
  | broken hbuilt hgranted hsmooth hfail =>
    exact .inr ⟨_, _, hbuilt, Group.not_presentable_of_fail hfail, hgranted, hsmooth.sent⟩

/-- What a call leaves behind that ends with a fault of its plot, and not of the connection. If its
procedure or the check of its group has failed, it has sent nothing and has not asked for the lease.
Otherwise some text of its group cannot be made, and it has sent all frames of the group, which end
with the columns of the first window that cannot be shown. -/
theorem frames_of_faulty_plot {world : World} {moves : List Move}
    (hfair : (Hub.initial world).Fair moves) {t : TaskId} {name name' : String} {call : PlotCall}
    {fault : Fault} (htransport : fault.kind ≠ .transport) (hcancelled : fault.kind ≠ .cancelled) :
    let es := ((Hub.initial world).run moves).events
    let sent := deliveries (own t es)
    .started t name (.plot call) ∈ es → .ended t name' (.error fault) ∈ es →
    (call.FailsEarly world.room (own t es) fault ∧ sent = [] ∧ t ∉ askOrder es) ∨
      ∃ g s, call.Yields world.room g ∧ ¬ g.Presentable world.room ∧ GrantedOver es t s ∧
        sent = (g.frames world.room).map (s, ·) := by
  intro es sent hstarted hended
  have hreach : Scene.Reachable world (((Hub.initial world).run moves).scene none) :=
    Hub.run_reachable hfair
  have hsigned : Signed none es := hreach.signed
  have hexit : PlotExit world call t (own t es) (.error fault) := hreach.plotExit hstarted hended
  rcases hexit.of_fault rfl htransport hcancelled with
    ⟨hearly, hsent, hasked⟩ | ⟨g, s, hyields, hshown, hgranted, hsent⟩
  · refine .inl ⟨hearly, hsent, fun hmem => ?_⟩
    rw [askOrder_own hsigned] at hasked
    exact absurd (List.filter_eq_nil_iff.mp hasked t hmem) (by simp)
  · exact .inr ⟨g, s, hyields, hshown, grantedOver_of_own hsigned hreach.truthful hgranted, hsent⟩

/-- A call that shows one column and a figure whose title is a set. -/
def PlotCall.titledBySet : PlotCall :=
  ⟨.text "g", [.call (.newWindow (.text "a")),
    .call (.addSource 0 (.dict [(.text "x", .list [.int 1])])), .call (.newFigure 0 .none []),
    .call (.setFigureArg 0 0 (.text "title") (.set [.int 1]))], false⟩

def PlotCall.isTitledBySet : PlotCall → Bool
  | ⟨.text "g", [.call (.newWindow (.text "a")),
      .call (.addSource 0 (.dict [(.text "x", .list [.int 1])])), .call (.newFigure 0 .none []),
      .call (.setFigureArg 0 0 (.text "title") (.set [.int 1]))], false⟩ => true
  | _ => false

theorem PlotCall.eq_titledBySet {call : PlotCall} (h : call.isTitledBySet = true) :
    call = .titledBySet := by
  unfold isTitledBySet at h
  split at h
  · rfl
  · cases h

/-- A browser connects, and this plot is streamed to it. -/
def plotWithSet : List Move :=
  [.start ⟨"browser", .connect "s" none, false⟩, .tick,
    .start ⟨"p", .plot .titledBySet, false⟩, .tick]

theorem plotWithSet_fair : (Hub.initial World.ideal).Fair plotWithSet := by
  simp [plotWithSet, Hub.Fair]

theorem plotWithSet_started :
    .started 1 "p" (.plot .titledBySet) ∈ ((Hub.initial World.ideal).run plotWithSet).events :=
  mem_of_any_startsPlot (fun _ => PlotCall.eq_titledBySet) (by decide +kernel)

theorem plotWithSet_ended : .ended 1 "p" (.error (.notEncodable "set")) ∈
    ((Hub.initial World.ideal).run plotWithSet).events :=
  mem_of_any_endsIn (by decide +kernel)

theorem frames_of_faulty_plot_with_set :
    ((Hub.initial World.ideal).Fair plotWithSet ∧
      .started 1 "p" (.plot .titledBySet) ∈ ((Hub.initial World.ideal).run plotWithSet).events ∧
      .ended 1 "p" (.error (.notEncodable "set")) ∈
        ((Hub.initial World.ideal).run plotWithSet).events) ∧
    ((PlotCall.titledBySet.FailsEarly .standard
          (own 1 ((Hub.initial World.ideal).run plotWithSet).events) (.notEncodable "set") ∧
        deliveries (own 1 ((Hub.initial World.ideal).run plotWithSet).events) = [] ∧
        1 ∉ askOrder ((Hub.initial World.ideal).run plotWithSet).events) ∨
      ∃ g s, PlotCall.titledBySet.Yields .standard g ∧ ¬ g.Presentable .standard ∧
        GrantedOver ((Hub.initial World.ideal).run plotWithSet).events 1 s ∧
        deliveries (own 1 ((Hub.initial World.ideal).run plotWithSet).events) =
          (g.frames .standard).map (s, ·)) :=
  ⟨⟨plotWithSet_fair, plotWithSet_started, plotWithSet_ended⟩,
    frames_of_faulty_plot plotWithSet_fair nofun nofun plotWithSet_started plotWithSet_ended⟩

/-- A plot whose title is a set passes the check, and fails when its column has gone out. -/
theorem frames_of_plot_with_set :
    (Hub.initial World.ideal).Fair plotWithSet ∧
    .started 1 "p" (.plot .titledBySet) ∈ ((Hub.initial World.ideal).run plotWithSet).events ∧
    .ended 1 "p" (.error (.notEncodable "set")) ∈
      ((Hub.initial World.ideal).run plotWithSet).events ∧
    (Fault.notEncodable "set").kind ≠ .transport ∧ (Fault.notEncodable "set").kind ≠ .cancelled ∧
    deliveries (own 1 ((Hub.initial World.ideal).run plotWithSet).events) =
      [("s", .text "\x7b\"type\": \"msg\", \"msgText\": \"total plot data size: 0.0 MB\"\x7d"),
        ("s", .binary (columnBytes [.ofInt 1]))] := by
  refine ⟨plotWithSet_fair, plotWithSet_started, plotWithSet_ended, nofun, nofun, ?_⟩
  decide +kernel

end PlotStream
