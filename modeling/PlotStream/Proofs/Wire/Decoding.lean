import PlotStream.Proofs.Wire.Messages
import PlotStream.Session.Procedure
import PlotStream.Wire.Receiver

/-!
# The receiver undoes the stream

The columns of a window arrive on the receiver's stack, and the message that shows the window takes
exactly those off again. Three reversals cancel: the columns of a source are sent from the last to
the first, the lists of names go from the last source to the first, and the stack gives back what
came last. `Window.TextNamed.receive_message` is the statement for one window, over any stack underneath.
-/

namespace PlotStream

/-- A source as the receiver should rebuild it: its names with the bytes of their columns. -/
def Source.rebuilt (s : Source) : RebuiltSource :=
  s.columns.map fun c => (c.1, columnBytes c.2)

/-- The bytes of the columns of a source, in the order of their names. -/
def Source.columnBytes (s : Source) : List (List UInt8) :=
  s.values.map PlotStream.columnBytes

/-- A source as the receiver rebuilds it under names that have arrived for it. -/
def Source.rebuiltUnder (s : Source) (names : List Value) : RebuiltSource :=
  names.zip s.columnBytes

theorem Source.rebuiltUnder_names (s : Source) : s.rebuiltUnder s.names = s.rebuilt := by
  simp [rebuiltUnder, names, columnBytes, values, rebuilt, Entries.keys, List.zip_map']

/-- The binary frames of a window as the receiver stacks them, the latest first. -/
def Window.stacked (w : Window) : FrameStack :=
  w.sources.reverse.flatMap Source.columnBytes

namespace Receiver

/-- Take in frames in order: for each the stack behind it and the window it shows, if any. -/
def receiveEach (stack : FrameStack) : List Frame → Option (List (FrameStack × Option ShownWindow))
  | [] => some []
  | f :: fs => do
    let step ← receive stack f
    let steps ← receiveEach step.1 fs
    return step :: steps

/-! ## Stacking -/

/-- Binary frames are stacked and show nothing. -/
theorem receiveEach_binary_append (bs : List (List UInt8)) (stack : FrameStack) :
    ∃ quiet : List (FrameStack × Option ShownWindow), (∀ step ∈ quiet, step.2 = none) ∧
      ∀ fs, receiveEach stack (bs.map Frame.binary ++ fs) =
        (receiveEach (bs.reverse ++ stack) fs).map (quiet ++ ·) := by
  induction bs generalizing stack with
  | nil => exact ⟨[], by simp, fun fs => by simp⟩
  | cons b bs ih =>
    obtain ⟨quiet, hquiet, hrest⟩ := ih (b :: stack)
    refine ⟨(b :: stack, none) :: quiet, by simpa using hquiet, fun fs => ?_⟩
    rw [List.map_cons, List.cons_append, receiveEach, receive, Option.bind_eq_bind,
      Option.bind_some, hrest fs, List.reverse_cons, List.append_assoc, List.singleton_append]
    cases receiveEach (bs.reverse ++ b :: stack) fs <;> rfl

/-! ## Unstacking -/

theorem popSource_under {names : List Value} {columns : List (List UInt8)}
    (h : names.length = columns.length) (stack : FrameStack) :
    popSource (columns ++ stack) names = some (names.zip columns, stack) := by
  induction names generalizing columns with
  | nil =>
    obtain rfl := List.length_eq_zero_iff.mp h.symm
    simp [popSource]
  | cons name names ih =>
    cases columns with
    | nil => cases h
    | cons bytes columns =>
      rw [List.cons_append, popSource, ih (Nat.succ.inj h)]
      rfl

/-- Sources that were stacked from the last to the first are rebuilt in order, each under the names
that come for it. -/
theorem popSources_under {sources : List Source} {lists : List (List Value)}
    (h : List.Forall₂ (fun s names => names.length = s.columnBytes.length) sources lists)
    (stack : FrameStack) :
    popSources (sources.flatMap Source.columnBytes ++ stack) lists =
      some ((List.zipWith Source.rebuiltUnder sources lists).reverse, stack) := by
  induction h with
  | nil => rfl
  | cons hs _ ih =>
    rw [List.flatMap_cons, List.append_assoc, popSources, popSource_under hs]
    simp [ih, Source.rebuiltUnder]

theorem nameLists?_lists (lists : List (List Value)) :
    nameLists? (lists.map Value.list) = some lists := by
  induction lists with
  | nil => rfl
  | cons names lists ih => rw [List.map_cons, nameLists?, ih, Option.map_some]

end Receiver

/-! ## One window -/

theorem Source.frames_eq (s : Source) : s.frames = s.columnBytes.reverse.map Frame.binary := by
  simp [Source.frames, Source.columnBytes, Source.values, ← List.map_reverse, List.map_map,
    Function.comp_def]

namespace Window

/-- The names of all columns are text. -/
def ColumnsNamed (w : Window) : Prop :=
  ∀ s ∈ w.sources, ∀ name ∈ s.names, ∃ t, name = .text t

/-- The names in a window are text: those of its group and of all columns. -/
structure TextNamed (w : Window) : Prop where
  group : ∃ id, w.groupId = .text id
  columns : w.ColumnsNamed

/-- What the receiver should show for a window with its code. -/
def expected (w : Window) (code : String) : ShownWindow :=
  ⟨w.groupId, .text w.id, .text code, w.sources.map Source.rebuilt⟩

theorem columnFrames_eq (w : Window) : w.columnFrames = w.stacked.reverse.map Frame.binary := by
  have hstacked : w.stacked.reverse = w.sources.flatMap fun s => s.columnBytes.reverse := by
    rw [stacked, List.reverse_flatMap]
    simp [Function.comp_def]
  rw [columnFrames, hstacked, List.map_flatMap]
  exact List.flatMap_congr fun s _ => s.frames_eq

theorem columnNames_eq (w : Window) :
    w.columnNames = (w.sources.reverse.map Source.names).map Value.list := by
  simp [columnNames, List.map_reverse]

end Window

/-- Lists of names come back as other lists, name by name. -/
def Json.ListsComeBack (lists lists' : List (List Value)) : Prop :=
  List.Forall₂ (List.Forall₂ (ComesBack .refuse)) lists lists'

/-- Lists of texts come back as they are. -/
theorem Json.listsComeBack_texts {lists : List (List Value)}
    (h : ∀ vs ∈ lists, ∀ v ∈ vs, ∃ t, v = Value.text t) : ListsComeBack lists lists := by
  refine List.forall₂_same.mpr fun vs hvs => List.forall₂_same.mpr fun v hv => ?_
  obtain ⟨t, rfl⟩ := h vs hvs v hv
  exact comesBack_text t

namespace Message

theorem distinct_members_call (name args : Value) : Entries.Distinct (call name args).members := by
  simp [Entries.Distinct, Entries.keys, members, call, kindKey]

/-- The call that shows a window is read as it was written, but for its group and the names. -/
theorem comesBack_plotWindow {group group' : Value} (hgroup : Json.ComesBack .refuse group group')
    (window code : String) {lists lists' : List (List Value)} (h : Json.ListsComeBack lists lists') :
    List.Forall₂ (Json.MemberComesBack .refuse)
      (plotWindow group (.text window) (.list (lists.map Value.list)) (.text code)).fields
      (plotWindow group' (.text window) (.list (lists'.map Value.list)) (.text code)).fields := by
  have hlists : Json.ComesBack .refuse (.list (lists.map Value.list))
      (.list (lists'.map Value.list)) := by
    refine Json.comesBack_list (List.forall₂_map_left_iff.mpr (List.forall₂_map_right_iff.mpr ?_))
    exact List.Forall₂.imp (fun _ _ => Json.comesBack_list) h
  have hargs := Json.comesBack_list (.cons hgroup (.cons (Json.comesBack_text window)
    (.cons hlists (.cons (Json.comesBack_text code) .nil))))
  exact .cons (.intro "name" (Json.comesBack_text "plotWin")) (.cons (.intro "args" hargs) .nil)

end Message

namespace Window

/-- What the receiver shows for a window with its code when a group and lists of names have arrived,
the list for the last source first. -/
def shownUnder (w : Window) (code : String) (group : Value) (lists : List (List Value)) : ShownWindow :=
  ⟨group, .text w.id, .text code,
    (List.zipWith Source.rebuiltUnder w.sources.reverse lists).reverse⟩

theorem shownUnder_names (w : Window) (code : String) (group : Value) :
    w.shownUnder code group (w.sources.reverse.map Source.names) = { w.expected code with group } := by
  have hsources : List.zipWith Source.rebuiltUnder w.sources.reverse
      (w.sources.reverse.map Source.names) = (w.sources.map Source.rebuilt).reverse := by
    rw [List.zipWith_map_right, ← List.map_reverse, List.zipWith_self]
    exact List.map_congr_left fun s _ => s.rebuiltUnder_names
  rw [shownUnder, hsources, List.reverse_reverse, expected]

/-- Where the message of a window goes out, what arrives is the group and the names as they come back, and
the receiver takes the columns of the window off its stack to show the window under these. -/
theorem receive_lists {w : Window} {group : Value}
    (hgroup : Json.ComesBack .refuse w.groupId group) {lists : List (List Value)}
    (hlists : Json.ListsComeBack (w.sources.reverse.map Source.names) lists) {room : Nat}
    {code s : String} (hs : (w.message code).toJson room = .ok s) :
    Message.ofJson s = .ok (Message.plotWindow group (.text w.id)
        (.list (lists.map Value.list)) (.text code)) ∧
      ∀ stack, Receiver.receive (w.stacked ++ stack) (.text s) =
        some (stack, some (w.shownUnder code group lists)) := by
  have hfields := Message.comesBack_plotWindow hgroup w.id code hlists
  rw [← columnNames_eq] at hfields
  have hmessage : Message.ofJson s = .ok (Message.plotWindow group (.text w.id)
      (.list (lists.map Value.list)) (.text code)) :=
    Message.ofJson_of_toJson hfields (Message.distinct_members_call _ _) hs
  refine ⟨hmessage, fun stack => ?_⟩
  have hcall : Receiver.plotWindow? (Message.plotWindow group (.text w.id)
      (.list (lists.map Value.list)) (.text code)) =
        some (group, .text w.id, lists, .text code) := by
    simp only [Message.plotWindow, Message.call, Receiver.plotWindow?, Receiver.nameLists?_lists,
      Option.map_some]
  have hlengths : List.Forall₂ (fun s names => names.length = s.columnBytes.length)
      w.sources.reverse lists := by
    refine List.Forall₂.imp (fun s names h => ?_) (List.forall₂_map_left_iff.mp hlists)
    rw [← h.length_eq]
    simp [Source.names, Entries.keys, Source.columnBytes, Source.values]
  have hpop := Receiver.popSources_under hlengths stack
  rw [← stacked] at hpop
  simp only [Receiver.receive, hmessage, hcall, hpop, Option.map_some, shownUnder]

theorem ColumnsNamed.listsComeBack {w : Window} (h : w.ColumnsNamed) :
    Json.ListsComeBack (w.sources.reverse.map Source.names) (w.sources.reverse.map Source.names) := by
  refine Json.listsComeBack_texts fun vs hvs => ?_
  obtain ⟨s, hs, rfl⟩ := List.mem_map.mp hvs
  exact h s (List.mem_reverse.mp hs)

theorem TextNamed.group_comesBack {w : Window} (h : w.TextNamed) :
    Json.ComesBack .refuse w.groupId w.groupId := by
  obtain ⟨group, hgroup⟩ := h.group
  rw [hgroup]
  exact Json.comesBack_text group

/-- Names that are text, in lists for the sources, are not nested any deeper. -/
theorem ColumnsNamed.depth_le {w : Window} (h : w.ColumnsNamed) :
    Value.itemsDepth w.columnNames ≤ 1 := by
  rw [columnNames, ← List.map_reverse, Value.itemsDepth_le_iff, List.forall_mem_map]
  intro s hs
  refine Nat.succ_le_succ (Value.itemsDepth_le_iff.mpr fun name hname => ?_)
  obtain ⟨t, rfl⟩ := h s (List.mem_reverse.mp hs) name hname
  exact Nat.le_refl _

/-- The message of a window goes out: there is always room for it. -/
theorem TextNamed.exists_message {w : Window} (h : w.TextNamed) (room : Room) (code : String) :
    ∃ s, (w.message code).toJson room.calls = .ok s := by
  have hfields := Message.comesBack_plotWindow h.group_comesBack w.id code h.columns.listsComeBack
  rw [← columnNames_eq] at hfields
  refine Message.exists_toJson hfields (Message.distinct_members_call _ _) ?_
  obtain ⟨group, hgroup⟩ := h.group
  have hdepth := h.columns.depth_le
  have henough := room.enough
  simp only [Message.calls, Message.plotWindow, Message.call, Value.depth, Value.entriesDepth,
    Value.itemsDepth, hgroup, writingCalls, messageLevels] at henough ⊢
  omega

/-- The receiver takes the columns of a window off its stack to show the window as expected. -/
theorem TextNamed.receive_message {w : Window} (h : w.TextNamed) {room : Nat} {code s : String}
    (hs : (w.message code).toJson room = .ok s) (stack : FrameStack) :
    Receiver.receive (w.stacked ++ stack) (.text s) = some (stack, some (w.expected code)) := by
  rw [(receive_lists h.group_comesBack h.columns.listsComeBack hs).2, shownUnder_names]
  rfl

end Window

end PlotStream
