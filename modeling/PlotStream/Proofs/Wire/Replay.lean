import PlotStream.Proofs.Json.Legible
import PlotStream.Proofs.Wire.Stream

/-!
# Replaying a stream

What the receiver's stack is behind some frames, and what this makes of the next text of a group.
`Group.shows_next` is the statement for a stream that may end anywhere: whatever stack it started
from, the columns of the window to be shown lie on top.
-/

namespace PlotStream

namespace Receiver

/-- The stack behind frames, unless it held too few at some time. -/
def stackAfter (stack : FrameStack) (fs : List Frame) : Option FrameStack :=
  (receiveAll stack fs).map Prod.fst

@[simp] theorem stackAfter_nil (stack : FrameStack) : stackAfter stack [] = some stack :=
  rfl

theorem stackAfter_cons (stack : FrameStack) (f : Frame) (fs : List Frame) :
    stackAfter stack (f :: fs) = (receive stack f).bind fun step => stackAfter step.1 fs := by
  rw [stackAfter, receiveAll]
  cases receive stack f with
  | none => rfl
  | some step =>
    simp only [Option.bind_eq_bind, Option.bind_some, stackAfter]
    cases receiveAll step.1 fs <;> rfl

theorem stackAfter_append (stack : FrameStack) (fs fs' : List Frame) :
    stackAfter stack (fs ++ fs') = (stackAfter stack fs).bind fun stack => stackAfter stack fs' := by
  induction fs generalizing stack with
  | nil => rfl
  | cons f fs ih =>
    rw [List.cons_append, stackAfter_cons, stackAfter_cons]
    cases receive stack f with
    | none => rfl
    | some step => exact ih step.1

theorem stackAfter_singleton (stack : FrameStack) (f : Frame) :
    stackAfter stack [f] = (receive stack f).map Prod.fst := by
  rw [stackAfter_cons]
  cases receive stack f <;> rfl

/-- What can be replayed can be replayed up to any point. -/
theorem exists_stackAfter_of_append {stack stack' : FrameStack} {fs fs' : List Frame}
    (h : stackAfter stack (fs ++ fs') = some stack') :
    ∃ between, stackAfter stack fs = some between := by
  rw [stackAfter_append] at h
  obtain ⟨between, hbetween, -⟩ := Option.bind_eq_some_iff.mp h
  exact ⟨between, hbetween⟩

end Receiver

/-! ## Frames that change nothing -/

/-- The receiver takes no notice of a frame. -/
def Frame.Ignored (f : Frame) : Prop :=
  ∀ stack, Receiver.receive stack f = some (stack, none)

theorem Frame.Ignored.stackAfter_append {f : Frame} (h : f.Ignored) (stack : FrameStack)
    (fs : List Frame) : Receiver.stackAfter stack (fs ++ [f]) = Receiver.stackAfter stack fs := by
  rw [Receiver.stackAfter_append]
  cases hstack : Receiver.stackAfter stack fs with
  | none => rfl
  | some stack' => rw [Option.bind_some, Receiver.stackAfter_singleton, h stack', Option.map_some]

/-- A message that is no call is ignored. -/
theorem Message.ignored {m : Message} {s : String} (hread : ofJson s = .ok m)
    (hkind : m.kind ≠ .call) : (Frame.text s).Ignored := by
  intro stack
  have hcall : Receiver.plotWindow? m = none := by
    unfold Receiver.plotWindow?
    split
    · rename_i h _
      exact absurd h hkind
    · rfl
  simp only [Receiver.receive, hread, hcall]

/-- A message with one field of text. -/
theorem Message.ignored_of_text {room : Nat} {kind : MessageKind} {name text s : String}
    (hs : (Message.mk kind [(.text name, .text text)]).toJson room = .ok s) (hname : name ≠ "type")
    (hkind : kind ≠ .call) : (Frame.text s).Ignored :=
  Message.ignored (ofJson_of_toJson_of_text hs hname) hkind

theorem Message.ignored_reply {room : Nat} {time text s : String} {m : Message}
    (hreply : Message.reply time text = some m) (hs : m.toJson room = .ok s) :
    (Frame.text s).Ignored := by
  unfold Message.reply at hreply
  split at hreply
  · obtain rfl := Option.some.inj hreply
    exact Message.ignored_of_text hs (by decide) nofun
  · split at hreply
    · obtain rfl := Option.some.inj hreply
      exact Message.ignored_of_text hs (by decide) nofun
    · cases hreply

theorem Group.ignored_announcement {room : Room} {g : Group} {s : String}
    (h : g.announcement room = .ok s) : (Frame.text s).Ignored := by
  obtain ⟨m, hm, hs⟩ := Json.exists_ok_of_bind h
  obtain ⟨size, -, hmessage⟩ := Json.exists_ok_of_bind hm
  obtain rfl := Except.ok.inj hmessage
  exact Message.ignored_of_text hs (by decide) nofun

/-! ## Windows -/

/-- Binary frames pile up, the last one on top. -/
theorem Receiver.stackAfter_binary (bs : List (List UInt8)) (stack : FrameStack) :
    Receiver.stackAfter stack (bs.map Frame.binary) = some (bs.reverse ++ stack) := by
  induction bs generalizing stack with
  | nil => rfl
  | cons b bs ih =>
    rw [List.map_cons, Receiver.stackAfter_cons, Receiver.receive, Option.bind_some, ih]
    simp

theorem Window.stackAfter_columnFrames (w : Window) (stack : FrameStack) :
    Receiver.stackAfter stack w.columnFrames = some (w.stacked ++ stack) := by
  rw [w.columnFrames_eq, Receiver.stackAfter_binary, List.reverse_reverse]

/-- What comes back for a value is determined by the value. -/
theorem Json.rightUnique_comesBack : Relator.RightUnique (ComesBack .refuse) := by
  rintro v w w' ⟨cs, hcs, hread⟩ ⟨cs', hcs', hread'⟩
  obtain rfl := Except.ok.inj ((hcs _ (Nat.le_refl _)).symm.trans (hcs' _ (Nat.le_refl _)))
  exact Except.ok.inj (hread.read.symm.trans hread'.read)

/-- Values that have been written, one here and one there, come back one by one. -/
theorem Json.exists_itemsComeBack {vs : List Value}
    (h : ∀ v ∈ vs, ∃ room cs, encode .refuse room v = .ok cs) :
    ∃ ws, List.Forall₂ (ComesBack .refuse) vs ws := by
  induction vs with
  | nil => exact ⟨[], .nil⟩
  | cons v vs ih =>
    obtain ⟨⟨room, cs, hcs⟩, hvs⟩ := List.forall_mem_cons.mp h
    obtain ⟨w, hw⟩ := exists_comesBack hcs
    obtain ⟨ws, hws⟩ := ih hvs
    exact ⟨w :: ws, .cons hw hws⟩

theorem Json.exists_listsComeBack {lists : List (List Value)}
    (h : ∀ vs ∈ lists, ∃ room cs, encode .refuse room (.list vs) = .ok cs) :
    ∃ lists', ListsComeBack lists lists' := by
  induction lists with
  | nil => exact ⟨[], .nil⟩
  | cons names lists ih =>
    obtain ⟨⟨room, cs, hcs⟩, hlists⟩ := List.forall_mem_cons.mp h
    obtain ⟨names', hnames⟩ := exists_itemsComeBack fun v hv => exists_encode_of_list hcs hv
    obtain ⟨lists', hlists'⟩ := ih hlists
    exact ⟨names' :: lists', .cons hnames hlists'⟩

section Shown

variable {room : Room}

/-- The text that shows a window, with the columns of the window on top of the stack. Whatever the
group and the names are, they arrive as something, since the text was written. -/
theorem Window.receive_shown {w : Window} {x : String} (hx : w.shownText room = .ok x) :
    ∃ code group lists, Code.ofWindow room.calls w = .ok code ∧
      (w.message code).toJson room.calls = .ok x ∧
      Json.ListsComeBack (w.sources.reverse.map Source.names) lists ∧
      Message.ofJson x = .ok (Message.plotWindow group (.text w.id)
        (.list (lists.map Value.list)) (.text code)) ∧
      ∀ stack, Receiver.receive (w.stacked ++ stack) (.text x) =
        some (stack, some (w.shownUnder code group lists)) := by
  obtain ⟨code, hcode, hjson⟩ := Json.exists_ok_of_bind hx
  have hvalue := Message.toValue_of_distinct
    (Message.distinct_members_call (.text "plotWin")
      (.list [w.groupId, .text w.id, .list w.columnNames, .text code]))
  obtain ⟨-, cs, hcs, -⟩ := Json.write_eq_ok_iff.mp hjson
  rw [message, Message.plotWindow, hvalue] at hcs
  obtain ⟨inside, args, hargs⟩ := Json.exists_encode_of_dict hcs
    (e := (.text "args", .list [w.groupId, .text w.id, .list w.columnNames, .text code]))
    (by simp [Message.members, Message.call])
  obtain ⟨_, id, hid⟩ := Json.exists_encode_of_list hargs (v := w.groupId) (by simp)
  obtain ⟨group, hgroup⟩ := Json.exists_comesBack hid
  obtain ⟨_, names, hnames⟩ := Json.exists_encode_of_list hargs (v := .list w.columnNames) (by simp)
  rw [columnNames_eq] at hnames
  obtain ⟨lists, hlists⟩ := Json.exists_listsComeBack fun vs hvs =>
    Json.exists_encode_of_list hnames (List.mem_map_of_mem hvs)
  obtain ⟨hread, hreceive⟩ := Window.receive_lists hgroup hlists hjson
  exact ⟨code, group, lists, hcode, hjson, hlists, hread, hreceive⟩

/-- Names that are text arrive as they are, so that the window is shown as expected. -/
theorem Window.receive_shownText {w : Window} (h : w.ColumnsNamed) {x : String}
    (hx : w.shownText room = .ok x) :
    ∃ code group, Code.ofWindow room.calls w = .ok code ∧
      (w.message code).toJson room.calls = .ok x ∧
      ∀ stack, Receiver.receive (w.stacked ++ stack) (.text x) =
        some (stack, some { w.expected code with group }) := by
  obtain ⟨code, group, lists, hcode, hjson, hlists, -, hreceive⟩ := Window.receive_shown hx
  have hsame : w.sources.reverse.map Source.names = lists :=
    Json.rightUnique_comesBack.forall₂.forall₂ h.listsComeBack hlists
  rw [← hsame, shownUnder_names] at hreceive
  exact ⟨code, group, hcode, hjson, hreceive⟩

/-- Windows that are all shown leave the stack as it was. -/
theorem stackAfter_windowFrames {ws : List Window} (hshown : ∀ w ∈ ws, ∃ x, w.shownText room = .ok x)
    (stack : FrameStack) : Receiver.stackAfter stack (windowFrames room ws) = some stack := by
  induction ws with
  | nil => rfl
  | cons w ws ih =>
    obtain ⟨⟨x, hx⟩, hxs⟩ := List.forall_mem_cons.mp hshown
    obtain ⟨code, group, lists, -, -, -, -, hreceive⟩ := Window.receive_shown hx
    simp only [windowFrames, hx]
    rw [Receiver.stackAfter_append, w.stackAfter_columnFrames, Option.bind_some,
      Receiver.stackAfter_cons, hreceive, Option.bind_some]
    exact ih hxs

theorem exists_stackAfter_windowFrames {ws : List Window} (hnamed : ∀ w ∈ ws, w.ColumnsNamed)
    (stack : FrameStack) : ∃ stack', Receiver.stackAfter stack (windowFrames room ws) = some stack' := by
  induction ws with
  | nil => exact ⟨stack, rfl⟩
  | cons w ws ih =>
    obtain ⟨hw, hws⟩ := List.forall_mem_cons.mp hnamed
    rw [windowFrames]
    cases hx : w.shownText room with
    | error fault => exact ⟨_, w.stackAfter_columnFrames stack⟩
    | ok x =>
      obtain ⟨code, group, -, -, hreceive⟩ := Window.receive_shownText hw hx
      rw [Receiver.stackAfter_append, w.stackAfter_columnFrames, Option.bind_some,
        Receiver.stackAfter_cons, hreceive, Option.bind_some]
      exact ih hws

/-- No text stands among the columns of a window. -/
theorem Window.columnFrames_split {w : Window} {fs sent rest : List Frame} {x : String}
    (h : w.columnFrames ++ fs = sent ++ .text x :: rest) :
    ∃ more, sent = w.columnFrames ++ more ∧ fs = more ++ .text x :: rest := by
  rcases List.append_eq_append_iff.mp h with ⟨more, hsent, hfs⟩ | ⟨more, hcolumns, htext⟩
  · exact ⟨more, hsent, hfs⟩
  · cases more with
    | nil => exact ⟨[], by simpa using hcolumns.symm, htext.symm⟩
    | cons f more =>
      obtain rfl := (List.cons.inj htext).1
      have hmem : Frame.text x ∈ w.columnFrames := by simp [hcolumns]
      simp [w.columnFrames_eq] at hmem

/-- A text among the frames of windows shows the next window. -/
theorem windowFrames_split {ws : List Window} {sent rest : List Frame} {x : String}
    (h : windowFrames room ws = sent ++ .text x :: rest) :
    ∃ shown w ws', ws = shown ++ w :: ws' ∧ (∀ v ∈ shown, ∃ y, v.shownText room = .ok y) ∧
      sent = windowFrames room shown ++ w.columnFrames ∧ w.shownText room = .ok x := by
  induction ws generalizing sent with
  | nil => simp [windowFrames] at h
  | cons w ws ih =>
    rw [windowFrames] at h
    cases hy : w.shownText room with
    | error fault =>
      rw [hy] at h
      obtain ⟨more, -, hmore⟩ := Window.columnFrames_split ((List.append_nil _).trans h)
      simp at hmore
    | ok y =>
      rw [hy] at h
      obtain ⟨more, rfl, hmore⟩ := Window.columnFrames_split h
      cases more with
      | nil =>
        obtain rfl : y = x := by simpa using (List.cons.inj hmore).1
        exact ⟨[], w, ws, rfl, by simp, by simp [windowFrames], hy⟩
      | cons f more =>
        obtain ⟨rfl, hrest⟩ := List.cons.inj hmore
        obtain ⟨shown, v, ws', rfl, hshown, rfl, hx⟩ := ih hrest
        refine ⟨w :: shown, v, ws', rfl, List.forall_mem_cons.mpr ⟨⟨y, hy⟩, hshown⟩, ?_, hx⟩
        simp [windowFrames, hy]

end Shown

namespace Group

variable {room : Room} {g : Group}

/-- A stream can be replayed up to any point, whatever the stack. -/
theorem exists_stackAfter_frames (hnamed : g.ColumnsNamed) {sent rest : List Frame}
    (h : g.frames room = sent ++ rest) (stack : FrameStack) :
    ∃ stack', Receiver.stackAfter stack sent = some stack' := by
  obtain ⟨stack', hall⟩ : ∃ stack', Receiver.stackAfter stack (g.frames room) = some stack' := by
    rw [frames]
    cases hx : g.announcement room with
    | error fault => exact ⟨stack, rfl⟩
    | ok x =>
      rw [Receiver.stackAfter_cons, ignored_announcement hx, Option.bind_some]
      exact exists_stackAfter_windowFrames hnamed stack
  rw [h] at hall
  exact Receiver.exists_stackAfter_of_append hall

/-- What the receiver makes of a text that goes out behind some frames of a group: it ignores the
announcement, and otherwise shows the next window, whose columns lie on top of its stack. -/
inductive Shows (room : Room) (g : Group) (sent : List Frame) (x : String) (stack : FrameStack) : Prop
  | announcement (hsent : sent = []) (hx : g.announcement room = .ok x)
      (hreceive : Receiver.receive stack (.text x) = some (stack, none)) : Shows room g sent x stack
  | window {head : String} {shown ws : List Window} {w : Window} {code : String} {group : Value}
      {below : FrameStack} (hhead : g.announcement room = .ok head)
      (hwindows : g.windows = shown ++ w :: ws)
      (hsent : sent = .text head :: windowFrames room shown ++ w.columnFrames)
      (hcode : Code.ofWindow room.calls w = .ok code) (hx : (w.message code).toJson room.calls = .ok x)
      (hstack : stack = w.stacked ++ below)
      (hreceive : Receiver.receive stack (.text x) =
        some (below, some ⟨group, .text w.id, .text code, w.sources.map Source.rebuilt⟩)) :
      Shows room g sent x stack

/-- Whatever stack a stream started from, the next text shows what it should. -/
theorem shows_next (hnamed : g.ColumnsNamed) {sent rest : List Frame} {x : String}
    (h : g.frames room = sent ++ .text x :: rest) {base stack : FrameStack}
    (hstack : Receiver.stackAfter base sent = some stack) : g.Shows room sent x stack := by
  rw [frames] at h
  cases hhead : g.announcement room with
  | error fault => simp [hhead] at h
  | ok head =>
    rw [hhead] at h
    have hignored := ignored_announcement hhead
    cases sent with
    | nil =>
      obtain rfl : head = x := by simpa using (List.cons.inj h).1
      exact .announcement rfl hhead (hignored stack)
    | cons f sent =>
      obtain ⟨rfl, hwindows⟩ := List.cons.inj h
      obtain ⟨shown, w, ws, hsplit, hshown, rfl, hx⟩ := windowFrames_split hwindows
      have hall : ∀ v ∈ shown ++ w :: ws, v.ColumnsNamed := hsplit ▸ hnamed
      rw [Receiver.stackAfter_cons, hignored, Option.bind_some, Receiver.stackAfter_append,
        stackAfter_windowFrames hshown,
        Option.bind_some, w.stackAfter_columnFrames] at hstack
      obtain rfl := Option.some.inj hstack
      obtain ⟨code, group, hcode, hjson, hreceive⟩ :=
        Window.receive_shownText (hall w (by simp)) hx
      exact .window hhead hsplit rfl hcode hjson rfl (hreceive base)

end Group

end PlotStream
