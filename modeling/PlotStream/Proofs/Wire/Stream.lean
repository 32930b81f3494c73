import PlotStream.Proofs.Plot.Histories
import PlotStream.Proofs.Wire.Decoding

/-!
# The frames of a group

`Group.frames` tells which frames a group is streamed as: the announcement, and then for each window
its columns and the text that shows it, up to the first window that cannot be shown. The script of a
group sends these. `decode_stream` is the statement that the receiver rebuilds a whole group from
them, window by window, and finds its stack as it was each time.
-/

namespace PlotStream

/-- The text that shows a window, if there is one. -/
def Window.shownText (room : Room) (w : Window) : Except Fault String := do
  (w.message (← Code.ofWindow room.calls w)).toJson room.calls

/-- The frames of windows in order. A window that cannot be shown ends them after its columns. -/
def windowFrames (room : Room) : List Window → List Frame
  | [] => []
  | w :: ws =>
    match w.shownText room with
    | .ok s => w.columnFrames ++ .text s :: windowFrames room ws
    | .error _ => w.columnFrames

/-- The frames of a group in order. -/
def Group.frames (room : Room) (g : Group) : List Frame :=
  match g.announcement room with
  | .ok s => .text s :: windowFrames room g.windows
  | .error _ => []

/-! ## What a script sends -/

namespace Action

/-- The frames that actions send, up to one that fails. -/
def sends : List Action → List Frame
  | [] => []
  | .send f :: rest => f :: sends rest
  | .fail _ :: _ => []
  | .await _ :: rest | .log _ :: rest => sends rest

theorem sends_map_send_append (fs : List Frame) (rest : List Action) :
    sends (fs.map send ++ rest) = fs ++ sends rest := by
  induction fs with
  | nil => rfl
  | cons f fs ih => rw [List.map_cons, List.cons_append, sends, ih, List.cons_append]

theorem sends_sendText (text : Except Fault String) (rest : List Action) :
    sends (sendText text :: rest) =
      match text with
      | .ok s => .text s :: sends rest
      | .error _ => [] := by
  cases text <;> rfl

end Action

section Script

variable (room : Room)

theorem Window.sends_script_append (w : Window) (rest : List Action) :
    Action.sends (w.script room ++ rest) =
      match w.shownText room with
      | .ok s => w.columnFrames ++ .text s :: Action.sends rest
      | .error _ => w.columnFrames := by
  rw [script, List.append_assoc, Action.sends_map_send_append, shownText]
  cases hcode : Code.ofWindow room.calls w with
  | error fault => simp [Action.sends, bind, Except.bind]
  | ok code =>
    have hsend := Action.sends_sendText ((w.message code).toJson room.calls) rest
    simp only [List.cons_append, List.nil_append, Action.sends, hsend, bind, Except.bind]
    cases (w.message code).toJson room.calls with
    | error fault => simp
    | ok s => rfl

theorem sends_windowScripts (ws : List Window) :
    Action.sends (ws.flatMap (Window.script room)) = windowFrames room ws := by
  induction ws with
  | nil => rfl
  | cons w ws ih => rw [List.flatMap_cons, w.sends_script_append, ih, windowFrames]

theorem Group.sends_script (g : Group) : Action.sends (g.script room) = g.frames room := by
  rw [script, Action.sends_sendText, sends_windowScripts, frames]

end Script

/-! ## Decoding a group -/

/-- Every window belongs to its group. -/
def Group.Owned (g : Group) : Prop :=
  ∀ w ∈ g.windows, w.groupId = g.id

/-- The names of all columns of a group are text. -/
def Group.ColumnsNamed (g : Group) : Prop :=
  ∀ w ∈ g.windows, w.ColumnsNamed

/-- The names in a group are text, and every window belongs to the group. -/
structure Group.TextNamed (g : Group) : Prop where
  id : ∃ name, g.id = .text name
  owned : g.Owned
  columns : g.ColumnsNamed

theorem Group.TextNamed.window {g : Group} (h : g.TextNamed) {w : Window} (hw : w ∈ g.windows) :
    w.TextNamed where
  group := by
    obtain ⟨name, hname⟩ := h.id
    exact ⟨name, (h.owned w hw).trans hname⟩
  columns := h.columns w hw

/-- Windows of one group are rebuilt one after the other, and each leaves the stack as it was. -/
theorem receiveEach_windowFrames {room : Room} {ws : List Window} {group : Value}
    (hgroup : ∀ w ∈ ws, w.groupId = group) (hnamed : ∀ w ∈ ws, w.TextNamed)
    (hcompiles : ∀ w ∈ ws, ∃ code, Code.ofWindow room.calls w = .ok code) (stack : FrameStack) :
    ∃ steps, Receiver.receiveEach stack (windowFrames room ws) = some steps ∧
      List.Forall₂
        (fun w shown => ∃ code, Code.ofWindow room.calls w = .ok code ∧
          shown = ⟨group, .text w.id, .text code, w.sources.map Source.rebuilt⟩)
        ws (steps.filterMap Prod.snd) ∧
      ∀ step ∈ steps, step.2.isSome → step.1 = stack := by
  induction ws with
  | nil => exact ⟨[], rfl, .nil, by simp⟩
  | cons w ws ih =>
    obtain ⟨steps, hsteps, hshown, hstack⟩ :=
      ih (fun w hw => hgroup w (List.mem_cons_of_mem _ hw))
        (fun w hw => hnamed w (List.mem_cons_of_mem _ hw))
        fun w hw => hcompiles w (List.mem_cons_of_mem _ hw)
    obtain ⟨code, hcode⟩ := hcompiles w (List.mem_cons_self ..)
    have hw := hnamed w (List.mem_cons_self ..)
    obtain ⟨s, hs⟩ := hw.exists_message room code
    have hreceive := hw.receive_message hs stack
    have htext : w.shownText room = .ok s := by simp [Window.shownText, hcode, hs, bind, Except.bind]
    obtain ⟨quiet, hquiet, hcolumns⟩ :=
      Receiver.receiveEach_binary_append w.stacked.reverse stack
    have hnone : quiet.filterMap Prod.snd = [] := List.filterMap_eq_nil_iff.mpr hquiet
    refine ⟨quiet ++ (stack, some (w.expected code)) :: steps, ?_, ?_, ?_⟩
    · rw [windowFrames, htext, w.columnFrames_eq]
      simp only [hcolumns, List.reverse_reverse, Receiver.receiveEach, hreceive, hsteps,
        Option.bind_eq_bind, Option.bind_some, Option.pure_def, Option.map_some]
    · rw [List.filterMap_append, hnone, List.nil_append]
      refine .cons ⟨code, hcode, ?_⟩ hshown
      rw [Window.expected, hgroup w (List.mem_cons_self ..)]
    · intro step hstep hsome
      rcases List.mem_append.mp hstep with hstep | hstep
      · simp [hquiet step hstep] at hsome
      · rcases List.mem_cons.mp hstep with rfl | hstep
        · rfl
        · exact hstack step hstep hsome

/-- The receiver undoes the stream of a group: from whatever stack it starts, it shows one window for
each window of the group, in order, with the code of the window and its sources in their positions,
each column under its own name; and after every window the stack is the one it started from. -/
theorem decode_stream {room : Room} {g : Group} (hnamed : g.TextNamed)
    (hcompiles : ∀ w ∈ g.windows, ∃ code, Code.ofWindow room.calls w = .ok code) (stack : FrameStack) :
    ∃ steps, Receiver.receiveEach stack (Action.sends (g.windows.flatMap (Window.script room))) =
        some steps ∧
      List.Forall₂
        (fun w shown => ∃ code, Code.ofWindow room.calls w = .ok code ∧
          shown = ⟨g.id, .text w.id, .text code, w.sources.map Source.rebuilt⟩)
        g.windows (steps.filterMap Prod.snd) ∧
      ∀ step ∈ steps, step.2.isSome → step.1 = stack := by
  rw [sends_windowScripts]
  exact receiveEach_windowFrames hnamed.owned (fun w hw => hnamed.window hw) hcompiles stack

/-- A group of two windows: one with two sources of different width and a figure, one without any. -/
def Group.mixed : Group :=
  let one := Double.ofInt 1
  let wide : Source := ⟨[(.text "x", [one, one]), (.text "y", [one, one])]⟩
  let narrow : Source := ⟨[(.text "z", [])]⟩
  ⟨.text "g", 0, [⟨"a", .text "g", [wide, narrow], [Figure.blank "a" (.text "g")]⟩,
    ⟨"b", .text "g", [], []⟩]⟩

theorem Group.mixed_textNamed : Group.mixed.TextNamed where
  id := ⟨"g", rfl⟩
  owned := by simp [Owned, mixed]
  columns := by
    simp only [ColumnsNamed, Window.ColumnsNamed, mixed, Source.names, Entries.keys,
      List.forall_mem_cons, List.map_cons, List.map_nil, List.not_mem_nil, false_implies,
      implies_true, and_true]
    exact ⟨⟨⟨"x", rfl⟩, ⟨"y", rfl⟩⟩, ⟨"z", rfl⟩⟩

theorem Group.mixed_compiles :
    ∀ w ∈ Group.mixed.windows, ∃ code, Code.ofWindow Room.standard.calls w = .ok code := by
  simp only [mixed, List.forall_mem_cons, List.not_mem_nil, false_implies, implies_true, and_true]
  exact ⟨⟨_, rfl⟩, ⟨_, rfl⟩⟩

theorem decode_stream_mixed :
    (Group.mixed.TextNamed ∧
        ∀ w ∈ Group.mixed.windows, ∃ code, Code.ofWindow Room.standard.calls w = .ok code) ∧
      ∃ steps, Receiver.receiveEach [[7]]
          (Action.sends (Group.mixed.windows.flatMap (Window.script .standard))) = some steps ∧
        List.Forall₂
          (fun w shown => ∃ code, Code.ofWindow Room.standard.calls w = .ok code ∧
            shown = ⟨Group.mixed.id, .text w.id, .text code, w.sources.map Source.rebuilt⟩)
          Group.mixed.windows (steps.filterMap Prod.snd) ∧
        ∀ step ∈ steps, step.2.isSome → step.1 = [[7]] :=
  ⟨⟨Group.mixed_textNamed, Group.mixed_compiles⟩,
    decode_stream Group.mixed_textNamed Group.mixed_compiles [[7]]⟩

end PlotStream
