import PlotStream.Proofs.Number.DataSizes
import PlotStream.Proofs.Session.FaultyPlots

/-!
# The announced size

The first frame of a call tells how much column data follows. The amount is added up over the sources of
the group before anything is sent, and the frames are made from the same sources later, column by
column: `Group.binaryLength_frames` compares the two. `announced_size` is the statement about calls: the
bytes of the binary frames are those that have been counted, and the text of the first frame is their
number in mebibytes, with the nearest tenth.
-/

namespace PlotStream

/-! ## The bytes of binary frames -/

/-- The bytes of the binary frames among frames. -/
def binaryLength : List Frame → Nat
  | [] => 0
  | .text _ :: fs => binaryLength fs
  | .binary bytes :: fs => bytes.length + binaryLength fs

theorem binaryLength_append (fs fs' : List Frame) :
    binaryLength (fs ++ fs') = binaryLength fs + binaryLength fs' := by
  induction fs with
  | nil => rw [List.nil_append, binaryLength, Nat.zero_add]
  | cons f fs ih =>
    cases f with
    | text => exact ih
    | binary bytes => rw [List.cons_append, binaryLength, binaryLength, ih, Nat.add_assoc]

theorem binaryLength_flatMap {α : Type} (frames : α → List Frame) (xs : List α) :
    binaryLength (xs.flatMap frames) = (xs.map fun x => binaryLength (frames x)).sum := by
  induction xs with
  | nil => rfl
  | cons x xs ih => rw [List.flatMap_cons, binaryLength_append, ih, List.map_cons, List.sum_cons]

theorem foldl_add_eq_sum {α : Type} (size : α → Nat) (xs : List α) :
    xs.foldl (fun total x => total + size x) 0 = (xs.map size).sum := by
  rw [List.sum_eq_foldl, List.foldl_map]

theorem length_columnBytes (c : Column) : (columnBytes c).length = 8 * c.length := by
  have hitem : ∀ x ∈ c, x.littleEndian.length = 8 := fun x _ => by simp [Double.littleEndian]
  rw [columnBytes, List.length_flatMap, List.map_congr_left hitem, List.map_const',
    List.sum_replicate_nat, Nat.mul_comm]

theorem binaryLength_map_columnBytes (cs : List Column) :
    binaryLength (cs.map fun c => .binary (columnBytes c)) = (cs.map fun c => 8 * c.length).sum := by
  induction cs with
  | nil => rfl
  | cons c cs ih =>
    rw [List.map_cons, binaryLength, ih, length_columnBytes, List.map_cons, List.sum_cons]

/-- The columns of a source go out from the last to the first, and are counted in order. -/
theorem Source.binaryLength_frames (s : Source) : binaryLength s.frames = s.byteSize := by
  rw [frames, binaryLength_map_columnBytes, List.map_reverse, List.sum_reverse, byteSize,
    foldl_add_eq_sum]

theorem Window.binaryLength_columnFrames (w : Window) : binaryLength w.columnFrames = w.byteSize := by
  rw [columnFrames, binaryLength_flatMap, byteSize, foldl_add_eq_sum]
  simp only [Source.binaryLength_frames]

theorem binaryLength_windowFrames {room : Room} {ws : List Window}
    (hshown : ∀ w ∈ ws, ∃ s, w.shownText room = .ok s) :
    binaryLength (windowFrames room ws) = (ws.map Window.byteSize).sum := by
  induction ws with
  | nil => rfl
  | cons w ws ih =>
    obtain ⟨⟨s, hs⟩, hws⟩ := List.forall_mem_cons.mp hshown
    simp only [windowFrames, hs]
    rw [binaryLength_append, w.binaryLength_columnFrames, binaryLength, ih hws, List.map_cons,
      List.sum_cons]

/-- The bytes that are counted are those of the binary frames, if every window can be shown. -/
theorem Group.binaryLength_frames {room : Room} {g : Group} (h : g.Presentable room) :
    binaryLength (g.frames room) = g.byteSize := by
  obtain ⟨⟨s, hs⟩, hshown⟩ := h
  simp only [frames, hs]
  rw [binaryLength, binaryLength_windowFrames hshown, byteSize, foldl_add_eq_sum]

/-! ## The announcement -/

/-- The line that announces whole mebibytes and tenths. -/
def Message.sizeLine (whole tenths : Nat) : Message :=
  msg (.text ("total plot data size: " ++ toString whole ++ "." ++ toString tenths ++ " MB"))

theorem Message.dataSize_int {n : Nat} (hn : n < 2 ^ 53) :
    dataSize (.int n) = .ok (sizeLine (mebibyteTenths n / 10) (mebibyteTenths n % 10)) := by
  rw [dataSize, dataSizeText_int hn, sizeLine]
  simp only [String.append_assoc]
  rfl

/-- A text tells that so many bytes follow: it is the line with whole mebibytes and one further digit,
and together they are the tenths of a mebibyte that are nearest to the bytes, of two that are equally
near the even ones. -/
structure Announces (x : String) (bytes whole tenths : Nat) : Prop where
  written : ∃ room, (Message.sizeLine whole tenths).toJson room = .ok x
  read : Message.ofJson x = .ok (Message.sizeLine whole tenths)
  digit : tenths ≤ 9
  nearest : NearestEven (10 * bytes) (2 ^ 20) (10 * whole + tenths)

/-- What is announced is off by a twentieth of a mebibyte at most. -/
theorem Announces.close {x : String} {bytes whole tenths : Nat}
    (h : Announces x bytes whole tenths) :
    |((10 * whole + tenths : Nat) : ℚ) / 10 - bytes / 2 ^ 20| ≤ 1 / 20 := by
  have hhalf := h.nearest.abs_sub_le (by decide)
  generalize 10 * whole + tenths = total at hhalf
  have htenth : (total : ℚ) / 10 - bytes / 2 ^ 20 =
      (total - (10 * bytes : Nat) / (2 ^ 20 : Nat)) / 10 := by
    push_cast
    ring
  rw [htenth, abs_div, abs_of_pos (by norm_num : (0 : ℚ) < 10)]
  linarith

/-- Of more bytes no smaller number is announced. -/
theorem Announces.mono {x x' : String} {bytes whole tenths bytes' whole' tenths' : Nat}
    (h : Announces x bytes whole tenths) (h' : Announces x' bytes' whole' tenths')
    (hle : bytes ≤ bytes') : 10 * whole + tenths ≤ 10 * whole' + tenths' :=
  h.nearest.mono (by decide) h'.nearest (Nat.mul_le_mul_left 10 hle)

theorem Group.announces {room : Room} {g : Group} {x : String} (h : g.announcement room = .ok x)
    (hsize : g.byteSize < 2 ^ 53) :
    Announces x g.byteSize (mebibyteTenths g.byteSize / 10) (mebibyteTenths g.byteSize % 10) := by
  rw [announcement, Message.dataSize_int hsize] at h
  refine ⟨⟨room.calls, h⟩, Message.ofJson_of_toJson_of_text h (by decide), by omega, ?_⟩
  rw [Nat.div_add_mod]
  exact roundHalfEven_nearest _ (by decide)

end PlotStream
