import PlotStream.Proofs.Plot.Changes
import PlotStream.Proofs.Plot.GlyphChecks

/-!
# Where the data sources of a window stand

A call that adds a data source answers the position of the source, and glyphs go by that position. A
source that is put in front moves all others up by one, so that later a position means the source that
many places further up (`Window.Moved`). No call takes a source away or lets two change places: what is
left of the sources after some calls is each of them in the old order, with what the calls on it have
made of it (`Source.followed`), between those put in front and those appended.

A single call moves the sources so (`Group.moved_call`), moves compose (`Window.Moved.trans`), and by
induction on the calls so does a whole run (`Group.moved_attemptAll`).
-/

namespace PlotStream

namespace BuilderCall

/-- Whether a call puts a source in front of those of a window. -/
def pushesFront (i : Nat) : BuilderCall → Bool
  | .pushFrontSource j _ => j = i
  | _ => false

/-- Whether a call puts a source behind those of a window. -/
def appends (i : Nat) : BuilderCall → Bool
  | .addSource j _ => j = i
  | _ => false

/-- How many sources calls put in front of those of a window. -/
def lift (i : Nat) (calls : List BuilderCall) : Nat :=
  calls.countP (pushesFront i)

end BuilderCall

open BuilderCall (lift)

namespace Source

/-- What a call leaves of the source at a position of a window. -/
def afterCall (s : Source) (i k : Nat) : BuilderCall → Source
  | .onSource i' k' c =>
    if (i', k') = (i, k) then
      match s.call c with
      | .ok (s, _) => s
      | .error _ => s
    else s
  | _ => s

/-- What calls leave of the source that stands at a position of a window before them. -/
def followed (s : Source) (i k : Nat) : List BuilderCall → Source
  | [] => s
  | c :: calls => (s.afterCall i k c).followed i (k + lift i [c]) calls

theorem followed_append (s : Source) (i k : Nat) (calls more : List BuilderCall) :
    s.followed i k (calls ++ more) =
      (s.followed i k calls).followed i (k + lift i calls) more := by
  induction calls generalizing s k with
  | nil => rfl
  | cons c calls ih =>
    have hlift : lift i (c :: calls) = lift i [c] + lift i calls := by
      simp only [lift, ← List.countP_append, List.singleton_append]
    rw [List.cons_append, followed, followed, ih, hlift, Nat.add_assoc]

theorem mapIdx_eq_self {f : Nat → Source → Source} (h : ∀ k s, f k s = s) (ss : List Source) :
    ss.mapIdx f = ss := by
  refine List.ext_getElem? fun n => ?_
  rw [List.getElem?_mapIdx]
  cases ss[n]? <;> simp [h]

end Source

/-! ## Moves -/

/-- Calls have moved the sources of a window: those that were put in front come first, then the ones
there were, in their order, and then those that were appended. -/
def Window.Moved (i : Nat) (calls : List BuilderCall) (ss ss' : List Source) : Prop :=
  ∃ front back, ss' = front ++ ss.mapIdx (fun k s => s.followed i k calls) ++ back ∧
    front.length = lift i calls ∧ back.length = calls.countP (·.appends i)

namespace Window.Moved

variable {i : Nat} {calls more : List BuilderCall} {ss ss' ss'' : List Source}

theorem refl (i : Nat) (ss : List Source) : Moved i [] ss ss :=
  ⟨[], [], by simp [Source.followed, Source.mapIdx_eq_self], rfl, rfl⟩

theorem trans (h : Moved i calls ss ss') (h' : Moved i more ss' ss'') :
    Moved i (calls ++ more) ss ss'' := by
  obtain ⟨front, back, rfl, hfront, hback⟩ := h
  obtain ⟨front', back', rfl, hfront', hback'⟩ := h'
  refine ⟨front' ++ front.mapIdx fun k s => s.followed i k more,
    back.mapIdx (fun k s => s.followed i (k + ss.length + front.length) more) ++ back', ?_, ?_, ?_⟩
  · simp only [List.mapIdx_append, List.mapIdx_mapIdx, List.append_assoc, List.length_mapIdx,
      Source.followed_append, ← hfront, Function.comp_def]
  · simp only [List.length_append, List.length_mapIdx, hfront, hfront', lift, List.countP_append]
    exact Nat.add_comm ..
  · simp only [List.length_append, List.length_mapIdx, hback, hback', List.countP_append]

/-- Where a source stands after a move. -/
theorem getElem? (h : Moved i calls ss ss') {k : Nat} {s : Source} (hs : ss[k]? = some s) :
    ss'[k + lift i calls]? = some (s.followed i k calls) := by
  obtain ⟨front, back, rfl, hfront, -⟩ := h
  obtain ⟨hk, -⟩ := List.getElem?_eq_some_iff.mp hs
  rw [List.append_assoc, List.getElem?_append_right (by omega), hfront, Nat.add_sub_cancel,
    List.getElem?_append_left (by simpa using hk), List.getElem?_mapIdx, hs]
  rfl

/-- A call that neither brings a source nor is made on one leaves the sources where they are. -/
theorem of_still {c : BuilderCall} (hfront : c.pushesFront i = false) (hback : c.appends i = false)
    (hafter : ∀ (s : Source) (k : Nat), s.afterCall i k c = s) : Moved i [c] ss ss := by
  refine ⟨[], [], ?_, ?_, ?_⟩
  · simp [Source.followed, hafter, Source.mapIdx_eq_self]
  · simp [lift, hfront]
  · simp [hback]

end Window.Moved

/-! ## Calls and runs -/

namespace Group

/-- The sources of the window at a position. -/
def sources? (g : Group) (i : Nat) : Option (List Source) :=
  g.windows[i]?.map Window.sources

variable {g g' : Group} {c : BuilderCall} {answer : Answer} {i j : Nat} {ss : List Source}

/-- A change of a window moves the sources of every window if it moves those of its own. -/
theorem moved_setWindow {w w' : Window} (hw : g.windows[j]? = some w) (hs : g.sources? i = some ss)
    (hthis : j = i → Window.Moved i [c] w.sources w'.sources)
    (hother : j ≠ i → Window.Moved i [c] ss ss) :
    ∃ ss', (g.setWindow j w').sources? i = some ss' ∧ Window.Moved i [c] ss ss' := by
  obtain ⟨hj, -⟩ := List.getElem?_eq_some_iff.mp hw
  by_cases hji : j = i
  · subst hji
    obtain rfl : w.sources = ss := by simpa [sources?, hw] using hs
    exact ⟨w'.sources, by rw [sources?, setWindow, List.getElem?_set_self hj]; rfl, hthis rfl⟩
  · exact ⟨ss, by rw [sources?, setWindow, List.getElem?_set_ne hji]; exact hs, hother hji⟩

/-- A call moves the sources of every window. The cases are those of the calls. -/
theorem moved_call (h : g.call c = .ok (g', answer)) (hs : g.sources? i = some ss) :
    ∃ ss', g'.sources? i = some ss' ∧ Window.Moved i [c] ss ss' := by
  have hchange : g.Change c.place g' := g.yields_call c _ h
  have figureCall {j k : Nat} (hchange : g.Change (.figure j k) g')
      (hstill : ∀ ss, Window.Moved i [c] ss ss) :
      ∃ ss', g'.sources? i = some ss' ∧ Window.Moved i [c] ss ss' := by
    cases hchange with
    | figure hw => exact moved_setWindow hw hs (fun _ => hstill _) fun _ => hstill ss
  cases c with
  | newWindow id =>
    obtain ⟨text, -, h⟩ := Json.exists_ok_of_bind h
    obtain ⟨rfl, -⟩ := Prod.mk.inj (Except.ok.inj h)
    refine ⟨ss, ?_, .of_still rfl rfl fun _ _ => rfl⟩
    obtain ⟨w, hw, rfl⟩ := Option.map_eq_some_iff.mp hs
    obtain ⟨hi, -⟩ := List.getElem?_eq_some_iff.mp hw
    rw [sources?, addWindow, List.getElem?_append_left hi, hw]
    rfl
  | newLinkedAxis =>
    obtain ⟨rfl, -⟩ := Prod.mk.inj (Except.ok.inj h)
    exact ⟨ss, hs, .of_still rfl rfl fun _ _ => rfl⟩
  | addSource j columns =>
    obtain ⟨w, w', hw, hf, rfl⟩ := changeWindow_ok h
    obtain ⟨s, -, hf⟩ := Json.exists_ok_of_bind hf
    obtain ⟨rfl, -⟩ := Prod.mk.inj (Except.ok.inj hf)
    refine moved_setWindow hw hs (fun hj => ⟨[], [s], ?_, rfl, ?_⟩) fun hj => ?_
    · simp [Window.addSource, Source.followed, Source.afterCall, Source.mapIdx_eq_self]
    · simp [BuilderCall.appends, hj]
    · exact .of_still rfl (decide_eq_false hj) fun _ _ => rfl
  | pushFrontSource j columns =>
    obtain ⟨w, w', hw, hf, rfl⟩ := changeWindow_ok h
    obtain ⟨s, -, hf⟩ := Json.exists_ok_of_bind hf
    obtain ⟨rfl, -⟩ := Prod.mk.inj (Except.ok.inj hf)
    refine moved_setWindow hw hs (fun hj => ⟨[s], [], ?_, ?_, rfl⟩) fun hj => ?_
    · simp [Window.pushFrontSource, Source.followed, Source.afterCall, Source.mapIdx_eq_self]
    · simp [lift, BuilderCall.pushesFront, hj]
    · exact .of_still (decide_eq_false hj) rfl fun _ _ => rfl
  | onSource j k call =>
    obtain ⟨w, w', hw, hf, rfl⟩ := changeWindow_ok h
    obtain ⟨⟨sources, answer'⟩, hsources, hf⟩ := Json.exists_ok_of_bind hf
    obtain ⟨s, s', hk, hcall, rfl⟩ := changeAt_ok hsources
    obtain ⟨rfl, -⟩ := Prod.mk.inj (Except.ok.inj hf)
    refine moved_setWindow hw hs (fun hj => ⟨[], [], ?_, rfl, rfl⟩) fun hj => ?_
    · -- the sources are compared position by position, and only the one at `k` has changed
      refine List.ext_getElem? fun n => ?_
      simp only [List.nil_append, List.append_nil, List.getElem?_set, List.getElem?_mapIdx,
        Source.followed, Source.afterCall, hj]
      by_cases hn : k = n
      · subst hn
        obtain ⟨hlt, rfl⟩ := List.getElem?_eq_some_iff.mp hk
        simp [hlt, hcall]
      · simp [hn]
    · exact .of_still rfl rfl fun s n => by simp [Source.afterCall, hj]
  | newFigure j args keywords =>
    obtain ⟨w, w', hw, hf, rfl⟩ := changeWindow_ok h
    obtain ⟨-, -, hf⟩ := Json.exists_ok_of_bind hf
    obtain ⟨merged, -, hf⟩ := Json.exists_ok_of_bind hf
    obtain ⟨rfl, -⟩ := Prod.mk.inj (Except.ok.inj hf)
    have hstill (ss : List Source) : Window.Moved i [.newFigure j args keywords] ss ss :=
      .of_still rfl rfl fun _ _ => rfl
    exact moved_setWindow hw hs (fun _ => hstill w.sources) fun _ => hstill ss
  | addGlyph | addLayout | setGlyphAttrs | setFigureAttrs | setFigureArg | linkAxis | addOperation =>
    exact figureCall hchange fun _ => .of_still rfl rfl fun _ _ => rfl

/-- A run moves the sources of every window by those of its calls that do not fail. -/
theorem moved_attemptAll (hs : g.sources? i = some ss) (calls : List BuilderCall) :
    ∃ ss', (g.attemptAll calls).sources? i = some ss' ∧ Window.Moved i (g.accepted calls) ss ss' := by
  induction calls generalizing g ss with
  | nil => exact ⟨ss, hs, .refl i ss⟩
  | cons c calls ih =>
    rw [attemptAll, List.foldl_cons, ← attemptAll, accepted, attempt]
    cases hcall : g.call c with
    | error fault => exact ih hs
    | ok out =>
      obtain ⟨ss₁, hs₁, hmoved₁⟩ := moved_call hcall hs
      obtain ⟨ss₂, hs₂, hmoved₂⟩ := ih hs₁
      exact ⟨ss₂, hs₂, hmoved₁.trans hmoved₂⟩

theorem attemptAll_append (g : Group) (calls more : List BuilderCall) :
    g.attemptAll (calls ++ more) = (g.attemptAll calls).attemptAll more :=
  List.foldl_append ..

/-- A source that is added is the last of its window, and the answer is its position. -/
theorem addSource_ok {columns : Value} (h : g.call (.addSource i columns) = .ok (g', answer)) :
    ∃ ss s, Source.given columns = .ok s ∧ answer = .number ss.length ∧
      g'.sources? i = some (ss ++ [s]) := by
  obtain ⟨w, w', hw, hf, rfl⟩ := changeWindow_ok h
  obtain ⟨s, hgiven, hf⟩ := Json.exists_ok_of_bind hf
  obtain ⟨rfl, rfl⟩ := Prod.mk.inj (Except.ok.inj hf)
  obtain ⟨hi, -⟩ := List.getElem?_eq_some_iff.mp hw
  exact ⟨w.sources, s, hgiven, rfl, by rw [sources?, setWindow, List.getElem?_set_self hi]; rfl⟩

/-- Where a source that was added stands after further calls, and what it is then. -/
theorem sources?_addSource {columns : Value}
    (h : g.call (.addSource i columns) = .ok (g', answer)) (later : List BuilderCall) :
    ∃ k s ss, Source.given columns = .ok s ∧ answer = .number k ∧
      (g'.attemptAll later).sources? i = some ss ∧
      ss[k + lift i (g'.accepted later)]? = some (s.followed i k (g'.accepted later)) := by
  obtain ⟨ss, s, hgiven, rfl, hs⟩ := addSource_ok h
  obtain ⟨ss', hs', hmoved⟩ := moved_attemptAll hs later
  exact ⟨ss.length, s, ss', hgiven, rfl, hs', hmoved.getElem? (by simp)⟩

/-- A call of a run has added a source to a window and answered a position. -/
def HandedOut (g : Group) (calls : List BuilderCall) (i n : Nat) : Prop :=
  ∃ earlier columns later g', calls = earlier ++ .addSource i columns :: later ∧
    (g.attemptAll earlier).call (.addSource i columns) = .ok (g', .number n)

theorem attemptAll_ok {earlier later : List BuilderCall}
    (h : (g.attemptAll earlier).call c = .ok (g', answer)) :
    g.attemptAll (earlier ++ c :: later) = g'.attemptAll later := by
  rw [attemptAll_append, attemptAll, List.foldl_cons, attempt, h, ← attemptAll]

/-- A position that was answered is that of some source from then on. -/
theorem HandedOut.lt_length {calls : List BuilderCall} {n : Nat} (h : g.HandedOut calls i n)
    (hs : (g.attemptAll calls).sources? i = some ss) : n < ss.length := by
  obtain ⟨earlier, columns, later, g', rfl, hcall⟩ := h
  obtain ⟨k, s, ss', -, hk, hs', hget⟩ := sources?_addSource hcall later
  obtain rfl := Answer.number.inj hk
  rw [attemptAll_ok hcall, hs'] at hs
  obtain rfl := Option.some.inj hs
  obtain ⟨hlt, -⟩ := List.getElem?_eq_some_iff.mp hget
  omega

/-- If every glyph of a window goes by a position that was answered for a source of that window, the
group is not refused. -/
theorem fault?_validate_of_handedOut {calls : List BuilderCall}
    (h : ∀ (i : Nat) (w : Window), (g.attemptAll calls).windows[i]? = some w → ∀ f ∈ w.figures,
      ∀ method source args, .glyph method source args ∈ f.operations →
        ∃ n : Nat, source = .int n ∧ g.HandedOut calls i n) :
    (g.attemptAll calls).validate.fault? = none := by
  refine fault?_validate_of_resolved fun glyph hglyph => ?_
  obtain ⟨w, hw, hglyph⟩ := List.mem_flatMap.mp hglyph
  obtain ⟨i, hi⟩ := List.mem_iff_getElem?.mp hw
  obtain ⟨j, f, args, hf, hop, -, hsources, -⟩ := Window.mem_glyphs.mp hglyph
  obtain ⟨n, hn, hhanded⟩ := h i w hi f (List.mem_of_getElem? hf) _ _ _ hop
  have hlt : n < w.sources.length := hhanded.lt_length (by rw [sources?, hi]; rfl)
  exact ⟨n, hn, Int.natCast_nonneg n, by rw [hsources]; exact_mod_cast hlt⟩

end Group

/-- The position that is answered for a source stays meaningful in a run of any calls, those that fail
among them. In every later state the source stands that position plus the number of sources put in
front since, so at that very position as long as none is. Between any two states the sources of a window
move so, in their order and without loss. And a group whose glyphs all go by positions that were
answered for sources of their windows is not refused. -/
theorem answered_positions (g : Group) (calls : List BuilderCall) :
    (∀ earlier i columns later g' answer, calls = earlier ++ .addSource i columns :: later →
      (g.attemptAll earlier).call (.addSource i columns) = .ok (g', answer) →
      ∃ k s ss, Source.given columns = .ok s ∧ answer = .number k ∧
        (g.attemptAll calls).sources? i = some ss ∧
        ss[k + lift i (g'.accepted later)]? = some (s.followed i k (g'.accepted later)) ∧
        (lift i (g'.accepted later) = 0 → ss[k]? = some (s.followed i k (g'.accepted later)))) ∧
      (∀ earlier later i ss, calls = earlier ++ later → (g.attemptAll earlier).sources? i = some ss →
        ∃ ss', (g.attemptAll calls).sources? i = some ss' ∧
          Window.Moved i ((g.attemptAll earlier).accepted later) ss ss') ∧
      ((∀ (i : Nat) (w : Window), (g.attemptAll calls).windows[i]? = some w → ∀ f ∈ w.figures,
          ∀ method source args, .glyph method source args ∈ f.operations →
            ∃ n : Nat, source = .int n ∧ g.HandedOut calls i n) →
        (g.attemptAll calls).validate.fault? = none) := by
  refine ⟨?_, ?_, Group.fault?_validate_of_handedOut⟩
  · rintro earlier i columns later g' answer rfl hcall
    obtain ⟨k, s, ss, hgiven, hanswer, hs, hget⟩ := Group.sources?_addSource hcall later
    refine ⟨k, s, ss, hgiven, hanswer, by rw [Group.attemptAll_ok hcall, hs], hget, fun hzero => ?_⟩
    rwa [hzero] at hget
  · rintro earlier later i ss rfl hs
    rw [Group.attemptAll_append]
    exact Group.moved_attemptAll hs later

/-- Another source is put in front of the one that a glyph goes by, after a call that fails to. -/
theorem answered_positions_pushed :
    let g := Group.blank (.text "g")
    let opened : List BuilderCall := [.newWindow (.text "w"), .newFigure 0 .none []]
    let columns : Value := .dict [(.text "t", .list [.int 1])]
    let later : List BuilderCall := [.pushFrontSource 0 (.int 5), .pushFrontSource 0 .none,
      .addGlyph 0 0 (.text "line") (.int 0) .none []]
    let calls := opened ++ .addSource 0 columns :: later
    (∃ ss s, (g.attemptAll calls).sources? 0 = some ss ∧ ss[1]? = some s ∧ s.names = [.text "t"]) ∧
      (∃ ss', (g.attemptAll calls).sources? 0 = some ss' ∧
        Window.Moved 0 ((g.attemptAll opened).accepted (.addSource 0 columns :: later)) [] ss') ∧
      (g.attemptAll calls).validate.fault? = none := by
  intro g opened columns later calls
  obtain ⟨hanswered, hmoved, haccepted⟩ := answered_positions g calls
  refine ⟨?_, hmoved opened _ 0 [] rfl rfl, haccepted fun i w hw f hf method source args hop => ?_⟩
  · obtain ⟨k, s, ss, hs, hk, hss, hget, -⟩ := hanswered opened 0 columns later _ _ rfl rfl
    obtain rfl := Except.ok.inj hs
    obtain rfl := Answer.number.inj hk
    exact ⟨ss, _, hss, hget, rfl⟩
  · cases i with
    | zero =>
      obtain rfl := Option.some.inj hw
      obtain rfl := List.mem_singleton.mp hf
      obtain ⟨rfl, rfl, rfl⟩ := Value.glyph.inj (List.mem_singleton.mp hop)
      exact ⟨0, rfl, opened, columns, later, _, rfl, rfl⟩
    | succ i => cases hw

end PlotStream
