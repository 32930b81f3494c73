import PlotStream.Proofs.Plot.FaultKinds
import PlotStream.Proofs.Session.Holding
import PlotStream.Proofs.Session.Runs
import PlotStream.Proofs.Wire.Stream

/-!
# The outcome of a streaming call

What a streaming call comes to tells what it has sent. `PlotExit` lists every way in which a call can
end, each with its outcome and with all that went out. `Stage.Plots` is the invariant that leads
there: it follows the call from stage to stage, first through its procedure, whose result is a
function of the call alone unless a socket refuses to be connected (`PlotCall.built`), and then through
the script of its group.
-/

namespace PlotStream

/-! ## Procedures -/

/-- What a step of a plotting procedure makes of the group, if no socket refuses to be connected. -/
def BuildStep.apply (room : Room) (g : Group) : BuildStep → Except Fault Group
  | .call b => (g.call b).map Prod.fst
  | .inspect .validate =>
    match g.validate.fault? with
    | some fault => .error fault
    | none => .ok g
  | .inspect q => (g.inspect room.calls q).map fun _ => g
  | .fail fault => .error fault
  | .noteLeased | .await _ | .connect _ _ | .disconnect _ => .ok g

/-- What steps of a plotting procedure make of a group, if no socket refuses to be connected. -/
def buildFrom (room : Room) (g : Group) : List BuildStep → Except Fault Group
  | [] => .ok g
  | step :: rest => do buildFrom room (← step.apply room g) rest

/-- The group as the procedure of a call leaves it, or why the procedure fails, if no socket refuses to be
connected by it. -/
def PlotCall.built (room : Room) (call : PlotCall) : Except Fault Group :=
  buildFrom room (Group.blank call.groupId) call.build

/-- The procedure of a call builds a group, and the group passes the check. -/
def PlotCall.Yields (room : Room) (call : PlotCall) (g : Group) : Prop :=
  call.built room = .ok g ∧ g.validate.fault? = none

theorem refusals_connectEvents (c : Option Connection) (new : Connection) :
    refusals (connectEvents c new) = [] := by
  unfold connectEvents
  split
  · split <;> rfl
  · rfl

theorem refusals_dropEvents (c : Option Connection) (s : SocketId) : refusals (dropEvents c s) = [] := by
  unfold dropEvents
  split
  · split <;> rfl
  · rfl

theorem refusals_checkEvents (g : Group) : refusals (checkEvents g) = [] := by
  rw [refusals, List.filterMap_eq_nil_iff]
  intro e he
  obtain ⟨x, -, rfl⟩ := List.mem_map.mp he
  rfl

/-- A step does to the group what it makes of it, unless it has met a refusal. -/
theorem BuildStep.Does.apply {w : World} {c : Option Connection} {g : Group} {step : BuildStep}
    {es : List Event} {result : Except Fault Group} (hdoes : step.Does w c g es result) :
    step.apply w.room g = result ∧ refusals es = [] ∨
      ∃ s fault, es = [.refused s fault] ∧ result = .error fault := by
  cases hdoes with
  | call h | callFails h => exact .inl ⟨by simp [BuildStep.apply, h, Except.map], rfl⟩
  | check h | checkFails h => exact .inl ⟨by simp [BuildStep.apply, h], refusals_checkEvents g⟩
  | connect => exact .inl ⟨rfl, refusals_connectEvents _ _⟩
  | connectFails => exact .inr ⟨_, _, rfl, rfl⟩
  | disconnect s => exact .inl ⟨rfl, refusals_dropEvents c s⟩
  | inspect hq h | inspectFails hq h =>
    refine .inl ⟨?_, rfl⟩
    rw [BuildStep.apply, h]
    · rfl
    · exact hq
  | fail | note | await => exact .inl ⟨rfl, rfl⟩

/-! ## How a call can end -/

/-- Events that are neither errors nor refusals nor part of a stream nor of its beginning. -/
structure Quiet (t : TaskId) (es : List Event) : Prop where
  sent : deliveries es = []
  errors : errorRecords es = []
  refused : refusals es = []
  asked : askOrder es = []
  granted : grants es = []
  begun : .began t none ∉ es
  called : .called t ∉ es

theorem Quiet.of_asides {t : TaskId} {es : List Event} (h : ∀ e ∈ es, e.isAside)
    (hrefused : refusals es = []) : Quiet t es where
  sent := deliveries_of_asides h
  errors := errorRecords_of_asides h
  refused := hrefused
  asked := askOrder_of_asides h
  granted := grants_of_asides h
  begun he := by cases h _ he
  called he := by cases h _ he

/-- A call has sent some frames, and nothing has gone wrong. -/
structure Smooth (t : TaskId) (es : List Event) (sent : List (SocketId × Frame)) : Prop where
  sent : deliveries es = sent
  errors : errorRecords es = []
  refused : refusals es = []
  begun : .began t none ∉ es

theorem Smooth.append {t : TaskId} {es es' : List Event} {sent sent' : List (SocketId × Frame)}
    (h : Smooth t es sent) (hsent : deliveries es' = sent') (herrors : errorRecords es' = [])
    (hrefused : refusals es' = []) (hbegun : .began t none ∉ es') :
    Smooth t (es ++ es') (sent ++ sent') where
  sent := by rw [deliveries_append, h.sent, hsent]
  errors := by rw [errorRecords_append, h.errors, herrors, List.append_nil]
  refused := by rw [refusals_append, h.refused, hrefused, List.append_nil]
  begun he := (List.mem_append.mp he).elim h.begun hbegun

theorem Smooth.quiet {t : TaskId} {es es' : List Event} {sent : List (SocketId × Frame)}
    (h : Smooth t es sent) (hquiet : Quiet t es') : Smooth t (es ++ es') sent := by
  simpa using h.append hquiet.sent hquiet.errors hquiet.refused hquiet.begun

/-- A call that logs an error instead of sending has logged no other. -/
theorem Smooth.refuse {t : TaskId} {es : List Event} {r : LogRecord} (h : Smooth t es [])
    (es' : List Event) (hsent : deliveries es' = []) (herrors : errorRecords es' = [r]) :
    deliveries (es ++ es') = [] ∧ errorRecords (es ++ es') = [r] := by
  constructor
  · rw [deliveries_append, h.sent, hsent, List.append_nil]
  · rw [errorRecords_append, h.errors, herrors, List.nil_append]

/-- Every way in which a streaming call can end: what has happened, and the outcome. -/
inductive PlotExit (w : World) (call : PlotCall) (t : TaskId) (es : List Event) :
    Except Fault TaskResult → Prop
  /-- No browser was connected at the start. -/
  | idle (hbegun : .began t none ∈ es) (hcalled : .called t ∉ es) (hgranted : grants es = [])
      (hsent : deliveries es = []) (herrors : errorRecords es = [.noSession call.groupId]) :
      PlotExit w call t es (.ok (.truth false))
  /-- No browser was connected when the lease was granted. -/
  | refused {g : Group} (hbuilt : call.Yields w.room g) (hgranted : grants es = [(t, none)])
      (hsent : deliveries es = []) (herrors : errorRecords es = [.noSession g.id])
      (hbegun : .began t none ∉ es) : PlotExit w call t es (.ok (.truth false))
  /-- Everything was sent. -/
  | streamed {g : Group} {s : SocketId} (hbuilt : call.Yields w.room g)
      (hgranted : grants es = [(t, some s)]) (hsmooth : Smooth t es ((g.frames w.room).map (s, ·)))
      (hwhole : ∀ fault, .fail fault ∉ g.script w.room) : PlotExit w call t es (.ok (.truth true))
  /-- The procedure has failed. -/
  | notBuilt {fault : Fault} (hbuilt : call.built w.room = .error fault) (hasked : askOrder es = [])
      (hgranted : grants es = []) (hsmooth : Smooth t es []) : PlotExit w call t es (.error fault)
  /-- The procedure has met a socket that refused to be connected. -/
  | notConnected {s : SocketId} {fault : Fault} (hrefused : .refused s fault ∈ es)
      (hasked : askOrder es = []) (hgranted : grants es = []) (hsent : deliveries es = [])
      (hbegun : .began t none ∉ es) : PlotExit w call t es (.error fault)
  /-- The group did not pass the check. -/
  | malformed {g : Group} {fault : Fault} (hbuilt : call.built w.room = .ok g)
      (hfault : g.validate.fault? = some fault) (hasked : askOrder es = [])
      (hgranted : grants es = []) (hsmooth : Smooth t es []) : PlotExit w call t es (.error fault)
  /-- The call was cancelled before it sent anything. -/
  | cancelled (hasked : askOrder es = [] ∨ ∃ g, call.Yields w.room g)
      (hgranted : (t, none) ∉ grants es) (hsmooth : Smooth t es []) :
      PlotExit w call t es (.error .cancelled)
  /-- A send has failed, or the call was cancelled in a send. -/
  | cut {g : Group} {s : SocketId} {sent rest : List Frame} {fault : Fault}
      (hbuilt : call.Yields w.room g) (hgranted : grants es = [(t, some s)])
      (hsent : deliveries es = sent.map (s, ·)) (hframes : g.frames w.room = sent ++ rest)
      (hrest : rest ≠ []) (hrefused : refusals es = []) (hbegun : .began t none ∉ es)
      (hfault : fault = .cancelled ∨ ∃ frame detail, fault = .sendFailed frame detail) :
      PlotExit w call t es (.error fault)
  /-- The next window could not be shown. -/
  | broken {g : Group} {s : SocketId} {fault : Fault} (hbuilt : call.Yields w.room g)
      (hgranted : grants es = [(t, some s)]) (hsmooth : Smooth t es ((g.frames w.room).map (s, ·)))
      (hfail : .fail fault ∈ g.script w.room) : PlotExit w call t es (.error fault)

theorem PlotExit.quiet {w : World} {call : PlotCall} {t : TaskId} {es es' : List Event}
    {outcome : Except Fault TaskResult} (h : PlotExit w call t es outcome) (hquiet : Quiet t es') :
    PlotExit w call t (es ++ es') outcome := by
  have hsent : deliveries (es ++ es') = deliveries es := by simp [hquiet.sent]
  have herrors : errorRecords (es ++ es') = errorRecords es := by simp [hquiet.errors]
  have hasked : askOrder (es ++ es') = askOrder es := by simp [hquiet.asked]
  have hgranted : grants (es ++ es') = grants es := by simp [hquiet.granted]
  have hrefused : refusals (es ++ es') = refusals es := by simp [hquiet.refused]
  have hbegun : .began t none ∈ es ++ es' ↔ .began t none ∈ es := by simp [hquiet.begun]
  have hcalled : .called t ∈ es ++ es' ↔ .called t ∈ es := by simp [hquiet.called]
  cases h with
  | idle h₁ h₂ h₃ h₄ h₅ =>
    exact .idle (hbegun.mpr h₁) (hcalled.not.mpr h₂) (hgranted.trans h₃) (hsent.trans h₄)
      (herrors.trans h₅)
  | refused h₁ h₂ h₃ h₄ h₅ =>
    exact .refused h₁ (hgranted.trans h₂) (hsent.trans h₃) (herrors.trans h₄) (hbegun.not.mpr h₅)
  | streamed h₁ h₂ h₃ h₄ => exact .streamed h₁ (hgranted.trans h₂) (h₃.quiet hquiet) h₄
  | notBuilt h₁ h₂ h₃ h₄ =>
    exact .notBuilt h₁ (hasked.trans h₂) (hgranted.trans h₃) (h₄.quiet hquiet)
  | notConnected h₁ h₂ h₃ h₄ h₅ =>
    exact .notConnected (List.mem_append_left _ h₁) (hasked.trans h₂) (hgranted.trans h₃)
      (hsent.trans h₄) (hbegun.not.mpr h₅)
  | malformed h₁ h₂ h₃ h₄ h₅ =>
    exact .malformed h₁ h₂ (hasked.trans h₃) (hgranted.trans h₄) (h₅.quiet hquiet)
  | cancelled h₁ h₂ h₃ => exact .cancelled (hasked ▸ h₁) (hgranted ▸ h₂) (h₃.quiet hquiet)
  | cut h₁ h₂ h₃ h₄ h₅ h₆ h₇ h₈ =>
    exact .cut h₁ (hgranted.trans h₂) (hsent.trans h₃) h₄ h₅ (hrefused.trans h₆)
      (hbegun.not.mpr h₇) h₈
  | broken h₁ h₂ h₃ h₄ => exact .broken h₁ (hgranted.trans h₂) (h₃.quiet hquiet) h₄

/-! ## The way of a call -/

/-- The purpose for which a call asks for the lease: a group that its procedure has built, and that
passes the check. -/
def Purpose.Ready (w : World) (call : PlotCall) (purpose : Purpose) : Prop :=
  ∃ g, purpose = .plot g call.gated ∧ call.Yields w.room g

/-- Actions are what is left of a script, and none before them fails. -/
def Action.Left (script rest : List Action) : Prop :=
  ∃ past, script = past ++ rest ∧ ∀ fault, .fail fault ∉ past

namespace Action.Left

variable {script rest : List Action} {a : Action}

theorem refl (script : List Action) : Left script script :=
  ⟨[], rfl, by simp⟩

theorem mem (h : Left script rest) (ha : a ∈ rest) : a ∈ script := by
  obtain ⟨past, rfl, -⟩ := h
  exact List.mem_append_right _ ha

theorem tail (h : Left script (a :: rest)) (ha : ∀ fault, a ≠ .fail fault) : Left script rest := by
  obtain ⟨past, rfl, hpast⟩ := h
  refine ⟨past ++ [a], by simp, fun fault hmem => ?_⟩
  rcases List.mem_append.mp hmem with hmem | hmem
  · exact hpast fault hmem
  · exact ha fault (List.mem_singleton.mp hmem).symm

theorem not_fail (h : Left script []) (fault : Fault) : .fail fault ∉ script := by
  obtain ⟨past, rfl, hpast⟩ := h
  rw [List.append_nil]
  exact hpast fault

end Action.Left

/-- A call has sent the frames of its group up to the actions that remain. -/
def Streaming (w : World) (call : PlotCall) (t : TaskId) (es : List Event) (holder : Holder)
    (rest : List Action) : Prop :=
  ∃ g sent, holder.purpose = .plot g call.gated ∧ call.Yields w.room g ∧
    Smooth t es (sent.map (holder.socket, ·)) ∧ g.frames w.room = sent ++ Action.sends rest ∧
      Action.Left (g.script w.room) rest

/-- What a streaming call has done when it waits at a point. -/
def Point.Plots (w : World) (call : PlotCall) (t : TaskId) (es : List Event) : Point → Prop
  | .fresh job => job = .plot call ∧ .called t ∉ es ∧ Smooth t es []
  | .building call' g rest => call' = call ∧ buildFrom w.room g rest = call.built w.room ∧ Smooth t es []
  | .queued purpose => purpose.Ready w call ∧ Smooth t es []
  | .sending holder f rest => Streaming w call t es holder (.send f :: rest)
  | _ => False

/-- What a streaming call has done when it is at a stage. -/
def Stage.Plots (w : World) (call : PlotCall) (t : TaskId) (es : List Event) : Stage → Prop
  | .job _ job' => job' = .plot call ∧ .called t ∉ es ∧ Smooth t es []
  | .build call' g rest => call' = call ∧ buildFrom w.room g rest = call.built w.room ∧ Smooth t es []
  | .ask purpose | .refused purpose | .halt (.queue purpose) =>
    purpose.Ready w call ∧ Smooth t es []
  | .use holder => holder.purpose.Ready w call ∧ Smooth t es []
  | .script holder rest => Streaming w call t es holder rest
  | .send holder f rest => Streaming w call t es holder (.send f :: rest)
  | .finish holder => Streaming w call t es holder []
  | .leave outcome | .halt (.done outcome) => PlotExit w call t es outcome
  | .halt (.gate _ p) => p.Plots w call t es
  | _ => False

def Whereabouts.Plots (w : World) (call : PlotCall) (t : TaskId) (es : List Event) :
    Whereabouts → Prop
  | .waits p => p.Plots w call t es
  | .runs stage => stage.Plots w call t es
  | .finished outcome => PlotExit w call t es outcome

theorem Streaming.quiet {w : World} {call : PlotCall} {t : TaskId} {es es' : List Event}
    {holder : Holder} {rest : List Action} (h : Streaming w call t es holder rest)
    (hquiet : Quiet t es') : Streaming w call t (es ++ es') holder rest := by
  obtain ⟨g, sent, hpurpose, hbuilt, hsmooth, hrest⟩ := h
  exact ⟨g, sent, hpurpose, hbuilt, hsmooth.quiet hquiet, hrest⟩

theorem Point.Plots.quiet {w : World} {call : PlotCall} {t : TaskId} {es es' : List Event}
    {p : Point} (h : p.Plots w call t es) (hquiet : Quiet t es') : p.Plots w call t (es ++ es') := by
  cases p with
  | fresh job =>
    obtain ⟨hjob, hcalled, hsmooth⟩ := h
    exact ⟨hjob, by simp [hcalled, hquiet.called], hsmooth.quiet hquiet⟩
  | building call' g rest => exact ⟨h.1, h.2.1, h.2.2.quiet hquiet⟩
  | queued purpose => exact ⟨h.1, h.2.quiet hquiet⟩
  | sending holder f rest => exact Streaming.quiet h hquiet
  | _ => exact h

/-! ### Single steps -/

section Steps

variable {w : World} {call : PlotCall} {t : TaskId} {es : List Event}

/-- The purpose of a call when it is granted the lease. -/
theorem Purpose.Ready.stage {purpose : Purpose} (h : purpose.Ready w call)
    (hsmooth : Smooth t es []) (c : Option Connection) : (purpose.stage c).Plots w call t es := by
  cases c <;> exact ⟨h, hsmooth⟩

theorem Streaming.send {holder : Holder} {f : Frame} {rest : List Action}
    (h : Streaming w call t es holder (.send f :: rest)) :
    Streaming w call t (es ++ [.delivered t true holder.socket f]) holder rest := by
  obtain ⟨g, sent, hpurpose, hbuilt, hsmooth, hframes, hrest⟩ := h
  refine ⟨g, sent ++ [f], hpurpose, hbuilt, ?_, ?_, hrest.tail nofun⟩
  · rw [List.map_append]
    exact hsmooth.append rfl rfl rfl (by simp)
  · rw [hframes, Action.sends, List.append_assoc]
    rfl

/-- A call that is stopped in a send has sent the frames before it. -/
theorem Streaming.cut {holder : Holder} {f : Frame} {rest : List Action} {fault : Fault}
    (h : Streaming w call t es holder (.send f :: rest))
    (hgranted : grants es = [(t, some holder.socket)])
    (hfault : fault = .cancelled ∨ ∃ frame detail, fault = .sendFailed frame detail)
    {es' : List Event} (hsent : deliveries es' = []) (hgrants : grants es' = [])
    (hrefused : refusals es' = []) (hbegun : .began t none ∉ es') :
    PlotExit w call t (es ++ es') (.error fault) := by
  obtain ⟨g, sent, hpurpose, hbuilt, hsmooth, hframes, hrest⟩ := h
  refine .cut (s := holder.socket) hbuilt ?_ ?_ hframes (by simp [Action.sends]) ?_ ?_ hfault
  · rw [grants_append, hgranted, hgrants, List.append_nil]
  · rw [deliveries_append, hsmooth.sent, hsent, List.append_nil]
  · rw [refusals_append, hsmooth.refused, hrefused, List.append_nil]
  · exact fun he => (List.mem_append.mp he).elim hsmooth.begun hbegun

theorem Streaming.skip {holder : Holder} {a : Action} {rest : List Action} {es' : List Event}
    (h : Streaming w call t es holder (a :: rest))
    (hsends : Action.sends (a :: rest) = Action.sends rest)
    (ha : ∀ fault, a ≠ .fail fault) (hquiet : Quiet t es') :
    Streaming w call t (es ++ es') holder rest := by
  obtain ⟨g, sent, hpurpose, hbuilt, hsmooth, hframes, hrest⟩ := h
  exact ⟨g, sent, hpurpose, hbuilt, hsmooth.quiet hquiet, hsends ▸ hframes, hrest.tail ha⟩

/-- A call whose next window cannot be shown has sent all frames of its group. -/
theorem Streaming.broken {holder : Holder} {fault : Fault} {rest : List Action}
    (h : Streaming w call t es holder (.fail fault :: rest))
    (hgranted : grants es = [(t, some holder.socket)]) : PlotExit w call t es (.error fault) := by
  obtain ⟨g, sent, hpurpose, hbuilt, hsmooth, hframes, hrest⟩ := h
  rw [Action.sends, List.append_nil] at hframes
  exact .broken hbuilt hgranted (hframes ▸ hsmooth) (hrest.mem (List.mem_cons_self ..))

/-- A call with nothing left to do has sent all frames of its group, and nothing failed. -/
theorem Streaming.streamed {holder : Holder} (h : Streaming w call t es holder [])
    (hgranted : grants es = [(t, some holder.socket)]) :
    PlotExit w call t es (.ok (.truth true)) := by
  obtain ⟨g, sent, hpurpose, hbuilt, hsmooth, hframes, hrest⟩ := h
  rw [Action.sends, List.append_nil] at hframes
  exact .streamed hbuilt hgranted (hframes ▸ hsmooth) hrest.not_fail

variable {stage stage' : Stage} {c : Option Connection} {es' : List Event}

/-- A call that has not asked for the lease has not been granted it, and this stays so. -/
theorem Leasing.unasked {place : Whereabouts} (h : Leasing t es place) (hasked : askOrder es = [])
    (hasks : askOrder es' = []) (hgrants : grants es' = []) :
    askOrder (es ++ es') = [] ∧ grants (es ++ es') = [] := by
  constructor
  · rw [askOrder_append, hasked, hasks, List.append_nil]
  · rw [grants_append, h.not_granted hasked, hgrants, List.append_nil]

/-- A step of a procedure that succeeds leaves the rest to be done to the group that it makes. -/
theorem BuildStep.Does.goes_on {g g' : Group} {step : BuildStep} (hdoes : step.Does w c g es' (.ok g'))
    (rest : List BuildStep) :
    buildFrom w.room g (step :: rest) = buildFrom w.room g' rest ∧ Quiet t es' := by
  obtain ⟨happly, hrefused⟩ := hdoes.apply.resolve_right (by rintro ⟨_, _, -, ⟨⟩⟩)
  refine ⟨?_, .of_asides hdoes.aside hrefused⟩
  rw [buildFrom, happly]
  rfl

/-- A call ends with a step of its procedure that fails, be it that the group cannot be changed so or
that a socket refuses to be connected. -/
theorem BuildStep.Does.plotExit {g : Group} {step : BuildStep} {rest : List BuildStep} {fault : Fault}
    (hdoes : step.Does w c g es' (.error fault)) {place : Whereabouts} (hleasing : Leasing t es place)
    (hnone : askOrder es = []) (hbuilt : buildFrom w.room g (step :: rest) = call.built w.room)
    (hsmooth : Smooth t es []) : PlotExit w call t (es ++ es') (.error fault) := by
  rcases hdoes.apply with ⟨happly, hrefused⟩ | ⟨s, _, rfl, ⟨⟩⟩
  · have hquiet := Quiet.of_asides (t := t) hdoes.aside hrefused
    obtain ⟨hasked, hgranted⟩ := hleasing.unasked hnone hquiet.asked hquiet.granted
    refine .notBuilt ?_ hasked hgranted (hsmooth.quiet hquiet)
    rw [← hbuilt, buildFrom, happly]
    rfl
  · have hasks : askOrder [.refused s fault] = [] := rfl
    obtain ⟨hasked, hgranted⟩ := hleasing.unasked hnone hasks rfl
    refine .notConnected (s := s) (by simp) hasked hgranted ?_ (by simp [hsmooth.begun])
    rw [deliveries_append, hsmooth.sent]
    rfl

/-- A step of a streaming call keeps to what is said of its stages. -/
theorem Stage.Acts.plots (hact : stage.Acts w t c es' stage')
    (hleasing : Leasing t es (.runs stage)) (h : stage.Plots w call t es) :
    stage'.Plots w call t (es ++ es') := by
  cases hact with
  | plotIdle hidle =>
    obtain ⟨hjob, hcalled, hsmooth⟩ := h
    cases hjob
    have hgranted : grants es = [] := hleasing.not_granted hleasing.fits
    obtain ⟨hsent, herrors⟩ :=
      hsmooth.refuse [.began t none, .logged (.noSession call.groupId)] rfl rfl
    refine .idle (by simp) (by simp [hcalled]) ?_ hsent herrors
    rw [grants_append, hgranted]
    rfl
  | plot hcurrent =>
    obtain ⟨hjob, hcalled, hsmooth⟩ := h
    cases hjob
    exact ⟨rfl, rfl, hsmooth.append rfl rfl rfl (by simp)⟩
  | buildStep hdoes =>
    obtain ⟨hcall, hbuilt, hsmooth⟩ := h
    obtain ⟨hrest, hquiet⟩ := hdoes.goes_on (t := t) _
    exact ⟨hcall, hrest.symm.trans hbuilt, hsmooth.quiet hquiet⟩
  | buildFails hdoes =>
    obtain ⟨rfl, hbuilt, hsmooth⟩ := h
    exact hdoes.plotExit hleasing hleasing.fits hbuilt hsmooth
  | buildWaits =>
    obtain ⟨hcall, hbuilt, hsmooth⟩ := h
    rw [List.append_nil]
    exact ⟨hcall, hbuilt, hsmooth⟩
  | built hvalid =>
    obtain ⟨rfl, hbuilt, hsmooth⟩ := h
    exact ⟨⟨_, rfl, hbuilt.symm, hvalid⟩,
      hsmooth.quiet (.of_asides (aside_checkEvents _) (refusals_checkEvents _))⟩
  | @malformed call' g fault hfault =>
    obtain ⟨rfl, hbuilt, hsmooth⟩ := h
    have hquiet := Quiet.of_asides (t := t) (aside_checkEvents g) (refusals_checkEvents g)
    obtain ⟨hasked, hgranted⟩ := hleasing.unasked hleasing.fits hquiet.asked hquiet.granted
    exact .malformed hbuilt.symm hfault hasked hgranted (hsmooth.quiet hquiet)
  | take =>
    obtain ⟨hready, hsmooth⟩ := h
    exact hready.stage (hsmooth.append rfl rfl rfl (by simp)) c
  | queue =>
    obtain ⟨hready, hsmooth⟩ := h
    exact ⟨hready, hsmooth.append rfl rfl rfl (by simp)⟩
  | refused purpose =>
    obtain ⟨⟨g, rfl, hbuilt⟩, hsmooth⟩ := h
    obtain ⟨hsent, herrors⟩ := hsmooth.refuse (Purpose.plot g call.gated).refusal.1 rfl rfl
    refine .refused hbuilt ?_ hsent herrors ?_
    · rw [grants_append, hleasing.fits.2]
      rfl
    · simp [Purpose.refusal, hsmooth.begun]
  | keep | block =>
    obtain ⟨⟨g, hpurpose, -⟩, -⟩ := h
    cases hpurpose
  | stream | streamGated =>
    obtain ⟨⟨g', hpurpose, hbuilt⟩, hsmooth⟩ := h
    obtain ⟨rfl, -⟩ := Purpose.plot.inj hpurpose
    refine ⟨_, [], hpurpose, hbuilt, hsmooth.append rfl rfl rfl (by simp), ?_, .refl _⟩
    rw [Group.sends_script, List.nil_append]
  | streamTooLate =>
    obtain ⟨⟨g, -, hbuilt⟩, hsmooth⟩ := h
    refine .cancelled (.inr ⟨g, hbuilt⟩) ?_ (hsmooth.append rfl rfl rfl (by simp))
    rw [grants_append, hleasing.fits.2]
    simp [grants]
  | scriptEnds =>
    rw [List.append_nil]
    exact h
  | scriptSendWaits | scriptSend =>
    rw [List.append_nil]
    exact h
  | scriptWaits | scriptPasses =>
    obtain ⟨g, sent, -, -, -, -, hrest⟩ := h
    cases Group.isOfScript (hrest.mem (List.mem_cons_self ..))
  | @scriptLogs holder r rest =>
    have hlog : r.level = .debug := by
      obtain ⟨g, sent, -, -, -, -, hrest⟩ := h
      cases Group.isOfScript (hrest.mem (List.mem_cons_self ..)) with
      | log hlevel => exact hlevel
    refine Streaming.skip h rfl (by simp) (.of_asides ?_ rfl)
    simp [Event.isAside, hlog]
  | scriptFails =>
    rw [List.append_nil]
    exact Streaming.broken h hleasing.fits.2
  | sent => exact Streaming.send h
  | @sendFails holder f rest fault =>
    have hquiet := Quiet.of_asides (t := t) (aside_dropEvents c holder.socket)
      (refusals_dropEvents c holder.socket)
    exact Streaming.cut h hleasing.fits.2 (.inr ⟨_, _, rfl⟩) hquiet.sent hquiet.granted hquiet.refused
      (by simp [failEvents, hquiet.begun])
  | leave =>
    rw [List.append_nil]
    exact h
  | finish holder =>
    have hexit := Streaming.streamed h hleasing.fits.2
    obtain ⟨g, sent, hpurpose, -⟩ := h
    rw [hpurpose]
    have hquiet : Quiet t (Purpose.closing (.plot g call.gated)) :=
      .of_asides (by simp [Purpose.closing, Event.isAside, LogRecord.plotted]) rfl
    exact hexit.quiet hquiet
  | connect | connectFails | disconnect | acquire | lease | sendUnknown | sendWaits | send | handle
  | endpoint | endpointFails => cases h.1
  | keptSent | keptFails | awaitIncoming | closed | incomingFails | replyWaits | reply | answered
  | answerFails => exact h.elim

end Steps

/-! ### The whole way -/

theorem quiet_resumed (t : TaskId) : Quiet t [.resumed t] := by
  constructor <;> simp [deliveries, errorRecords, refusals, askOrder, grants]

theorem quiet_paused (t : TaskId) : Quiet t [.paused t] := by
  constructor <;> simp [deliveries, errorRecords, refusals, askOrder, grants]

theorem quiet_ended (t : TaskId) (name : String) (outcome : Except Fault TaskResult) :
    Quiet t [.ended t name outcome] := by
  constructor <;> simp [deliveries, errorRecords, refusals, askOrder, grants]

/-- A call that finds itself cancelled where it waits. -/
theorem Point.Plots.cancelled {w : World} {call : PlotCall} {t : TaskId} {es : List Event}
    {p : Point} (h : p.Plots w call t es) (hleasing : Leasing t es (.waits p)) :
    p.cancelledStage.Plots w call t (es ++ [.resumed t]) := by
  have hquiet := quiet_resumed t
  have hearly (hasked : askOrder es = []) (hsmooth : Smooth t es []) :
      PlotExit w call t (es ++ [.resumed t]) (.error .cancelled) := by
    have hexit : PlotExit w call t es (.error .cancelled) :=
      .cancelled (.inl hasked) (by simp [hleasing.not_granted hasked]) hsmooth
    exact hexit.quiet hquiet
  cases p with
  | fresh job => exact hearly hleasing.fits h.2.2
  | building call' g rest => exact hearly hleasing.fits h.2.2
  | queued purpose =>
    obtain ⟨⟨g, -, hbuilt⟩, hsmooth⟩ := h
    have hexit : PlotExit w call t es (.error .cancelled) :=
      .cancelled (.inr ⟨g, hbuilt⟩) (by simp [hleasing.fits.2]) hsmooth
    exact hexit.quiet hquiet
  | sending holder f rest =>
    exact Streaming.cut h hleasing.fits.2 (.inl rfl) hquiet.sent hquiet.granted hquiet.refused
      hquiet.begun
  | _ => exact h.elim

/-- A streaming call keeps to its way, whatever happens in between. -/
theorem Traced.plots {w : World} {t : TaskId} {name : String} {call : PlotCall} {es : List Event}
    {place : Whereabouts} (h : Traced w t name (.plot call) es place) : place.Plots w call t es := by
  induction h with
  | start => exact ⟨rfl, by simp, ⟨rfl, rfl, rfl, by simp⟩⟩
  | @resume es p c h hqueued ih =>
    have hplots := ih.quiet (quiet_resumed t)
    cases p <;> first | exact hplots | exact hplots.elim | cases hqueued
  | grant h ih =>
    obtain ⟨hready, hsmooth⟩ := ih
    exact hready.stage (hsmooth.append rfl rfl rfl (by simp)) _
  | giveUp h ih => exact ih.cancelled h.leasing
  | act h hact ih => exact hact.plots h.leasing ih
  | @wait es how p h hpoint ih =>
    have hquiet := quiet_paused t
    cases how with
    | gate g p =>
      cases hpoint
      exact Point.Plots.quiet ih hquiet
    | queue purpose =>
      cases hpoint
      exact ⟨ih.1, ih.2.quiet hquiet⟩
    | reader s => exact ih.elim
    | done outcome => cases hpoint
  | ends h ih => exact PlotExit.quiet ih (quiet_ended t name _)

/-! ## What an outcome tells -/

/-- A task was granted the lease, once, and `s` is the socket that was current then. -/
def GrantedOver (es : List Event) (t : TaskId) (s : SocketId) : Prop :=
  (grants es).filter (·.1 = t) = [(t, some s)] ∧ ∃ before after,
    es = before ++ .granted t (some s) :: after ∧ (sessionAfter before).map (·.socket) = some s

namespace PlotExit

variable {w : World} {call : PlotCall} {t : TaskId} {es : List Event}
  {outcome : Except Fault TaskResult}

theorem truth {r : TaskResult} (h : PlotExit w call t es outcome) (hr : outcome = .ok r) :
    ∃ b, r = .truth b := by
  cases h <;> cases hr <;> exact ⟨_, rfl⟩

theorem of_true (h : PlotExit w call t es outcome) (ht : outcome = .ok (.truth true)) :
    ∃ g s, call.Yields w.room g ∧ grants es = [(t, some s)] ∧
      deliveries es = (g.frames w.room).map (s, ·) ∧ ∀ fault, .fail fault ∉ g.script w.room := by
  cases h with
  | streamed hbuilt hgranted hsmooth hwhole => exact ⟨_, _, hbuilt, hgranted, hsmooth.sent, hwhole⟩
  | _ => cases ht

theorem of_false (h : PlotExit w call t es outcome) (hf : outcome = .ok (.truth false)) :
    deliveries es = [] ∧ ∃ r, errorRecords es = [r] := by
  cases h with
  | idle hbegun hcalled hgranted hsent herrors => exact ⟨hsent, _, herrors⟩
  | refused hbuilt hgranted hsent herrors => exact ⟨hsent, _, herrors⟩
  | _ => cases hf

/-- A call returns false just when no socket was current at its start or when it was granted the
lease. -/
theorem false_iff (h : PlotExit w call t es outcome) :
    outcome = .ok (.truth false) ↔ .began t none ∈ es ∨ .granted t none ∈ es := by
  have hnone {s : Option SocketId} (hgranted : grants es = [(t, s)]) (hs : s ≠ none) :
      .granted t none ∉ es := by
    intro hmem
    rw [← mem_grants, hgranted, List.mem_singleton] at hmem
    exact hs (congrArg Prod.snd hmem).symm
  have hnot (hgranted : grants es = []) : .granted t none ∉ es := by
    intro hmem
    rw [← mem_grants, hgranted] at hmem
    cases hmem
  cases h with
  | idle hbegun => exact ⟨fun _ => .inl hbegun, fun _ => rfl⟩
  | refused hbuilt hgranted =>
    refine ⟨fun _ => .inr ?_, fun _ => rfl⟩
    rw [← mem_grants, hgranted]
    exact List.mem_singleton_self _
  | streamed hbuilt hgranted hsmooth =>
    exact ⟨nofun, fun h => (h.elim hsmooth.begun (hnone hgranted nofun)).elim⟩
  | notBuilt hbuilt hasked hgranted hsmooth =>
    exact ⟨nofun, fun h => (h.elim hsmooth.begun (hnot hgranted)).elim⟩
  | malformed hbuilt hfault hasked hgranted hsmooth =>
    exact ⟨nofun, fun h => (h.elim hsmooth.begun (hnot hgranted)).elim⟩
  | cancelled hasked hgranted hsmooth =>
    exact ⟨nofun, fun h => (h.elim hsmooth.begun fun h => hgranted (mem_grants.mpr h)).elim⟩
  | notConnected hrefused hasked hgranted hsent hbegun =>
    exact ⟨nofun, fun h => (h.elim hbegun (hnot hgranted)).elim⟩
  | cut hbuilt hgranted hsent hframes hrest hrefused hbegun =>
    exact ⟨nofun, fun h => (h.elim hbegun (hnone hgranted nofun)).elim⟩
  | broken hbuilt hgranted hsmooth =>
    exact ⟨nofun, fun h => (h.elim hsmooth.begun (hnone hgranted nofun)).elim⟩

/-- Without a browser at its start, a call does not call its procedure. -/
theorem not_called (h : PlotExit w call t es outcome) (hbegun : .began t none ∈ es) :
    .called t ∉ es := by
  cases h with
  | idle _ hcalled => exact hcalled
  | streamed _ _ hsmooth | broken _ _ hsmooth | cancelled _ _ hsmooth =>
    exact absurd hbegun hsmooth.begun
  | notBuilt _ _ _ hsmooth | malformed _ _ _ _ hsmooth => exact absurd hbegun hsmooth.begun
  | refused _ _ _ _ hnot | notConnected _ _ _ _ hnot => exact absurd hbegun hnot
  | cut _ _ _ _ _ _ hnot => exact absurd hbegun hnot

/-- A call that fails in its procedure or in the check has sent nothing, and has not asked. -/
theorem not_asked {fault : Fault} (h : PlotExit w call t es outcome)
    (hfault : outcome = .error fault) (hwhy : fault.kind = .malformedPlot ∨
      call.built w.room = .error fault ∨ (∃ s, .refused s fault ∈ es) ∨
        ∃ g, call.built w.room = .ok g ∧ g.validate.fault? = some fault) :
    deliveries es = [] ∧ askOrder es = [] := by
  -- a group that was streamed has been built and passed the check, and nothing was refused
  have hyields {g : Group} (hbuilt : call.Yields w.room g) (hkind : fault.kind ≠ .malformedPlot)
      (hrefused : refusals es = []) : False := by
    rcases hwhy with h | h | ⟨s, h⟩ | ⟨g', hg', hfault'⟩
    · exact hkind h
    · rw [hbuilt.1] at h
      cases h
    · rw [← mem_refusals, hrefused] at h
      cases h
    · rw [hbuilt.1] at hg'
      obtain rfl := Except.ok.inj hg'
      rw [hbuilt.2] at hfault'
      cases hfault'
  cases h with
  | idle | refused | streamed => cases hfault
  | notBuilt _ hasked _ hsmooth | malformed _ _ hasked _ hsmooth => exact ⟨hsmooth.sent, hasked⟩
  | notConnected _ hasked _ hsent => exact ⟨hsent, hasked⟩
  | cancelled hasked _ hsmooth =>
    cases hfault
    rcases hasked with hasked | ⟨g, hbuilt⟩
    · exact ⟨hsmooth.sent, hasked⟩
    · exact (hyields hbuilt nofun hsmooth.refused).elim
  | cut hbuilt _ _ _ _ hrefused _ hcause =>
    cases hfault
    rcases hcause with rfl | ⟨frame, detail, rfl⟩
    · exact (hyields hbuilt nofun hrefused).elim
    · exact (hyields hbuilt nofun hrefused).elim
  | broken hbuilt _ hsmooth hfail =>
    cases hfault
    have hdata := Group.isOfData_of_fail hfail
    refine (hyields hbuilt (fun hkind => ?_) hsmooth.refused).elim
    simp [Fault.IsOfData, hkind] at hdata

/-- A call that fails in a send or is cancelled has not sent everything. -/
theorem of_cut {fault : Fault} (h : PlotExit w call t es outcome) (hfault : outcome = .error fault)
    (hkind : fault.kind = .transport ∨ fault.kind = .cancelled) :
    deliveries es = [] ∨ ∃ g s frames rest, call.Yields w.room g ∧ grants es = [(t, some s)] ∧
      deliveries es = frames.map (s, ·) ∧ g.frames w.room = frames ++ rest ∧ rest ≠ [] := by
  cases h with
  | idle | refused | streamed => cases hfault
  | notBuilt _ _ _ hsmooth | malformed _ _ _ _ hsmooth => exact .inl hsmooth.sent
  | notConnected _ _ _ hsent => exact .inl hsent
  | cancelled _ _ hsmooth => exact .inl hsmooth.sent
  | cut hbuilt hgranted hsent hframes hrest =>
    exact .inr ⟨_, _, _, _, hbuilt, hgranted, hsent, hframes, hrest⟩
  | broken _ _ _ hfail =>
    cases hfault
    have hdata := Group.isOfData_of_fail hfail
    rcases hkind with hkind | hkind <;> simp [Fault.IsOfData, hkind] at hdata

/-- A call that fails otherwise, though its group passes the check, has sent what it could. -/
theorem of_broken {fault : Fault} {g : Group} (h : PlotExit w call t es outcome)
    (hfault : outcome = .error fault) (htransport : fault.kind ≠ .transport)
    (hcancelled : fault.kind ≠ .cancelled) (hrefused : ∀ s, .refused s fault ∉ es)
    (hyields : call.Yields w.room g) :
    ∃ s, grants es = [(t, some s)] ∧ deliveries es = (g.frames w.room).map (s, ·) := by
  cases h with
  | idle | refused | streamed => cases hfault
  | notBuilt hbuilt =>
    rw [hyields.1] at hbuilt
    cases hbuilt
  | @notConnected s _ hmet =>
    cases hfault
    exact absurd hmet (hrefused s)
  | malformed hbuilt hcause =>
    rw [hyields.1] at hbuilt
    obtain rfl := Except.ok.inj hbuilt
    rw [hyields.2] at hcause
    cases hcause
  | cancelled =>
    cases hfault
    exact absurd rfl hcancelled
  | cut _ _ _ _ _ _ _ hcause =>
    cases hfault
    rcases hcause with rfl | ⟨frame, detail, rfl⟩
    · exact absurd rfl hcancelled
    · exact absurd rfl htransport
  | broken hbuilt hgranted hsmooth =>
    obtain rfl := Except.ok.inj (hyields.1.symm.trans hbuilt.1)
    exact ⟨_, hgranted, hsmooth.sent⟩

end PlotExit

/-- A streaming call that has ended in a scene has ended in one of these ways. -/
theorem Scene.Reachable.plotExit {w : World} {σ : Scene} (h : σ.Reachable w) {t : TaskId}
    {name name' : String} {call : PlotCall} {outcome : Except Fault TaskResult}
    (hstarted : .started t name (.plot call) ∈ σ.events)
    (hended : .ended t name' outcome ∈ σ.events) : PlotExit w call t (own t σ.events) outcome := by
  obtain ⟨job, hstarted', htraced⟩ := h.traced.traced t name' _ (.finished hended)
  obtain ⟨rfl, rfl⟩ := h.traced.once _ _ _ _ _ hstarted hstarted'
  exact htraced.plots

theorem grantedOver_of_own {es : List Event} {t : TaskId} {s : SocketId} (hsigned : Signed none es)
    (htruthful : Truthful none es) (h : grants (own t es) = [(t, some s)]) : GrantedOver es t s := by
  rw [grants_own hsigned] at h
  have hmem : (t, some s) ∈ grants es :=
    (List.mem_filter.mp (h ▸ List.mem_singleton_self _ :
      (t, some s) ∈ (grants es).filter (·.1 = t))).1
  obtain ⟨before, after, hsplit, hsocket⟩ := htruthful.moment (mem_grants.mp hmem)
  exact ⟨h, before, after, hsplit, hsocket.symm⟩

/-- An event of a task that tells that no socket is current is its doing, at some such moment. -/
theorem mem_own_iff_moment {es : List Event} {t : TaskId} {e : Event} (hsigned : Signed none es)
    (htruthful : Truthful none es) (hsigner : e.signer? = some t)
    (hagrees : ∀ c, e.Agrees c → c = none) :
    e ∈ own t es ↔ ∃ before after, es = before ++ e :: after ∧ sessionAfter before = none := by
  constructor
  · intro h
    obtain ⟨before, after, hsplit, hnow⟩ := htruthful.moment ((ownFrom_sublist t none es).subset h)
    exact ⟨before, after, hsplit, hagrees _ hnow⟩
  · rintro ⟨before, after, hsplit, -⟩
    exact hsigned.mem_ownFrom (hsplit ▸ List.mem_append_right _ (List.mem_cons_self ..)) hsigner

/-- A call that shows one window with one column. -/
def PlotCall.small : PlotCall :=
  ⟨.text "g", [.call (.newWindow (.text "a")),
    .call (.addSource 0 (.dict [(.text "x", .list [.int 1])]))], false⟩

def PlotCall.isSmall : PlotCall → Bool
  | ⟨.text "g", [.call (.newWindow (.text "a")),
      .call (.addSource 0 (.dict [(.text "x", .list [.int 1])]))], false⟩ => true
  | _ => false

theorem PlotCall.eq_small {call : PlotCall} (h : call.isSmall = true) : call = .small := by
  unfold isSmall at h
  split at h
  · rfl
  · cases h

/-- A browser connects, and a small plot is streamed to it. -/
def smallPlot : List Move :=
  [.start ⟨"browser", .connect "s" none, false⟩, .tick, .start ⟨"p", .plot .small, false⟩, .tick]

theorem smallPlot_started :
    .started 1 "p" (.plot .small) ∈ ((Hub.initial World.ideal).run smallPlot).events :=
  mem_of_any_startsPlot (fun _ => PlotCall.eq_small) (by decide +kernel)

theorem smallPlot_ended :
    .ended 1 "p" (.ok (.truth true)) ∈ ((Hub.initial World.ideal).run smallPlot).events :=
  mem_of_any_endsIn (by decide +kernel)

end PlotStream
