import PlotStream.Proofs.Session.Traces

/-!
# A task and the lease

What the doing of a single task says about the lease: it asks at most once, it is granted the lease
at most once and only after it has asked, and what it sends under the lease goes to the socket that
was current when it was granted the lease. `Leasing` is the invariant behind this, by induction over
`Traced`; it follows where a task stands (`Standing`). What goes out without the lease is an answer
of an endpoint or a send over a kept connection (`Traced.unleased`).
-/

namespace PlotStream

/-- Where a task stands with respect to the lease. -/
inductive Standing
  /-- It may still ask for the lease. -/
  | early
  | queued
  /-- It holds the lease, granted while a socket was current or none was. -/
  | holds (socket : Option SocketId)
  /-- It asks for the lease no more. -/
  | late

def Point.standing : Point → Standing
  | .fresh _ | .building _ _ _ => .early
  | .queued _ => .queued
  | .pausing holder _ | .sending holder _ _ => .holds (some holder.socket)
  | .sendingKept _ _ | .receiving _ | .replying _ _ => .late

def Stage.standing : Stage → Standing
  | .job _ _ | .build _ _ _ | .ask _ => .early
  | .refused _ => .holds none
  | .use holder | .script holder _ | .send holder _ _ | .finish holder =>
    .holds (some holder.socket)
  | .halt (.gate _ p) => p.standing
  | .halt (.queue _) => .queued
  | .leave _ | .sendKept _ _ | .serve _ | .answer _ _ | .halt (.reader _) | .halt (.done _) => .late

def Whereabouts.standing : Whereabouts → Standing
  | .waits p => p.standing
  | .runs stage => stage.standing
  | .finished _ => .late

/-- What the doing of a task has to say about the lease, by its standing. -/
def Standing.Fits (t : TaskId) (es : List Event) : Standing → Prop
  | early => askOrder es = []
  | queued => askOrder es = [t] ∧ grants es = []
  | holds s => askOrder es = [t] ∧ grants es = [(t, s)]
  | late => True

/-- A task that has given up waiting for the lease. -/
def Whereabouts.GaveUp (place : Whereabouts) : Prop :=
  place = .runs (.halt (.done (.error .cancelled))) ∨ place = .finished (.error .cancelled)

/-- What the doing of a task says about the lease. -/
structure Leasing (t : TaskId) (es : List Event) (place : Whereabouts) : Prop where
  asked : askOrder es = [] ∨ askOrder es = [t]
  granted : grants es = [] ∨ ∃ s, grants es = [(t, s)] ∧ askOrder es = [t]
  frames : ∀ x ∈ leasedFrames es, x.1 = t ∧ grants es = [(t, some x.2.1)]
  fits : place.standing.Fits t es
  waits : askOrder es = [t] → grants es = [] → place.standing = .queued ∨ place.GaveUp

/-! ## Steps -/

section Steps

variable {w : World} {t : TaskId} {c : Option Connection} {stage stage' : Stage} {es : List Event}

theorem Purpose.standing_stage (c : Option Connection) (purpose : Purpose) :
    (purpose.stage c).standing = .holds (c.map (·.socket)) := by
  cases c <;> rfl

theorem Point.standing_stage {p : Point} (h : p.isQueued = false) (c : Option Connection)
    (name : String) : (p.stage c name).standing = p.standing := by
  cases p <;> first | rfl | cases h

theorem Point.standing_cancelledStage (p : Point) : p.cancelledStage.standing = .late := by
  unfold cancelledStage
  split <;> rfl

theorem Halt.standing_point {how : Halt} {p : Point} (h : how.point? = some p) :
    p.standing = (Stage.halt how).standing := by
  cases how <;> cases h <;> rfl

theorem Stage.holds_of_standing {s : Option SocketId} (h : stage.standing = .holds s) :
    stage.holds = true := by
  cases stage with
  | halt how =>
    cases how with
    | gate g p => cases p <;> first | rfl | cases h
    | _ => cases h
  | _ => first | rfl | cases h

theorem Point.holds_of_standing {p : Point} {s : Option SocketId} (h : p.standing = .holds s) :
    p.holds = true := by
  cases p <;> first | rfl | cases h

theorem Purpose.stage_ne_queue (purpose : Purpose) (c : Option Connection) (purpose' : Purpose) :
    purpose.stage c ≠ .halt (.queue purpose') := by
  intro hstage
  cases c <;> cases hstage

theorem Point.stage_ne_queue {p : Point} (h : p.isQueued = false) (c : Option Connection)
    (name : String) (purpose : Purpose) : p.stage c name ≠ .halt (.queue purpose) := by
  intro hstage
  cases p <;> first | cases hstage | cases h

theorem Point.cancelledStage_ne_queue (p : Point) (purpose : Purpose) :
    p.cancelledStage ≠ .halt (.queue purpose) := by
  unfold cancelledStage
  split <;> exact nofun

/-- Nobody joins the queue but by asking. -/
theorem Stage.Acts.not_queued (hact : stage.Acts w t c es stage') (hasks : stage.asks = false)
    (purpose : Purpose) : stage' ≠ .halt (.queue purpose) := by
  cases hact <;> first | (intro h; cases h; done) | cases hasks

/-- Nobody asks but at the stage for it. -/
theorem Stage.Acts.asks_of_asked {u : TaskId} (hact : stage.Acts w t c es stage')
    (h : .asked u ∈ es) : stage.asks = true := by
  have hdrop {s : SocketId} : .asked u ∉ dropEvents c s := fun h => by
    cases aside_dropEvents c s _ h
  cases hact with
  | take | queue => rfl
  | connect | endpoint => cases aside_connectEvents _ _ _ h
  | disconnect | closed => exact absurd h hdrop
  | buildStep hdoes | buildFails hdoes => cases hdoes.aside _ h
  | built | malformed => cases aside_checkEvents _ _ h
  | sendFails | keptFails | answerFails | incomingFails =>
    exact absurd (by simpa [failEvents] using h) hdrop
  | refused purpose => cases purpose <;> simp [Purpose.refusal] at h
  | finish holder =>
    unfold Purpose.closing at h
    split at h <;> simp at h
  | _ => simp at h

/-- What an act means for the lease: nothing, a frame of the holder, or asking. -/
inductive LeaseMove (t : TaskId) : Standing → List Event → Standing → Prop
  | nothing {standing : Standing} {es : List Event} (hasks : askOrder es = [])
      (hgrants : grants es = []) (hframes : leasedFrames es = []) :
      LeaseMove t standing es standing
  | retire {standing : Standing} {es : List Event} (hasks : askOrder es = [])
      (hgrants : grants es = []) (hframes : leasedFrames es = [])
      (hqueued : standing ≠ .queued) : LeaseMove t standing es .late
  | frame {s : SocketId} {f : Frame} :
      LeaseMove t (.holds (some s)) [.delivered t true s f] (.holds (some s))
  | take {s : Option SocketId} : LeaseMove t .early [.asked t, .granted t s] (.holds s)
  | queue : LeaseMove t .early [.asked t] .queued

theorem LeaseMove.of_asides {standing standing' : Standing} (h : ∀ e ∈ es, e.isAside)
    (hstanding : standing' = standing ∨ standing' = .late ∧ standing ≠ .queued) :
    LeaseMove t standing es standing' := by
  have hasks := askOrder_of_asides h
  have hgrants := grants_of_asides h
  have hframes := leasedFrames_of_asides h
  rcases hstanding with rfl | ⟨rfl, hqueued⟩
  · exact .nothing hasks hgrants hframes
  · exact .retire hasks hgrants hframes hqueued

/-- The errors of a send concern nobody's lease. -/
theorem LeaseMove.of_errors {standing : Standing} (errors : List Event)
    (herrors : askOrder errors = [] ∧ grants errors = [] ∧ leasedFrames errors = [])
    (h : ∀ e ∈ es, e.isAside) (hqueued : standing ≠ .queued) :
    LeaseMove t standing (errors ++ es) .late := by
  obtain ⟨hasks, hgrants, hframes⟩ := herrors
  refine .retire ?_ ?_ ?_ hqueued
  · rw [askOrder_append, hasks, askOrder_of_asides h, List.nil_append]
  · rw [grants_append, hgrants, grants_of_asides h, List.nil_append]
  · rw [leasedFrames_append, hframes, leasedFrames_of_asides h, List.nil_append]

theorem Stage.Acts.leaseMove (hact : stage.Acts w t c es stage') :
    LeaseMove t stage.standing es stage'.standing := by
  cases hact with
  | connect | endpoint => exact .of_asides (aside_connectEvents _ _) (.inr ⟨rfl, nofun⟩)
  | disconnect | closed => exact .of_asides (aside_dropEvents _ _) (.inr ⟨rfl, nofun⟩)
  | buildStep h => exact .of_asides h.aside (.inl rfl)
  | buildFails h => exact .of_asides h.aside (.inr ⟨rfl, nofun⟩)
  | built => exact .of_asides (aside_checkEvents _) (.inl rfl)
  | malformed => exact .of_asides (aside_checkEvents _) (.inr ⟨rfl, nofun⟩)
  | take =>
    rw [Purpose.standing_stage]
    exact .take
  | queue => exact .queue
  | sent => exact .frame
  | @sendFails holder f rest fault =>
    exact .of_errors [.sendFailed t true holder.socket, .logged (.sendError f fault)]
      ⟨rfl, rfl, rfl⟩ (aside_dropEvents c holder.socket) nofun
  | @keptFails s f fault =>
    exact .of_errors [.sendFailed t false s, .logged (.sendError f fault)]
      ⟨rfl, rfl, rfl⟩ (aside_dropEvents c s) nofun
  | @answerFails s f fault =>
    exact .of_errors [.sendFailed t false s, .logged (.endpointError fault)]
      ⟨rfl, rfl, rfl⟩ (aside_dropEvents c s) nofun
  | @incomingFails s fault =>
    exact .of_errors [.logged (.endpointError fault)]
      ⟨rfl, rfl, rfl⟩ (aside_dropEvents c s) nofun
  | refused purpose => cases purpose <;> exact .retire rfl rfl rfl nofun
  | finish holder =>
    unfold Purpose.closing
    split <;> exact .retire rfl rfl rfl nofun
  | _ => first | exact .nothing rfl rfl rfl | exact .retire rfl rfl rfl nofun

end Steps

/-! ## The doing of a task -/

namespace Leasing

variable {w : World} {t : TaskId} {name : String} {es es' : List Event} {place : Whereabouts}

/-- Events that say nothing about the lease, after which a task does not wait for it unless it did. -/
theorem silent (inv : Leasing t es place) {place' : Whereabouts} (hasks : askOrder es' = [])
    (hgrants : grants es' = []) (hframes : leasedFrames es' = [])
    (hstanding : place'.standing = place.standing ∨ place'.standing = .late)
    (hwaits : askOrder es = [t] → grants es = [] → place'.standing = .queued ∨ place'.GaveUp) :
    Leasing t (es ++ es') place' := by
  constructor
  case asked => simpa [hasks] using inv.asked
  case granted => simpa [hasks, hgrants] using inv.granted
  case frames => simpa [hframes, hgrants] using inv.frames
  case fits =>
    rcases hstanding with h | h
    · have hfits := inv.fits
      rw [h]
      cases hplace : place.standing <;> simp_all [Standing.Fits]
    · rw [h]
      trivial
  case waits => simpa [hasks, hgrants] using hwaits

theorem not_granted (inv : Leasing t es place) (hasked : askOrder es = []) : grants es = [] := by
  rcases inv.granted with h | ⟨s, -, h⟩
  · exact h
  · rw [hasked] at h
    cases h

theorem no_frames (inv : Leasing t es place) (hgrants : grants es = []) : leasedFrames es = [] := by
  refine List.eq_nil_iff_forall_not_mem.mpr fun x hx => ?_
  have hgranted := (inv.frames x hx).2
  rw [hgrants] at hgranted
  cases hgranted

/-- The lease is granted now. -/
theorem grant (inv : Leasing t es place) {place' : Whereabouts} {s : Option SocketId}
    (hnone : grants es = []) (hasks : askOrder (es ++ es') = [t]) (hgrants : grants es' = [(t, s)])
    (hframes : leasedFrames es' = []) (hstanding : place'.standing = .holds s) :
    Leasing t (es ++ es') place' := by
  have hgranted : grants (es ++ es') = [(t, s)] := by
    rw [grants_append, hnone, hgrants, List.nil_append]
  constructor
  case asked => exact .inr hasks
  case granted => exact .inr ⟨s, hgranted, hasks⟩
  case frames => simp [inv.no_frames hnone, hframes]
  case fits =>
    rw [hstanding]
    exact ⟨hasks, hgranted⟩
  case waits =>
    intro _ h
    rw [hgranted] at h
    cases h

theorem act {stage stage' : Stage} {c : Option Connection} (inv : Leasing t es (.runs stage))
    (hact : stage.Acts w t c es' stage') : Leasing t (es ++ es') (.runs stage') := by
  have hfits : stage.standing.Fits t es := inv.fits
  have hwaits : askOrder es = [t] → grants es = [] → stage.standing = .queued := by
    intro hasked hgrants
    rcases inv.waits hasked hgrants with h | h | h
    · exact h
    · cases h
      cases hact
    · cases h
  have hmove := hact.leaseMove
  generalize hfrom : stage.standing = standing at hmove hfits hwaits
  generalize hto : stage'.standing = standing' at hmove
  cases hmove with
  | nothing hasks hgrants hframes =>
    exact inv.silent hasks hgrants hframes (.inl (hto.trans hfrom.symm))
      fun h h' => .inl (hto.trans (hwaits h h'))
  | retire hasks hgrants hframes hqueued =>
    exact inv.silent hasks hgrants hframes (.inr hto) fun h h' => absurd (hwaits h h') hqueued
  | @frame s f =>
    obtain ⟨hasked, hgranted⟩ := hfits
    have hasks : askOrder (es ++ [.delivered t true s f]) = [t] := by
      simpa [askOrder] using hasked
    have hgrants : grants (es ++ [.delivered t true s f]) = [(t, some s)] := by
      simpa [grants] using hgranted
    constructor
    case asked => exact .inr hasks
    case granted => exact .inr ⟨_, hgrants, hasks⟩
    case frames =>
      intro x hx
      rw [leasedFrames_append] at hx
      rw [hgrants]
      rcases List.mem_append.mp hx with hx | hx
      · exact ⟨(inv.frames x hx).1, hgranted ▸ (inv.frames x hx).2⟩
      · rw [List.mem_singleton.mp hx]
        exact ⟨rfl, rfl⟩
    case fits =>
      rw [Whereabouts.standing, hto]
      exact ⟨hasks, hgrants⟩
    case waits =>
      intro _ h
      rw [hgrants] at h
      cases h
  | take =>
    refine inv.grant (inv.not_granted hfits) ?_ rfl rfl hto
    rw [askOrder_append, show askOrder es = [] from hfits]
    rfl
  | queue =>
    have hnone := inv.not_granted hfits
    have hasks : askOrder (es ++ [.asked t]) = [t] := by
      rw [askOrder_append, show askOrder es = [] from hfits]
      rfl
    have hgrants : grants (es ++ [.asked t]) = [] := by
      rw [grants_append, hnone]
      rfl
    constructor
    case asked => exact .inr hasks
    case granted => exact .inl hgrants
    case frames =>
      rw [leasedFrames_append, inv.no_frames hnone]
      exact fun _ hx => absurd hx List.not_mem_nil
    case fits =>
      rw [Whereabouts.standing, hto]
      exact ⟨hasks, hgrants⟩
    case waits => exact fun _ _ => .inl hto

end Leasing

theorem Traced.leasing {w : World} {t : TaskId} {name : String} {job : Job} {es : List Event}
    {place : Whereabouts} (h : Traced w t name job es place) : Leasing t es place := by
  induction h with
  | start => exact ⟨.inl rfl, .inl rfl, nofun, rfl, nofun⟩
  | @resume es p c h hqueued ih =>
    have hstanding := Point.standing_stage hqueued c name
    refine ih.silent rfl rfl rfl (.inl hstanding) fun hasked hgrants => ?_
    rcases ih.waits hasked hgrants with h | h | h
    · cases p <;> cases h
      cases hqueued
    · cases h
    · cases h
  | @grant es purpose c h ih =>
    obtain ⟨hasked, hgranted⟩ := ih.fits
    refine ih.grant hgranted ?_ rfl rfl (Purpose.standing_stage c purpose)
    rw [askOrder_append, hasked]
    rfl
  | @giveUp es p h ih =>
    refine ih.silent rfl rfl rfl (.inr p.standing_cancelledStage) fun hasked hgrants => .inr ?_
    rcases ih.waits hasked hgrants with h | h | h
    · cases p <;> cases h
      exact .inl rfl
    · cases h
    · cases h
  | act h hact ih => exact ih.act hact
  | @wait es how p h hpoint ih =>
    have hstanding := Halt.standing_point hpoint
    refine ih.silent rfl rfl rfl (.inl hstanding) fun hasked hgrants => ?_
    rcases ih.waits hasked hgrants with h | h | h
    · exact .inl (hstanding.trans h)
    · cases h
      cases hpoint
    · cases h
  | ends h ih =>
    refine ih.silent rfl rfl rfl (.inr rfl) fun hasked hgrants => ?_
    rcases ih.waits hasked hgrants with h | h | h
    · cases h
    · cases h
      exact .inr (.inr rfl)
    · cases h

/-! ## What a task may send -/

/-- A frame that answers some text. -/
def Frame.IsReply (f : Frame) : Prop :=
  ∃ time text m room x, Message.reply time text = some m ∧ m.toJson room = .ok x ∧ f = .text x

/-- What a task may send under the lease or without it, by its job: an endpoint answers, a send over a
kept connection sends its frame, and a block sends what its script says. What a streaming call sends
is no matter of its job alone. -/
def Job.MaySend : Job → Bool → Frame → Prop
  | .endpoint _ _, false, f => f.IsReply
  | .send _ f, false, f' => f' = f
  | .lease script, true, f => .send f ∈ script
  | .plot _, true, _ => True
  | _, _, _ => False

/-- A task serves an endpoint only if it was started for one. -/
def Job.IsEndpoint (job : Job) : Prop :=
  ∃ s client, job = .endpoint s client

/-- A task fills a group only if it was started for that. -/
def Job.IsPlot (job : Job) : Prop :=
  ∃ call, job = .plot call

theorem Job.IsEndpoint.maySend {job : Job} (h : job.IsEndpoint) {f : Frame} (hf : f.IsReply) :
    job.MaySend false f := by
  obtain ⟨s, client, rfl⟩ := h
  exact hf

theorem Job.IsPlot.maySend {job : Job} (h : job.IsPlot) (f : Frame) : job.MaySend true f := by
  obtain ⟨call, rfl⟩ := h
  exact trivial

/-- The actions send nothing that the job does not allow. -/
def Job.Allows (job : Job) (actions : List Action) : Prop :=
  ∀ f, .send f ∈ actions → job.MaySend true f

theorem Job.Allows.tail {job : Job} {a : Action} {actions : List Action}
    (h : job.Allows (a :: actions)) : job.Allows actions :=
  fun f hf => h f (List.mem_cons_of_mem _ hf)

/-- A task keeps a connection only if it was started for that. -/
def Job.MayKeep (job : Job) (outcome : Except Fault TaskResult) : Prop :=
  ∀ s, outcome = .ok (.socket s) → job = .acquire

theorem Job.mayKeep_of_not_socket {job : Job} {outcome : Except Fault TaskResult}
    (h : ∀ s, outcome ≠ .ok (.socket s)) : job.MayKeep outcome :=
  fun s hs => absurd hs (h s)

/-- A task asks for the lease for a purpose that belongs to its job. -/
def Purpose.Serves (job : Job) : Purpose → Prop
  | .keep _ => job = .acquire
  | .block script => job = .lease script
  | .plot _ _ => job.IsPlot

/-- A task waits at a point that belongs to its job. -/
def Point.Serves (job : Job) : Point → Prop
  | .fresh job' => job' = job
  | .building _ _ _ => job.IsPlot
  | .queued purpose => purpose.Serves job
  | .pausing _ rest => job.Allows rest
  | .sending _ f rest => job.Allows (.send f :: rest)
  | .receiving _ => job.IsEndpoint
  | .replying _ f => job.IsEndpoint ∧ f.IsReply
  | .sendingKept _ f => job.MaySend false f

/-- A task is at a stage that belongs to its job. -/
def Stage.Serves (job : Job) : Stage → Prop
  | .job _ job' => job' = job
  | .build _ _ _ => job.IsPlot
  | .ask purpose | .refused purpose | .halt (.queue purpose) => purpose.Serves job
  | .use holder => holder.purpose.Serves job
  | .script _ rest => job.Allows rest
  | .send _ f rest => job.Allows (.send f :: rest)
  | .serve _ | .halt (.reader _) => job.IsEndpoint
  | .answer _ f => job.IsEndpoint ∧ f.IsReply
  | .sendKept _ f => job.MaySend false f
  | .halt (.gate _ p) => p.Serves job
  | .leave outcome => ∀ s, outcome ≠ .ok (.socket s)
  | .finish _ => True
  | .halt (.done outcome) => job.MayKeep outcome

def Whereabouts.Serves (job : Job) : Whereabouts → Prop
  | .waits p => p.Serves job
  | .runs stage => stage.Serves job
  | .finished outcome => job.MayKeep outcome

theorem Purpose.serves_stage {job : Job} {purpose : Purpose} (h : purpose.Serves job)
    (c : Option Connection) : (purpose.stage c).Serves job := by
  cases c <;> exact h

/-- What goes out in one step of a task: at most one frame, which the task was about to send. -/
theorem Stage.Acts.delivers {w : World} {t : TaskId} {c : Option Connection} {stage stage' : Stage}
    {es : List Event} (hact : stage.Acts w t c es stage') :
    deliveries es = [] ∨
      (∃ holder f rest, stage = .send holder f rest ∧ es = [.delivered t true holder.socket f]) ∨
        ∃ s f, (stage = .sendKept s f ∨ stage = .answer s f) ∧ es = [.delivered t false s f] := by
  have hdrop (s : SocketId) : deliveries (dropEvents c s) = [] :=
    deliveries_of_asides (aside_dropEvents c s)
  cases hact with
  | connect | endpoint => exact .inl (deliveries_of_asides (aside_connectEvents _ _))
  | disconnect | closed => exact .inl (hdrop _)
  | buildStep hdoes | buildFails hdoes => exact .inl (deliveries_of_asides hdoes.aside)
  | built | malformed => exact .inl (deliveries_of_asides (aside_checkEvents _))
  | sent => exact .inr (.inl ⟨_, _, _, rfl, rfl⟩)
  | keptSent => exact .inr (.inr ⟨_, _, .inl rfl, rfl⟩)
  | answered => exact .inr (.inr ⟨_, _, .inr rfl, rfl⟩)
  | sendFails | keptFails | answerFails | incomingFails =>
    exact .inl (hdrop _)
  | refused purpose => cases purpose <;> exact .inl rfl
  | finish holder =>
    unfold Purpose.closing
    split <;> exact .inl rfl
  | _ => exact .inl rfl

/-- A task that is about to send a frame may send it. -/
theorem Stage.Acts.maySend {w : World} {t : TaskId} {c : Option Connection} {stage stage' : Stage}
    {es : List Event} {job : Job} (hact : stage.Acts w t c es stage') (h : stage.Serves job)
    {u : TaskId} {leased : Bool} {s : SocketId} {f : Frame} (hf : .delivered u leased s f ∈ es) :
    job.MaySend leased f := by
  rcases hact.delivers with hnone | ⟨holder, f', rest, rfl, rfl⟩ | ⟨s', f', hstage, rfl⟩
  · have hmem : (s, f) ∈ deliveries es := List.mem_filterMap.mpr ⟨_, hf, rfl⟩
    rw [hnone] at hmem
    cases hmem
  · cases List.mem_singleton.mp hf
    exact h f (List.mem_cons_self ..)
  · cases List.mem_singleton.mp hf
    rcases hstage with rfl | rfl
    · exact h
    · exact h.1.maySend h.2

theorem Stage.Acts.serves {w : World} {t : TaskId} {c : Option Connection} {stage stage' : Stage}
    {es : List Event} {job : Job} (hact : stage.Acts w t c es stage') (h : stage.Serves job) :
    stage'.Serves job := by
  cases hact with
  | sendWaits | send =>
    subst h
    exact rfl
  | acquire | lease => exact h.symm
  | plot => exact ⟨_, h.symm⟩
  | endpoint => exact ⟨_, _, h.symm⟩
  | take => exact Purpose.serves_stage h c
  | block =>
    obtain rfl := h
    exact fun f hf => hf
  | stream | streamGated => exact fun f _ => Job.IsPlot.maySend h f
  | scriptWaits | scriptPasses | scriptLogs | sent => exact Job.Allows.tail h
  | replyWaits hreply hjson | reply hreply hjson => exact ⟨h, _, _, _, _, _, hreply, hjson, rfl⟩
  | answered => exact h.1
  | keep => exact fun _ _ => h
  | handle houtcome => exact Job.mayKeep_of_not_socket houtcome
  | leave => exact Job.mayKeep_of_not_socket h
  | refused purpose =>
    exact Job.mayKeep_of_not_socket fun s => by cases purpose <;> simp [Purpose.refusal]
  | scriptEnds => exact trivial
  | buildStep | buildWaits | built | queue | scriptSendWaits | scriptSend | awaitIncoming => exact h
  | streamTooLate | scriptFails | sendFails =>
    intro f hf
    cases hf
  | _ =>
    refine Job.mayKeep_of_not_socket fun s hs => ?_
    cases hs

/-- Whatever a task sends, it may send. -/
theorem Traced.maySend {w : World} {t : TaskId} {name : String} {job : Job} {es : List Event}
    {place : Whereabouts} (h : Traced w t name job es place) :
    place.Serves job ∧ ∀ u leased s f, .delivered u leased s f ∈ es → job.MaySend leased f := by
  induction h with
  | start => exact ⟨rfl, nofun⟩
  | @resume es p c h hqueued ih =>
    refine ⟨?_, by simpa using ih.2⟩
    have hserves := ih.1
    cases p <;> first | exact hserves | cases hqueued
  | @grant es purpose c h ih => exact ⟨Purpose.serves_stage ih.1 c, by simpa using ih.2⟩
  | @giveUp es p h ih =>
    refine ⟨?_, by simpa using ih.2⟩
    unfold Point.cancelledStage
    split
    · exact nofun
    · exact Job.mayKeep_of_not_socket nofun
  | act h hact ih =>
    refine ⟨hact.serves ih.1, fun u leased s f hf => ?_⟩
    rcases List.mem_append.mp hf with hf | hf
    · exact ih.2 u leased s f hf
    · exact hact.maySend ih.1 hf
  | @wait es how p h hpoint ih =>
    refine ⟨?_, by simpa using ih.2⟩
    have hserves := ih.1
    cases how <;> cases hpoint <;> exact hserves
  | ends h ih => exact ⟨ih.1, by simpa using ih.2⟩

end PlotStream
