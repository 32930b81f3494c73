import PlotStream.Proofs.Session.Operations

/-!
# Runs of a task as steps

A run of a task is a sequence of the small steps of `Scene.Step`, none of which gives the lease back
from outside (`Scene.Stride`). It is taken apart by the recursion of the functions that carry it out:
each function leads from its stage to a halt (`Hub.Settles`), and what it answers is that halt
registered with the session.
-/

namespace PlotStream

/-- What a task that halts answers: it is entered where it waits, or it ends. -/
def Halt.register (t : TaskId) (h : Hub) : Halt → Progress × Hub
  | .gate g p => (.waits p, h.waitAt g t)
  | .queue purpose => (.waits (.queued purpose), { h with lease := h.lease.enqueue t })
  | .reader s => h.awaitIncoming t s
  | .done outcome => (.ends outcome, h)

namespace Hub

/-- From a stage the task comes to a halt, and `out` is what it answers. -/
def Settles (w : World) (task : Task) (stage : Stage) (h : Hub) (out : Progress × Hub) : Prop :=
  ∃ (how : Halt) (h' : Hub), Relation.ReflTransGen (Scene.Stride w) (h.scene (some (task, stage)))
    (h'.scene (some (task, .halt how))) ∧ h'.Tracks w ∧ out = how.register task.id h'

variable {w : World} {task : Task} {h h' : Hub} {stage stage' : Stage} {es : List Event}
  {out : Progress × Hub}

namespace Settles

theorem halt (htracks : h.Tracks w) (how : Halt) :
    Settles w task (.halt how) h (how.register task.id h) :=
  ⟨how, h, .refl, htracks, rfl⟩

theorem head (hstep : Scene.Step w (h.scene (some (task, stage))) (h'.scene (some (task, stage'))))
    (hrest : Settles w task stage' h' out) : Settles w task stage h out := by
  obtain ⟨how, h'', hsteps, htracks, hout⟩ := hrest
  exact ⟨how, h'', .head ⟨hstep, nofun⟩ hsteps, htracks, hout⟩

/-- A step that leaves the lease alone. -/
theorem act (hasks : stage.asks = false) (hreleases : stage.releases = false) (htracks : h.Tracks w)
    (he : Emits h h' es) (hact : stage.Acts w task.id h.current es stage')
    (hrest : h'.Tracks w → Settles w task stage' h' out) : Settles w task stage h out := by
  refine head ?_ (hrest (he.tracks htracks))
  rw [← htracks.session_eq (some (task, stage))] at hact
  have hstep := Scene.Step.act rfl hact hasks hreleases
  rw [he.scene]
  exact hstep

end Settles

/-- What a scene does not show makes no difference. -/
theorem Settles.silent (he : Emits h h' []) (hrest : Settles w task stage h' out) :
    Settles w task stage h out := by
  have hscene : h'.scene (some (task, stage)) = h.scene (some (task, stage)) := by
    rw [he.scene, List.append_nil]
    rfl
  rw [Settles, hscene] at hrest
  exact hrest

/-! ## Giving the lease back -/

/-- Replace the lease, and let someone go on. -/
def passTo (h : Hub) (next : Option TaskId × Lease) : Hub :=
  { h with lease := next.2 }.makeReady? next.1

theorem scene_passTo (h : Hub) (next : Option TaskId × Lease) (running : Option (Task × Stage)) :
    (h.passTo next).scene running = (h.scene running).grantTo next := by
  obtain ⟨t?, l⟩ := next
  cases t? with
  | none => simp [passTo, makeReady?, scene, Scene.grantTo, events, socket]
  | some t => rfl

@[simp] theorem events_passTo (h : Hub) (next : Option TaskId × Lease) :
    (h.passTo next).events = h.events := by
  obtain ⟨t?, l⟩ := next
  cases t? <;> rfl

theorem Tracks.passTo (htracks : h.Tracks w) (next : Option TaskId × Lease) :
    (h.passTo next).Tracks w := by
  obtain ⟨t?, l⟩ := next
  cases t? <;> exact ⟨htracks.world, htracks.session⟩

theorem releaseLease_of_held (hheld : h.lease.held = true) :
    h.releaseLease = (.ok (), h.passTo h.lease.passOn) := by
  unfold releaseLease Lease.release
  rw [if_pos hheld]
  rfl

theorem releaseLease_of_not_held (hheld : h.lease.held = false) :
    h.releaseLease = (.error .leaseNotHeld, h) := by
  unfold releaseLease Lease.release
  rw [if_neg (by simp [hheld])]

/-- A step that gives the lease back and comes to a halt. -/
theorem Settles.release {how : Halt} (hreleases : stage.releases = true) (htracks : h.Tracks w)
    (hheld : h.lease.held = true) (he : Emits (h.passTo h.lease.passOn) h' es)
    (hact : stage.Acts w task.id h.current es (.halt how)) :
    Settles w task stage h (how.register task.id h') := by
  rw [← htracks.session_eq (some (task, stage))] at hact
  have hstep := Scene.Step.release rfl hact hreleases hheld
  refine .head ?_ (.halt (he.tracks (htracks.passTo _)) how)
  rw [he.scene, scene_passTo, events_passTo]
  exact hstep

/-- The lease was lost in between. -/
theorem Settles.lost (hreleases : stage.releases = true) (htracks : h.Tracks w)
    (hheld : h.lease.held = false) : Settles w task stage h (.ends (.error .leaseNotHeld), h) := by
  refine .head ?_ (.halt htracks (.done (.error .leaseNotHeld)))
  have hstep : Scene.Step w (h.scene (some (task, stage))) _ := .lost rfl hreleases hheld
  simpa [Scene.go, scene] using hstep

/-! ## Under the lease -/

theorem settles_leave (htracks : h.Tracks w) (outcome : Except Fault TaskResult) :
    Settles w task (.leave outcome) h (h.leave outcome) := by
  unfold leave
  by_cases hheld : h.lease.held = true
  · rw [releaseLease_of_held hheld]
    exact .release rfl htracks hheld (.refl _) .leave
  · rw [Bool.not_eq_true] at hheld
    rw [releaseLease_of_not_held hheld]
    exact .lost rfl htracks hheld

theorem settles_finish (htracks : h.Tracks w) (holder : Holder) :
    Settles w task (.finish holder) h (h.finish holder) := by
  obtain ⟨s, purpose⟩ := holder
  unfold finish
  by_cases hheld : h.lease.held = true
  · rw [releaseLease_of_held hheld]
    cases purpose with
    | plot g gated =>
      exact .release rfl htracks hheld (emits_log _ (.plotted g)) (.finish ⟨s, .plot g gated⟩)
    | keep name => exact .release rfl htracks hheld (.refl _) (.finish ⟨s, .keep name⟩)
    | block script => exact .release rfl htracks hheld (.refl _) (.finish ⟨s, .block script⟩)
  · rw [Bool.not_eq_true] at hheld
    rw [releaseLease_of_not_held hheld]
    exact .lost rfl htracks hheld

theorem settles_runScript (htracks : h.Tracks w) (holder : Holder) (rest : List Action) :
    Settles w task (.script holder rest) h (h.runScript task.id holder rest) := by
  induction rest generalizing h with
  | nil =>
    rw [runScript]
    exact .act rfl rfl htracks (.refl h) .scriptEnds fun htracks => settles_finish htracks holder
  | cons action rest ih =>
    cases action with
    | send f =>
      rw [runScript]
      have hbegin := h.emits_beginSend holder.socket
      generalize h.beginSend holder.socket = begun at hbegin ⊢
      obtain ⟨gate?, h'⟩ := begun
      cases gate? with
      | some gate =>
        exact .act rfl rfl htracks hbegin .scriptSendWaits fun htracks =>
          .halt htracks (.gate gate (.sending holder f rest))
      | none =>
        refine .act rfl rfl htracks hbegin .scriptSend fun htracks => ?_
        dsimp only
        rcases h'.deliverHandedOut_cases task.id true holder.socket f with
          ⟨h'', hdeliver, hsent⟩ | ⟨fault, h'', hdeliver, hfailed⟩
        · rw [hdeliver]
          exact .act rfl rfl htracks hsent .sent fun htracks => ih htracks
        · rw [hdeliver]
          exact .act rfl rfl htracks hfailed .sendFails fun htracks => settles_leave htracks _
    | await g =>
      rw [runScript]
      split
      · exact .act rfl rfl htracks (.refl h) .scriptPasses fun htracks => ih htracks
      · exact .act rfl rfl htracks (.refl h) .scriptWaits fun htracks =>
          .halt htracks (.gate g (.pausing holder rest))
    | log r =>
      rw [runScript]
      exact .act rfl rfl htracks (h.emits_log r) .scriptLogs fun htracks => ih htracks
    | fail fault =>
      rw [runScript]
      exact .act rfl rfl htracks (.refl h) .scriptFails fun htracks => settles_leave htracks _

theorem settles_resumeSend (htracks : h.Tracks w) (holder : Holder) (f : Frame)
    (rest : List Action) :
    Settles w task (.send holder f rest) h (h.resumeSend task.id holder f rest) := by
  unfold resumeSend
  rcases h.deliverHandedOut_cases task.id true holder.socket f with
    ⟨h', hdeliver, hsent⟩ | ⟨fault, h', hdeliver, hfailed⟩
  · rw [hdeliver]
    exact .act rfl rfl htracks hsent .sent fun htracks => settles_runScript htracks holder rest
  · rw [hdeliver]
    exact .act rfl rfl htracks hfailed .sendFails fun htracks => settles_leave htracks _

theorem emits_keep (h : Hub) (kept : List (String × SocketId)) : Emits h { h with kept } [] :=
  ⟨rfl, rfl, rfl, rfl, rfl, rfl, fun _ => rfl, (List.append_nil _).symm, rfl⟩

theorem settles_begin (htracks : h.Tracks w) (holder : Holder) :
    Settles w task (.use holder) h (h.begin task.id holder) := by
  obtain ⟨s, purpose⟩ := holder
  cases purpose with
  | keep name =>
    exact .act rfl rfl htracks (h.emits_keep _) .keep fun htracks =>
      .halt htracks (.done (.ok (.socket s)))
  | block script =>
    exact .act rfl rfl htracks (.refl h) .block fun htracks => settles_runScript htracks _ script
  | plot g gated =>
    cases gated with
    | false =>
      rw [begin, htracks.world]
      exact .act rfl rfl htracks (.refl h) .stream fun htracks =>
        settles_runScript htracks _ (g.script w.room)
    | true =>
      have hasked := h.emits_askGate task.id .start
      unfold begin
      dsimp only
      generalize h.askGate task.id .start = answered at hasked ⊢
      obtain ⟨answer, h'⟩ := answered
      cases answer with
      | true =>
        dsimp only
        rw [hasked.world, htracks.world]
        exact .act rfl rfl htracks hasked .streamGated fun htracks =>
          settles_runScript htracks _ (g.script w.room)
      | false => exact .act rfl rfl htracks hasked .streamTooLate fun htracks =>
          settles_leave htracks _

/-- No browser is connected: the lease is given back at once. -/
def refuse (h : Hub) (purpose : Purpose) : Progress × Hub :=
  match h.releaseLease with
  | (.ok (), h) => h.withoutSession purpose
  | (.error fault, h) => (.ends (.error fault), h)

theorem settles_refuse (htracks : h.Tracks w) (purpose : Purpose) :
    Settles w task (.refused purpose) h (h.refuse purpose) := by
  unfold refuse
  by_cases hheld : h.lease.held = true
  · rw [releaseLease_of_held hheld]
    cases purpose with
    | plot g gated =>
      exact .release rfl htracks hheld (emits_log _ (.noSession g.id)) (.refused (.plot g gated))
    | keep name => exact .release rfl htracks hheld (.refl _) (.refused (.keep name))
    | block script => exact .release rfl htracks hheld (.refl _) (.refused (.block script))
  · rw [Bool.not_eq_true] at hheld
    rw [releaseLease_of_not_held hheld]
    exact .lost rfl htracks hheld

/-- The event of a grant. -/
def granted (h : Hub) (t : TaskId) : Event :=
  .granted t (h.current.map (·.socket))

theorem afterGrant_eq (h : Hub) (t : TaskId) (purpose : Purpose) :
    h.afterGrant t purpose =
      match h.current with
      | some c => (h.record (h.granted t)).begin t ⟨c.socket, purpose⟩
      | none => (h.record (h.granted t)).refuse purpose := by
  have hcurrent : (h.record (h.granted t)).current = h.current := rfl
  unfold afterGrant connection
  cases hc : h.current with
  | some c => simp only [granted, record, hc]
  | none =>
    simp only [granted, record, hc]
    rfl

theorem settles_afterGrant (htracks : h.Tracks w) (purpose : Purpose) :
    Settles w task (purpose.stage h.current) (h.record (h.granted task.id))
      (h.afterGrant task.id purpose) := by
  have hrecorded : (h.record (h.granted task.id)).Tracks w :=
    (h.emits_record fun _ => rfl).tracks htracks
  rw [afterGrant_eq]
  cases h.current with
  | some c => exact settles_begin hrecorded ⟨c.socket, purpose⟩
  | none => exact settles_refuse hrecorded purpose

/-- Ask for the lease: take it at once, or come to a halt in the queue. -/
theorem settles_requestLease (htracks : h.Tracks w) (purpose : Purpose) :
    Settles w task (.ask purpose) h (h.requestLease task.id purpose) := by
  have hasked : Emits h (h.record (.asked task.id)) [.asked task.id] := h.emits_record fun _ => rfl
  have htracks' := hasked.tracks htracks
  unfold requestLease
  dsimp only
  by_cases hopen : h.lease.isOpen = true
  · have hopen' : (h.record (.asked task.id)).lease.isOpen = true := hopen
    rw [if_pos hopen']
    let taken : Hub := { h.record (.asked task.id) with lease := h.lease.take }
    have htaken : taken.Tracks w := ⟨htracks'.world, htracks'.session⟩
    refine .head ?_ (settles_afterGrant htaken purpose)
    have hsession := htracks.session_eq (some (task, .ask purpose))
    have hstep : Scene.Step w (h.scene (some (task, .ask purpose))) _ := .take rfl hopen
    rw [hsession] at hstep
    have hevents : (taken.record (taken.granted task.id)).events =
        h.events ++ [.asked task.id, h.granted task.id] := by
      simp [taken, granted, events, record]
    have hscene : (taken.record (taken.granted task.id)).scene
        (some (task, purpose.stage taken.current)) =
        { (h.scene (some (task, .ask purpose))).go task (purpose.stage h.current)
            [.asked task.id, h.granted task.id] with lease := h.lease.take } := by
      rw [scene, hevents]
      rfl
    rw [hscene]
    exact hstep
  · have hopen' : ¬ (h.record (.asked task.id)).lease.isOpen = true := hopen
    rw [if_neg hopen']
    rw [Bool.not_eq_true] at hopen
    refine .head ?_ (.halt htracks' (.queue purpose))
    rw [hasked.scene]
    exact .queue rfl hopen

/-! ## Plotting procedures -/

theorem validate_cases (h : Hub) (g : Group) :
    ∃ h', Emits h h' (checkEvents g) ∧
      ((∃ fault, g.validate.fault? = some fault ∧ h.validate g = (.error fault, h')) ∨
        (g.validate.fault? = none ∧ h.validate g = (.ok (), h'))) := by
  refine ⟨(h.validate g).2, h.emits_check g, ?_⟩
  have hfst := h.validate_fst g
  cases hfault : g.validate.fault? with
  | some fault =>
    rw [hfault] at hfst
    exact .inl ⟨fault, rfl, Prod.ext hfst rfl⟩
  | none =>
    rw [hfault] at hfst
    exact .inr ⟨rfl, Prod.ext hfst rfl⟩

/-- Answering a question is a step that leaves the group alone or fails. -/
theorem inspect_cases (htracks : h.Tracks w) (g : Group) (q : Inspection) :
    ∃ h' es, Emits h h' es ∧
      ((∃ fault, h.inspect g q = (.error fault, h') ∧
          BuildStep.Does w h.current g (.inspect q) es (.error fault)) ∨
        (h.inspect g q = (.ok (), h') ∧ BuildStep.Does w h.current g (.inspect q) es (.ok g))) := by
  by_cases hq : q = .validate
  · subst hq
    obtain ⟨h', he, ⟨fault, hfault, hvalidate⟩ | ⟨hfault, hvalidate⟩⟩ := h.validate_cases g
    · exact ⟨h', _, he, .inl ⟨fault, hvalidate, .checkFails hfault⟩⟩
    · exact ⟨h', _, he, .inr ⟨hvalidate, .check hfault⟩⟩
  · cases hanswer : g.inspect w.room.calls q with
    | ok answer =>
      have hinspect : h.inspect g q = (.ok (), h) := by
        rw [inspect, htracks.world, hanswer]
        exact hq
      exact ⟨h, [], .refl h, .inr ⟨hinspect, .inspect hq hanswer⟩⟩
    | error fault =>
      have hinspect : h.inspect g q = (.error fault, h) := by
        rw [inspect, htracks.world, hanswer]
        exact hq
      exact ⟨h, [], .refl h, .inl ⟨fault, hinspect, .inspectFails hq hanswer⟩⟩

theorem settles_runBuild (htracks : h.Tracks w) (call : PlotCall) (g : Group)
    (rest : List BuildStep) :
    Settles w task (.build call g rest) h (h.runBuild task.id call g rest) := by
  induction rest generalizing h g with
  | nil =>
    rw [runBuild]
    obtain ⟨h', he, ⟨fault, hfault, hvalidate⟩ | ⟨hfault, hvalidate⟩⟩ := h.validate_cases g
    · rw [hvalidate]
      exact .act rfl rfl htracks he (.malformed hfault) fun htracks =>
        .halt htracks (.done (.error fault))
    · rw [hvalidate]
      exact .act rfl rfl htracks he (.built hfault) fun htracks => settles_requestLease htracks _
  | cons step rest ih =>
    cases step with
    | call b =>
      rw [runBuild]
      cases hcall : g.call b with
      | ok answered =>
        exact .act rfl rfl htracks (.refl h) (.buildStep (.call hcall)) fun htracks => ih htracks _
      | error fault =>
        exact .act rfl rfl htracks (.refl h) (.buildFails (.callFails hcall)) fun htracks =>
          .halt htracks (.done (.error fault))
    | inspect q =>
      rw [runBuild]
      obtain ⟨h', es, he, ⟨fault, hinspect, hdoes⟩ | ⟨hinspect, hdoes⟩⟩ :=
        inspect_cases htracks g q
      · rw [hinspect]
        exact .act rfl rfl htracks he (.buildFails hdoes) fun htracks =>
          .halt htracks (.done (.error fault))
      · rw [hinspect]
        exact .act rfl rfl htracks he (.buildStep hdoes) fun htracks => ih htracks g
    | fail fault =>
      rw [runBuild]
      exact .act rfl rfl htracks (.refl h) (.buildFails (.fail fault)) fun htracks =>
        .halt htracks (.done (.error fault))
    | noteLeased =>
      rw [runBuild]
      exact .act rfl rfl htracks (h.emits_record fun _ => rfl) (.buildStep (.note h.lease.held))
        fun htracks => ih htracks g
    | await gate =>
      rw [runBuild]
      split
      · exact .act rfl rfl htracks (.refl h) (.buildStep (.await gate)) fun htracks => ih htracks g
      · exact .act rfl rfl htracks (.refl h) .buildWaits fun htracks =>
          .halt htracks (.gate gate (.building call g rest))
    | connect s client =>
      rw [runBuild, connect]
      rcases h.connectOn_cases .running s client with
        ⟨fault, h', hrefusal, hconnect, he⟩ | ⟨hrefusal, now, h', hconnect, he⟩
      · rw [htracks.world] at hrefusal
        rw [hconnect]
        exact .act rfl rfl htracks he (.buildFails (.connectFails hrefusal)) fun htracks =>
          .halt htracks (.done (.error fault))
      · rw [htracks.world] at hrefusal
        rw [hconnect]
        exact .act rfl rfl htracks he (.buildStep (.connect hrefusal)) fun htracks => ih htracks g
    | disconnect s =>
      rw [runBuild]
      exact .act rfl rfl htracks (h.emits_disconnect s) (.buildStep (.disconnect s)) fun htracks =>
        ih htracks g

theorem settles_startPlot {name : String} (htracks : h.Tracks w) (call : PlotCall) :
    Settles w task (.job name (.plot call)) h (h.startPlot task.id call) := by
  have hbegan : ∀ s, Emits h (h.record (.began task.id s)) [.began task.id s] :=
    fun _ => h.emits_record fun _ => rfl
  unfold startPlot isActive
  cases hc : h.current with
  | some c =>
    have hcalled : Emits h ((h.record (.began task.id (some c.socket))).record (.called task.id))
        [.began task.id (some c.socket), .called task.id] :=
      (hbegan _).trans (emits_record _ fun _ => rfl)
    have hrest : Settles w task (.job name (.plot call)) h _ :=
      .act rfl rfl htracks hcalled (.plot hc) fun htracks =>
        settles_runBuild htracks call (Group.blank call.groupId) call.build
    simpa [record, hc] using hrest
  | none =>
    have hlogged : Emits h ((h.record (.began task.id none)).log (.noSession call.groupId))
        [.began task.id none, .logged (.noSession call.groupId)] :=
      (hbegan _).trans (emits_log _ _)
    have hrest : Settles w task (.job name (.plot call)) h _ :=
      .act rfl rfl htracks hlogged (.plotIdle hc) fun htracks =>
        .halt htracks (.done (.ok (.truth false)))
    simpa [record, log, Halt.register, hc] using hrest

/-! ## Endpoints -/

theorem settles_failEndpoint (htracks : h.Tracks w) (s : SocketId) (fault : Fault) :
    Settles w task (.serve s) h (h.failEndpoint s fault) := by
  have hdropped := (h.emits_log (.endpointError fault)).trans (emits_disconnect _ s)
  exact .act rfl rfl htracks hdropped .incomingFails fun htracks =>
    .halt htracks (.done (.ok .nothing))

/-- The send of a reply is completed, and `rest` tells how the endpoint goes on. -/
theorem settles_answer (htracks : h.Tracks w) (s : SocketId) (f : Frame)
    {rest : Hub → Progress × Hub}
    (hrest : ∀ h' : Hub, h'.Tracks w → Settles w task (.serve s) h' (rest h')) :
    Settles w task (.answer s f) h
      (match h.deliver task.id false s f with
        | (.ok (), h) => rest h
        | (.error fault, h) => h.failEndpoint s fault) := by
  rcases h.deliver_cases task.id false s f with ⟨h', hdeliver, hsent⟩ | ⟨fault, h', hdeliver, hfailed⟩
  · rw [hdeliver]
    exact .act rfl rfl htracks hsent .answered fun htracks => hrest h' htracks
  · rw [hdeliver]
    have hlogged := hfailed.trans (h'.emits_log (.endpointError fault))
    have hdropped := hlogged.trans (emits_disconnect _ s)
    rw [hlogged.current] at hdropped
    exact .act rfl rfl htracks hdropped .answerFails fun htracks =>
      .halt htracks (.done (.ok .nothing))

theorem settles_runEndpoint (htracks : h.Tracks w) (s : SocketId) (items : List Incoming) :
    Settles w task (.serve s) h (h.runEndpoint task.id s items) := by
  induction items generalizing h with
  | nil =>
    rw [runEndpoint]
    exact .act rfl rfl htracks (.refl h) .awaitIncoming fun htracks => .halt htracks (.reader s)
  | cons item rest ih =>
    have hinbox := h.emits_setInbox s rest
    have htracks' := hinbox.tracks htracks
    cases item with
    | closed =>
      rw [runEndpoint]
      exact .silent hinbox <| .act rfl rfl htracks' (emits_disconnect _ s) .closed fun htracks =>
        .halt htracks (.done (.ok .nothing))
    | failed fault =>
      rw [runEndpoint]
      exact .silent hinbox (settles_failEndpoint htracks' s fault)
    | text text =>
      rw [runEndpoint]
      have hframe := (h.setInbox s rest).emits_replyFrame text
      have hanswer (f : Frame) : ((h.setInbox s rest).replyFrame text).1 = some (.ok f) → _ :=
        replyFrame_ok
      rw [hinbox.world, htracks.world] at hanswer
      generalize (h.setInbox s rest).replyFrame text = answer at hframe hanswer ⊢
      obtain ⟨frame?, h₁⟩ := answer
      have hsilent := hinbox.trans hframe
      have htracks₁ := hsilent.tracks htracks
      refine .silent hsilent ?_
      cases frame? with
      | none => exact ih htracks₁
      | some frame =>
        cases frame with
        | error fault => exact settles_failEndpoint htracks₁ s fault
        | ok f =>
          obtain ⟨time, m, x, hreply, hjson, rfl⟩ := hanswer f rfl
          have hbegin := h₁.emits_beginSend s
          dsimp only at hbegin ⊢
          generalize h₁.beginSend s = begun at hbegin ⊢
          obtain ⟨gate?, h₂⟩ := begun
          cases gate? with
          | some gate =>
            exact .act rfl rfl htracks₁ hbegin (.replyWaits hreply hjson) fun htracks =>
              .halt htracks (.gate gate (.replying s (.text x)))
          | none =>
            exact .act rfl rfl htracks₁ hbegin (.reply hreply hjson) fun htracks =>
              settles_answer htracks s (.text x) fun h' htracks => ih htracks

theorem settles_startEndpoint {name : String} (htracks : h.Tracks w) (s : SocketId)
    (client : Option String) :
    Settles w task (.job name (.endpoint s client)) h (h.startEndpoint task.id s client) := by
  unfold startEndpoint connect
  rcases h.connectOn_cases .running s client with
    ⟨fault, h', hrefusal, hconnect, he⟩ | ⟨hrefusal, now, h', hconnect, he⟩
  · rw [htracks.world] at hrefusal
    rw [hconnect]
    exact .act rfl rfl htracks he (.endpointFails hrefusal) fun htracks =>
      .halt htracks (.done (.error fault))
  · rw [htracks.world] at hrefusal
    rw [hconnect]
    exact .act rfl rfl htracks he (.endpoint hrefusal) fun htracks =>
      settles_runEndpoint htracks s _

/-! ## Tasks -/

theorem settles_completeKept (htracks : h.Tracks w) (s : SocketId) (f : Frame) :
    Settles w task (.sendKept s f) h (endWith (h.deliverHandedOut task.id false s f)) := by
  rcases h.deliverHandedOut_cases task.id false s f with
    ⟨h', hdeliver, hsent⟩ | ⟨fault, h', hdeliver, hfailed⟩
  · rw [hdeliver]
    exact .act rfl rfl htracks hsent .keptSent fun htracks => .halt htracks (.done (.ok .nothing))
  · rw [hdeliver]
    exact .act rfl rfl htracks hfailed .keptFails fun htracks => .halt htracks (.done (.error _))

theorem settles_startSend {name : String} (htracks : h.Tracks w) (connection : String)
    (f : Frame) :
    Settles w task (.job name (.send connection f)) h (h.startSend task.id connection f) := by
  unfold startSend
  cases h.kept.lookup connection with
  | none =>
    exact .act rfl rfl htracks (.refl h) .sendUnknown fun htracks =>
      .halt htracks (.done (.error _))
  | some s =>
    have hbegin := h.emits_beginSend s
    dsimp only at hbegin ⊢
    generalize h.beginSend s = begun at hbegin ⊢
    obtain ⟨gate?, h'⟩ := begun
    cases gate? with
    | some gate =>
      exact .act rfl rfl htracks hbegin .sendWaits fun htracks =>
        .halt htracks (.gate gate (.sendingKept s f))
    | none => exact .act rfl rfl htracks hbegin .send fun htracks =>
        settles_completeKept htracks s f

theorem settles_handle {name : String} (htracks : h.Tracks w) (text : String) :
    Settles w task (.job name (.handle text)) h (h.handle text) := by
  have hframe := h.emits_replyFrame text
  unfold handle
  generalize h.replyFrame text = answer at hframe ⊢
  obtain ⟨frame?, h'⟩ := answer
  have hends (outcome : Except Fault TaskResult) (houtcome : ∀ s, outcome ≠ .ok (.socket s)) :
      Settles w task (.job name (.handle text)) h (.ends outcome, h') :=
    .act rfl rfl htracks hframe (.handle houtcome) fun htracks => .halt htracks (.done outcome)
  cases frame? with
  | none => exact hends _ nofun
  | some frame =>
    cases frame with
    | error fault => exact hends _ nofun
    | ok f => cases f <;> exact hends _ nofun

theorem settles_startJob (htracks : h.Tracks w) (name : String) (job : Job) :
    Settles w task (.job name job) h (h.startJob task.id name job) := by
  cases job with
  | connect s client =>
    rw [startJob, connect]
    rcases h.connectOn_cases .running s client with
      ⟨fault, h', hrefusal, hconnect, he⟩ | ⟨hrefusal, now, h', hconnect, he⟩
    · rw [htracks.world] at hrefusal
      rw [hconnect]
      exact .act rfl rfl htracks he (.connectFails hrefusal) fun htracks =>
        .halt htracks (.done (.error fault))
    · rw [htracks.world] at hrefusal
      rw [hconnect]
      exact .act rfl rfl htracks he (.connect hrefusal) fun htracks =>
        .halt htracks (.done (.ok .nothing))
  | disconnect s =>
    exact .act rfl rfl htracks (h.emits_disconnect s) .disconnect fun htracks =>
      .halt htracks (.done (.ok .nothing))
  | acquire => exact .act rfl rfl htracks (.refl h) .acquire fun htracks =>
      settles_requestLease htracks _
  | send connection f => exact settles_startSend htracks connection f
  | lease script => exact .act rfl rfl htracks (.refl h) .lease fun htracks =>
      settles_requestLease htracks _
  | handle text => exact settles_handle htracks text
  | plot call => exact settles_startPlot htracks call
  | endpoint s client => exact settles_startEndpoint htracks s client

/-- A task that did not wait for the lease goes on. -/
theorem settles_goOn (htracks : h.Tracks w) (c : Option Connection) (name : String) {p : Point}
    (hqueued : p.isQueued = false) :
    Settles w task (p.stage c name) h (h.goOn task.id name p) := by
  cases p with
  | fresh job => exact settles_startJob htracks name job
  | building call g rest => exact settles_runBuild htracks call g rest
  | queued purpose => cases hqueued
  | pausing holder rest => exact settles_runScript htracks holder rest
  | sending holder f rest => exact settles_resumeSend htracks holder f rest
  | sendingKept s f => exact settles_completeKept htracks s f
  | receiving s => exact settles_runEndpoint htracks s _
  | replying s f =>
    exact settles_answer htracks s f fun h' htracks => settles_runEndpoint htracks s _

end Hub

end PlotStream
