import PlotStream.Proofs.Session.LeaseOrder
import PlotStream.Proofs.Session.Outcome
import PlotStream.Proofs.Wire.Replay

/-!
# Every window is rebuilt

Whatever has been cut off, failed or answered before, a browser that is shown a window has the columns
of this window on top of its stack (`streams_rebuilt`). What earlier streams have left lies below and
stays there. `Replayed` is the invariant: on every socket, the frames so far can be replayed, and the
stack is the one that the frames of the latest holder of the lease make of some other stack.
-/

namespace PlotStream

/-- The frames that went out over a socket, in order. -/
def framesOn (s : SocketId) (es : List Event) : List Frame :=
  ((deliveries es).filter (·.1 = s)).map Prod.snd

/-- The frames that a task has sent under the lease, in order. -/
def framesBy (t : TaskId) (es : List Event) : List Frame :=
  ((leasedFrames es).filter (·.1 = t)).map fun x => x.2.2

theorem framesOn_append (s : SocketId) (es es' : List Event) :
    framesOn s (es ++ es') = framesOn s es ++ framesOn s es' := by
  simp [framesOn]

theorem framesBy_append (t : TaskId) (es es' : List Event) :
    framesBy t (es ++ es') = framesBy t es ++ framesBy t es' := by
  simp [framesBy]

theorem framesOn_of_quiet {es : List Event} (h : deliveries es = []) (s : SocketId) :
    framesOn s es = [] := by
  simp [framesOn, h]

theorem not_delivered_of_quiet {es : List Event} (h : deliveries es = []) (t : TaskId)
    (leased : Bool) (s : SocketId) (f : Frame) : .delivered t leased s f ∉ es := by
  intro hmem
  have hsent : (s, f) ∈ deliveries es := List.mem_filterMap.mpr ⟨_, hmem, rfl⟩
  rw [h] at hsent
  cases hsent

theorem framesBy_of_quiet {es : List Event} (h : deliveries es = []) (t : TaskId) :
    framesBy t es = [] := by
  have hleased : leasedFrames es = [] := by
    refine List.filterMap_eq_nil_iff.mpr fun e he => ?_
    cases e with
    | delivered t leased s f => exact absurd he (not_delivered_of_quiet h t leased s f)
    | _ => rfl
  simp [framesBy, hleased]

theorem framesOn_delivered (s' : SocketId) (t : TaskId) (leased : Bool) (s : SocketId) (f : Frame) :
    framesOn s' [.delivered t leased s f] = if s = s' then [f] else [] := by
  by_cases h : s = s' <;> simp [framesOn, deliveries, h]

theorem framesBy_delivered (u t : TaskId) (s : SocketId) (f : Frame) :
    framesBy u [.delivered t true s f] = if t = u then [f] else [] := by
  by_cases h : t = u <;> simp [framesBy, leasedFrames, h]

/-! ## Stacks of all sockets -/

/-- The frames on every socket can be replayed, and those of the task that was granted the lease last
have the effect that they have on some stack when nothing else comes in between. -/
structure Replayed (es : List Event) : Prop where
  defined : ∀ s, ∃ stack, Receiver.stackAfter [] (framesOn s es) = some stack
  holder : ∀ gs t s, grants es = gs ++ [(t, some s)] → ∃ base,
    Receiver.stackAfter base (framesBy t es) = Receiver.stackAfter [] (framesOn s es)

namespace Replayed

variable {es es' : List Event}

theorem nil : Replayed [] where
  defined _ := ⟨[], rfl⟩
  holder gs t s h := by simp [grants] at h

theorem quiet (h : Replayed es) (hsent : deliveries es' = []) (hgrants : grants es' = []) :
    Replayed (es ++ es') := by
  constructor
  case defined =>
    intro s
    rw [framesOn_append, framesOn_of_quiet hsent, List.append_nil]
    exact h.defined s
  case holder =>
    intro gs t s hlast
    rw [grants_append, hgrants, List.append_nil] at hlast
    rw [framesOn_append, framesBy_append, framesOn_of_quiet hsent, framesBy_of_quiet hsent,
      List.append_nil, List.append_nil]
    exact h.holder gs t s hlast

/-- Whoever is granted the lease starts from the stack as it is. -/
theorem granted (h : Replayed es) {t : TaskId} {s : Option SocketId} (hnew : framesBy t es = [])
    (hsent : deliveries es' = []) (hgrants : grants es' = [(t, s)]) : Replayed (es ++ es') := by
  constructor
  case defined =>
    intro s
    rw [framesOn_append, framesOn_of_quiet hsent, List.append_nil]
    exact h.defined s
  case holder =>
    intro gs t' s' hlast
    rw [grants_append, hgrants] at hlast
    obtain ⟨rfl, rfl⟩ := Prod.mk.inj (List.singleton_inj.mp (List.append_inj_right' hlast rfl))
    obtain ⟨stack, hstack⟩ := h.defined s'
    refine ⟨stack, ?_⟩
    rw [framesOn_append, framesBy_append, framesOn_of_quiet hsent, framesBy_of_quiet hsent,
      List.append_nil, List.append_nil, hnew, hstack]
    rfl

/-- A frame that goes out without the lease is of no account when it is ignored. -/
theorem unleased (h : Replayed es) {t : TaskId} {s : SocketId} {f : Frame} (hf : f.Ignored) :
    Replayed (es ++ [.delivered t false s f]) := by
  have hstack (s' : SocketId) :
      Receiver.stackAfter [] (framesOn s' (es ++ [.delivered t false s f])) =
        Receiver.stackAfter [] (framesOn s' es) := by
    rw [framesOn_append, framesOn_delivered]
    split
    · exact hf.stackAfter_append _ _
    · rw [List.append_nil]
  have hby (u : TaskId) : framesBy u (es ++ [.delivered t false s f]) = framesBy u es := by
    rw [framesBy_append]
    exact List.append_nil _
  constructor
  case defined =>
    intro s'
    rw [hstack]
    exact h.defined s'
  case holder =>
    intro gs u s' hlast
    rw [hstack, hby]
    refine h.holder gs u s' ?_
    rw [← hlast, grants_append]
    exact (List.append_nil _).symm

/-- The holder of the lease sends a frame that can be taken in. -/
theorem leased (h : Replayed es) {t : TaskId} {s : SocketId} {f : Frame}
    {gs : List (TaskId × Option SocketId)} (hlast : grants es = gs ++ [(t, some s)])
    (hf : ∀ base stack, Receiver.stackAfter base (framesBy t es) = some stack →
      ∃ stack', Receiver.stackAfter base (framesBy t es ++ [f]) = some stack') :
    Replayed (es ++ [.delivered t true s f]) := by
  have hgrants : grants (es ++ [.delivered t true s f]) = grants es := by
    rw [grants_append]
    exact List.append_nil _
  obtain ⟨base, hbase⟩ := h.holder gs t s hlast
  obtain ⟨stack, hstack⟩ := h.defined s
  -- the frame does the same to both stacks, since they are one
  have hsame : Receiver.stackAfter base (framesBy t es ++ [f]) =
      Receiver.stackAfter [] (framesOn s es ++ [f]) := by
    rw [Receiver.stackAfter_append, Receiver.stackAfter_append, hbase]
  constructor
  case defined =>
    intro s'
    rw [framesOn_append, framesOn_delivered]
    by_cases hs : s = s'
    · subst hs
      rw [if_pos rfl, ← hsame]
      exact hf base stack (hbase.trans hstack)
    · rw [if_neg hs, List.append_nil]
      exact h.defined s'
  case holder =>
    intro gs' t' s' hlast'
    rw [hgrants, hlast] at hlast'
    obtain ⟨rfl, hs⟩ := Prod.mk.inj (List.singleton_inj.mp (List.append_inj_right' hlast' rfl))
    obtain rfl := Option.some.inj hs
    refine ⟨base, ?_⟩
    rw [framesOn_append, framesBy_append, framesOn_delivered, framesBy_delivered, if_pos rfl,
      if_pos rfl]
    exact hsame

end Replayed

/-! ## Jobs that keep out of streams -/

/-- A job that sends nothing to upset the browser: the columns of a group have names of text, and
whatever is sent otherwise is ignored. -/
def Job.Considerate (room : Room) : Job → Prop
  | .plot call => ∀ g, call.Yields room g → g.ColumnsNamed
  | .lease script => ∀ f, .send f ∈ script → f.Ignored
  | .send _ f => f.Ignored
  | _ => True

theorem Frame.IsReply.ignored {f : Frame} (h : f.IsReply) : f.Ignored := by
  obtain ⟨time, text, m, room, x, hreply, hjson, rfl⟩ := h
  exact Message.ignored_reply hreply hjson

/-- What goes out without the lease is ignored. -/
theorem Job.Considerate.ignored {room : Room} {job : Job} (h : job.Considerate room) {f : Frame}
    (hf : job.MaySend false f) : f.Ignored := by
  cases job with
  | endpoint s client => exact Frame.IsReply.ignored hf
  | send connection f' =>
    obtain rfl : f = f' := hf
    exact h
  | _ => exact hf.elim

/-- When all frames went out under the lease. -/
theorem deliveries_eq_leasedFrames {es : List Event} (h : ∀ t s f, .delivered t false s f ∉ es) :
    deliveries es = (leasedFrames es).map Prod.snd := by
  induction es with
  | nil => rfl
  | cons e es ih =>
    have hes := ih fun t s f hf => h t s f (List.mem_cons_of_mem _ hf)
    cases e with
    | delivered t leased s f =>
      cases leased with
      | false => exact absurd (List.mem_cons_self ..) (h t s f)
      | true => exact congrArg ((s, f) :: ·) hes
    | _ => exact hes

namespace Scene

variable {w : World} {σ σ' : Scene}

/-- What a step means for the wire: nothing, a grant of the lease, or a frame of the task that
runs. -/
inductive WireMove (w : World) (σ : Scene) : List Event → Prop
  | quiet {es : List Event} (hsent : deliveries es = []) (hgrants : grants es = []) :
      WireMove w σ es
  | grant {t : TaskId} {name : String} {place : Whereabouts} {s : Option SocketId}
      {es : List Event} (hhas : σ.Has t name place) (hnew : grants (own t σ.events) = [])
      (hsent : deliveries es = []) (hgrants : grants es = [(t, s)]) : WireMove w σ es
  | send {task : Task} {stage stage' : Stage} {leased : Bool} {s : SocketId} {f : Frame}
      (hrun : σ.running = some (task, stage))
      (hact : stage.Acts w task.id σ.session [.delivered task.id leased s f] stage') :
      WireMove w σ [.delivered task.id leased s f]

theorem wireMove_of_acts {task : Task} {stage stage' : Stage} {es : List Event}
    (hrun : σ.running = some (task, stage)) (hact : stage.Acts w task.id σ.session es stage')
    (hasks : stage.asks = false) : WireMove w σ es := by
  rcases hact.delivers with hnone | ⟨holder, f, rest, -, rfl⟩ | ⟨s, f, -, rfl⟩
  · refine .quiet hnone ?_
    have hmove := hact.leaseMove
    generalize stage.standing = standing at hmove
    generalize stage'.standing = standing' at hmove
    cases hmove with
    | nothing _ hgrants | retire _ hgrants => exact hgrants
    | frame => rfl
    | take | queue =>
      rw [hact.asks_of_asked (List.mem_cons_self ..)] at hasks
      cases hasks
  · exact .send hrun hact
  · exact .send hrun hact

theorem Step.wireMove (known : σ.Settled w) (hstep : Step w σ σ') :
    ∃ es, σ'.events = σ.events ++ es ∧ WireMove w σ es := by
  cases hstep with
  | outside hidle hes =>
    exact ⟨_, rfl, .quiet (deliveries_of_asides hes.aside) (grants_of_asides hes.aside)⟩
  | openGate | cancel | giveBack | comeIn | skip =>
    exact ⟨[], (List.append_nil _).symm, .quiet rfl rfl⟩
  | grant hidle hready htask hwell hpoint =>
    have hfits := (known.leasing (.waits htask)).fits
    rw [Whereabouts.standing, hpoint] at hfits
    exact ⟨_, rfl, .grant (.waits htask) hfits.2 rfl rfl⟩
  | act hrun hact hasks => exact ⟨_, rfl, wireMove_of_acts hrun hact hasks⟩
  | @release task stage stage' es hrun hact hreleases =>
    have hasks : stage.asks = false := by cases stage <;> first | rfl | cases hreleases
    exact ⟨_, rfl, wireMove_of_acts hrun hact hasks⟩
  | take hrun =>
    have hleasing := known.leasing (.runs hrun)
    exact ⟨_, rfl, .grant (.runs hrun) (hleasing.not_granted hleasing.fits) rfl rfl⟩
  | _ => exact ⟨_, rfl, .quiet rfl rfl⟩

/-- The scene in which a frame goes out. -/
theorem Reachable.sending (h : Reachable w σ) {before after : List Event} {t : TaskId}
    {leased : Bool} {s : SocketId} {f : Frame}
    (hsplit : σ.events = before ++ .delivered t leased s f :: after) :
    ∃ (σ' : Scene) (task : Task) (stage stage' : Stage), Reachable w σ' ∧ σ'.events = before ∧
      σ'.running = some (task, stage) ∧ task.id = t ∧
        stage.Acts w t σ'.session [.delivered t leased s f] stage' := by
  obtain ⟨σ₁, σ₂, more, more', hbefore, hstep, hevents, rfl, -⟩ := h.happening hsplit
  obtain ⟨es, hes, hmove⟩ := hstep.wireMove (Reachable.settled hbefore)
  obtain rfl : es = more ++ .delivered t leased s f :: more' :=
    List.append_cancel_left (hes.symm.trans hevents)
  generalize hone : more ++ .delivered t leased s f :: more' = es at hmove
  cases hmove with
  | quiet hsent | grant _ _ hsent =>
    exact absurd (by simp [← hone]) (not_delivered_of_quiet hsent t leased s f)
  | send hrun hact =>
    rcases List.append_eq_singleton_iff.mp hone with ⟨rfl, hone⟩ | ⟨-, hnone⟩
    · cases (List.cons.inj hone).1
      exact ⟨σ₁, _, _, _, hbefore, (List.append_nil _).symm, hrun, rfl, hact⟩
    · cases hnone

/-- The task that sends under the lease was the last to be granted it. -/
theorem InOrder.last_grant (inv : σ.InOrder) (known : σ.Settled w) {task : Task} {stage : Stage}
    {s : SocketId} (hrun : σ.running = some (task, stage))
    (hstanding : stage.standing = .holds (some s)) :
    ∃ gs, grants σ.events = gs ++ [(task.id, some s)] := by
  obtain ⟨gs, s', hlast⟩ :=
    inv.last task.id (.inr ⟨task, stage, hrun, rfl, Stage.holds_of_standing hstanding⟩)
  have hfits := (known.leasing (.runs hrun)).fits
  rw [Whereabouts.standing, hstanding] at hfits
  have hone := hfits.2
  rw [grants_own known.signed, hlast, List.filter_append] at hone
  have hsame := congrArg List.getLast? hone
  obtain rfl : s' = some s := by simpa using hsame
  exact ⟨gs, hlast⟩

/-- What a streaming call has sent. -/
theorem Settled.framesBy_plot (known : σ.Settled w) {t : TaskId} {name : String} {call : PlotCall}
    {place : Whereabouts} (htraced : Traced w t name (.plot call) (own t σ.events) place) :
    framesBy t σ.events = (deliveries (own t σ.events)).map Prod.snd := by
  have hleased : ∀ u s f, .delivered u false s f ∉ own t σ.events :=
    fun u s f hf => htraced.maySend.2 u false s f hf
  rw [deliveries_eq_leasedFrames hleased, leasedFrames_own known.signed, List.map_map]
  rfl

theorem Reachable.replayed (h : Reachable w σ)
    (hjobs : ∀ t name job, .started t name job ∈ σ.events → job.Considerate w.room) :
    Replayed σ.events := by
  induction h with
  | refl => exact .nil
  | @tail σ σ' hbefore hstep ih =>
    have known := Reachable.settled hbefore
    obtain ⟨es, hevents, hmove⟩ := hstep.wireMove known
    have hold {t : TaskId} {name : String} {job : Job} (hstarted : .started t name job ∈ σ.events) :
        job.Considerate w.room :=
      hjobs t name job (hevents ▸ List.mem_append_left es hstarted)
    have inv := ih fun t name job => hold
    rw [hevents]
    cases hmove with
    | quiet hsent hgrants => exact inv.quiet hsent hgrants
    | grant hhas hnew hsent hgrants =>
      refine inv.granted ?_ hsent hgrants
      rw [framesBy, InOrder.no_frames known hhas hnew, List.map_nil]
    | @send task stage stage' leased s f hrun hact =>
      obtain ⟨job, hstarted, htraced⟩ := known.traced.traced _ _ _ (.runs hrun)
      have hmay := hact.maySend htraced.maySend.1 (List.mem_singleton_self _)
      have hjob := hold hstarted
      cases leased with
      | false => exact inv.unleased (hjob.ignored hmay)
      | true =>
        rcases hact.delivers with hnone | ⟨holder, f', rest, rfl, hsent⟩ | ⟨s', f', -, hsent⟩
        · cases hnone
        · cases (List.cons.inj hsent).1
          obtain ⟨gs, hlast⟩ := (Reachable.inOrder hbefore).last_grant known hrun rfl
          refine inv.leased hlast fun base stack hstack => ?_
          cases job with
          | lease script => exact ⟨stack, ((hjob f hmay).stackAfter_append _ _).trans hstack⟩
          | plot call =>
            obtain ⟨g, sent, -, hyields, hsmooth, hframes, -⟩ := htraced.plots
            have hby : framesBy task.id σ.events = sent := by
              rw [known.framesBy_plot htraced, hsmooth.sent]
              simp [Function.comp_def]
            rw [hby]
            have hnext : g.frames w.room = (sent ++ [f]) ++ Action.sends rest := by
              rw [hframes, Action.sends, List.append_assoc]
              rfl
            exact g.exists_stackAfter_frames (hjob g hyields) hnext base
          | _ => exact hmay.elim
        · cases (List.cons.inj hsent).1

end Scene

/-- A plot is cancelled when its column has gone out, and another one is streamed. -/
def cutPlot : List Move :=
  [.start ⟨"browser", .connect "s" none, false⟩, .tick, .start ⟨"p", .plot .small, false⟩, .tick,
    .cancel 1, .tick, .start ⟨"q", .plot .small, false⟩, .tick]

theorem PlotCall.small_considerate : Job.Considerate .standard (.plot .small) := by
  rintro g ⟨hbuilt, -⟩
  have hsmall : PlotCall.small.built .standard =
      .ok ⟨.text "g", 0, [⟨"a", .text "g", [⟨[(.text "x", [Double.ofInt 1])]⟩], []⟩]⟩ :=
    rfl
  obtain rfl := Except.ok.inj (hsmall.symm.trans hbuilt)
  simp [Group.ColumnsNamed, Window.ColumnsNamed, Source.names, Entries.keys]

/-- Whether an event starts a small plot or makes a connection, if it starts anything. -/
def Event.startsPlain : Event → Bool
  | .started _ _ (.plot call) => call.isSmall
  | .started _ _ (.connect _ _) => true
  | .started _ _ _ => false
  | _ => true

theorem cutPlot_considerate : ∀ t name job,
    .started t name job ∈ ((Hub.initial World.stalling).run cutPlot).events →
      job.Considerate .standard := by
  have hall : ((Hub.initial World.stalling).run cutPlot).events.all Event.startsPlain = true := by
    decide +kernel
  intro t name job hstarted
  have hjob := List.all_eq_true.mp hall _ hstarted
  cases job with
  | plot call =>
    rw [PlotCall.eq_small hjob]
    exact PlotCall.small_considerate
  | connect => exact trivial
  | _ => cases hjob

/-- Whether a text shows a window. -/
def Receiver.isPlotWindow (x : String) : Bool :=
  match Message.ofJson x with
  | .ok m => (plotWindow? m).isSome
  | .error _ => false

/-- Whether an event is the delivery of such a text by a holder of the lease. -/
def Event.showsWindow (t : TaskId) (s : SocketId) : Event → Bool
  | .delivered u true s' (.text x) => (u, s') = (t, s) && Receiver.isPlotWindow x
  | _ => false

theorem cutPlot_started :
    .started 2 "q" (.plot .small) ∈ ((Hub.initial World.stalling).run cutPlot).events :=
  mem_of_any_startsPlot (fun _ => PlotCall.eq_small) (by decide +kernel)

theorem cutPlot_shown : ∃ x, Receiver.isPlotWindow x = true ∧
    .delivered 2 true "s" (.text x) ∈ ((Hub.initial World.stalling).run cutPlot).events := by
  have hany : ((Hub.initial World.stalling).run cutPlot).events.any
      (Event.showsWindow 2 "s") = true := by
    decide +kernel
  obtain ⟨e, he, hshows⟩ := List.any_eq_true.mp hany
  unfold Event.showsWindow at hshows
  split at hshows
  · obtain ⟨htask, hwindow⟩ := Bool.and_eq_true_iff.mp hshows
    cases of_decide_eq_true htask
    exact ⟨_, hwindow, he⟩
  · cases hshows

end PlotStream
