import PlotStream.Proofs.Session.Holding
import PlotStream.Proofs.Session.Runs

/-!
# Who makes and gives up connections

Each connection that is made and each socket that is given up is somebody's doing. What a task may do
to a socket follows from the job it was started for and from what it has done so far (`Job.Connects`,
`Job.GivesUp`, `Job.Sends`), and `Accountable` says that the events of a session tell of nothing else: a
send that fails is followed by the loss of its socket at once, and a connect or an endpoint ends with
its work done, unless it was refused or cancelled (`Job.Concludes`).

Whether the lease is held makes no difference here. The lease may be given back from outside at any
time, so that `Hub.accounted_run` is about every run and not about fair ones only.
-/

namespace PlotStream

/-! ## What a job may do -/

/-- An event that tells how an attempt to connect a socket went. -/
def Event.isAttempt : Event → Bool
  | .connected _ | .refused _ _ => true
  | _ => false

/-- No attempt to connect a socket is among the doings of a task. -/
def Untried (mine : List Event) : Prop :=
  ∀ e ∈ mine, e.isAttempt = false

/-- A task has connected a socket for a client. -/
def HasConnected (s : SocketId) (client : Option String) (mine : List Event) : Prop :=
  ∃ since, .connected ⟨s, client, since⟩ ∈ mine

/-- A task that was started for this and has done `mine` may connect a socket for a client. A connect
and an endpoint try that once. -/
def Job.Connects (s : SocketId) (client : Option String) (mine : List Event) : Job → Prop
  | .connect s' client' | .endpoint s' client' => s' = s ∧ client' = client ∧ Untried mine
  | .plot call => .connect s client ∈ call.build
  | _ => False

/-- A task that was started for this and has done `mine` may give up a socket, also when no send has
failed. An endpoint gives up its own socket, once it has connected that. -/
def Job.GivesUp (s : SocketId) (mine : List Event) : Job → Prop
  | .disconnect s' => s' = s
  | .endpoint s' client => s' = s ∧ HasConnected s client mine
  | .plot call => .disconnect s ∈ call.build
  | _ => False

/-- A task that was started for this and has done `mine` may send on a socket, under the lease or
without it. An endpoint sends on its own socket, once it has connected that. -/
def Job.Sends (s : SocketId) (leased : Bool) (mine : List Event) (job : Job) : Prop :=
  match job, leased with
  | .lease _, true | .plot _, true | .send _ _, false => True
  | .endpoint s' client, false => s' = s ∧ HasConnected s client mine
  | _, _ => False

/-- A socket has just been connected for a client. -/
def JustConnected (s : SocketId) (client : Option String) (es : List Event) : Prop :=
  ∃ before since r, es = before ++ [.connected ⟨s, client, since⟩, .logged r]

/-- A socket has just been given up. -/
def JustDropped (s : SocketId) (es : List Event) : Prop :=
  ∃ before, ∃ records : List LogRecord, es = before ++ .dropped s :: records.map .logged

/-- A task that was started to connect a socket ends because it is cancelled or because it was refused
the socket. -/
def Excused (t : TaskId) (s : SocketId) (outcome : Except Fault TaskResult) (es : List Event) : Prop :=
  outcome = .error .cancelled ∨ ∃ fault, .refused s fault ∈ own t es ∧ outcome = .error fault

/-- How a task that was started for this may end after some events. A connect has just been accepted,
or it was refused or is cancelled. An endpoint has just given up its socket, unless it was refused that
or is cancelled. -/
def Job.Concludes (t : TaskId) (outcome : Except Fault TaskResult) (es : List Event) : Job → Prop
  | .connect s client => outcome = .ok .nothing ∧ JustConnected s client es ∨ Excused t s outcome es
  | .endpoint s _ => outcome = .ok .nothing ∧ JustDropped s es ∨ Excused t s outcome es
  | .disconnect s => outcome = .ok .nothing ∧ JustDropped s es ∨ outcome = .error .cancelled
  | _ => True

/-- A task uses the lease only if it was started for that. -/
def Job.UsesLease (job : Job) : Prop :=
  (∃ script, job = .lease script) ∨ job.IsPlot

/-- A task attends to a socket only if it was started for that and has connected the socket. -/
def Job.Attends (s : SocketId) (mine : List Event) (job : Job) : Prop :=
  ∃ client, job = .endpoint s client ∧ HasConnected s client mine

/-- A task sends over a kept connection only if it was started for that. -/
def Job.IsSend (job : Job) : Prop :=
  ∃ connection f, job = .send connection f

section Jobs

variable {t : TaskId} {job : Job} {s : SocketId} {client : Option String} {mine mine' : List Event}

theorem Untried.append (h : Untried mine) (h' : Untried mine') : Untried (mine ++ mine') := by
  intro e he
  exact (List.mem_append.mp he).elim (h e) (h' e)

theorem HasConnected.mono (h : HasConnected s client mine) (hsubset : mine ⊆ mine') :
    HasConnected s client mine' := by
  obtain ⟨since, hconnected⟩ := h
  exact ⟨since, hsubset hconnected⟩

theorem Job.Connects.append (h : job.Connects s client mine) (h' : Untried mine') :
    job.Connects s client (mine ++ mine') := by
  cases job with
  | connect | endpoint => exact ⟨h.1, h.2.1, h.2.2.append h'⟩
  | _ => exact h

theorem Job.GivesUp.mono (h : job.GivesUp s mine) (hsubset : mine ⊆ mine') :
    job.GivesUp s mine' := by
  cases job with
  | endpoint => exact ⟨h.1, h.2.mono hsubset⟩
  | _ => exact h

theorem Job.Attends.mono (h : job.Attends s mine) (hsubset : mine ⊆ mine') :
    job.Attends s mine' := by
  obtain ⟨client, rfl, hconnected⟩ := h
  exact ⟨client, rfl, hconnected.mono hsubset⟩

theorem Job.UsesLease.sends (h : job.UsesLease) (s : SocketId) (mine : List Event) :
    job.Sends s true mine := by
  rcases h with ⟨script, rfl⟩ | ⟨call, rfl⟩ <;> trivial

theorem Job.UsesLease.concludes (h : job.UsesLease) (outcome : Except Fault TaskResult)
    (es : List Event) : job.Concludes t outcome es := by
  rcases h with ⟨script, rfl⟩ | ⟨call, rfl⟩ <;> exact True.intro

theorem Purpose.Serves.concludes {purpose : Purpose} (h : purpose.Serves job)
    (outcome : Except Fault TaskResult) (es : List Event) : job.Concludes t outcome es := by
  cases purpose with
  | keep name =>
    obtain rfl : job = .acquire := h
    exact True.intro
  | block script => exact Job.UsesLease.concludes (.inl ⟨script, h⟩) outcome es
  | plot g gated => exact Job.UsesLease.concludes (.inr h) outcome es

theorem Job.IsSend.concludes (h : job.IsSend) (outcome : Except Fault TaskResult)
    (es : List Event) : job.Concludes t outcome es := by
  obtain ⟨connection, f, rfl⟩ := h
  exact True.intro

/-- Any task may end because it is cancelled. -/
theorem Job.concludes_cancelled (t : TaskId) (job : Job) (es : List Event) :
    job.Concludes t (.error .cancelled) es := by
  cases job with
  | connect | endpoint => exact .inr (.inl rfl)
  | disconnect => exact .inr rfl
  | _ => exact True.intro

theorem Job.IsSend.sends (h : job.IsSend) (s : SocketId) (mine : List Event) :
    job.Sends s false mine := by
  obtain ⟨connection, f, rfl⟩ := h
  trivial

theorem Job.Attends.givesUp (h : job.Attends s mine) : job.GivesUp s mine := by
  obtain ⟨client, rfl, hconnected⟩ := h
  exact ⟨rfl, hconnected⟩

theorem Job.Attends.sends (h : job.Attends s mine) : job.Sends s false mine := by
  obtain ⟨client, rfl, hconnected⟩ := h
  exact ⟨rfl, hconnected⟩

end Jobs

/-! ## Where a task may be by its job -/

/-- A task that was started for a job and has done `mine` may wait at a point. In a plotting procedure,
the steps that remain are steps of the procedure it was started with. -/
def Point.Befits (mine : List Event) (job : Job) : Point → Prop
  | .fresh job' => job' = job ∧ Untried mine
  | .building call _ rest => job = .plot call ∧ rest ⊆ call.build
  | .queued purpose => purpose.Serves job
  | .pausing _ _ | .sending _ _ _ => job.UsesLease
  | .sendingKept _ _ => job.IsSend
  | .receiving s | .replying s _ => job.Attends s mine

/-- A task that was started for a job and has done `mine` may be at a stage. -/
def Stage.Befits (mine : List Event) (job : Job) : Stage → Prop
  | .job _ job' => job' = job ∧ Untried mine
  | .build call _ rest => job = .plot call ∧ rest ⊆ call.build
  | .ask purpose | .refused purpose => purpose.Serves job
  | .use holder => holder.purpose.Serves job
  | .script _ _ | .send _ _ _ | .leave _ | .finish _ => job.UsesLease
  | .sendKept _ _ => job.IsSend
  | .serve s | .answer s _ => job.Attends s mine
  | .halt how => ∀ p ∈ how.point?, p.Befits mine job

section Befits

variable {w : World} {job : Job} {mine more : List Event}

theorem Point.Befits.append {p : Point} (h : p.Befits mine job) (hmore : Untried more) :
    p.Befits (mine ++ more) job := by
  cases p with
  | fresh => exact ⟨h.1, h.2.append hmore⟩
  | receiving | replying => exact Job.Attends.mono h (List.subset_append_left _ _)
  | _ => exact h

theorem Purpose.Serves.befits {purpose : Purpose} (h : purpose.Serves job) (c : Option Connection) :
    (purpose.stage c).Befits mine job := by
  cases c <;> exact h

theorem Point.Befits.stage {p : Point} (h : p.Befits mine job) (c : Option Connection)
    (name : String) : (p.stage c name).Befits mine job := by
  cases p with
  | queued purpose => exact Purpose.Serves.befits h c
  | _ => exact h

theorem Point.Befits.cancelled {p : Point} (h : p.Befits mine job) :
    p.cancelledStage.Befits mine job := by
  cases p with
  | pausing | sending => exact h
  | _ => exact nofun

theorem Stage.befits_done (outcome : Except Fault TaskResult) :
    (Stage.halt (.done outcome)).Befits mine job :=
  nofun

theorem Stage.befits_halt {how : Halt} {p : Point} (hpoint : how.point? = some p)
    (h : p.Befits mine job) : (Stage.halt how).Befits mine job := by
  intro p' hp'
  obtain rfl : p = p' := Option.some.inj (hpoint.symm.trans hp')
  exact h

/-- A task goes where it may go by its job. -/
theorem Stage.Acts.befits {t : TaskId} {c : Option Connection} {stage stage' : Stage}
    {es : List Event} (hact : stage.Acts w t c es stage') (h : stage.Befits mine job) :
    stage'.Befits (mine ++ es) job := by
  have hattends {s : SocketId} (h : job.Attends s mine) : job.Attends s (mine ++ es) :=
    h.mono (List.subset_append_left _ _)
  cases hact with
  | acquire | lease => exact h.1.symm
  | sendWaits => exact befits_halt rfl ⟨_, _, h.1.symm⟩
  | send => exact ⟨_, _, h.1.symm⟩
  | plot => exact ⟨h.1.symm, List.Subset.refl _⟩
  | @endpoint name s client now =>
    refine ⟨client, h.1.symm, now, List.mem_append_right _ ?_⟩
    exact List.mem_append_right _ (List.mem_cons_self ..)
  | buildStep => exact ⟨h.1, fun _ hstep => h.2 (List.mem_cons_of_mem _ hstep)⟩
  | buildWaits =>
    exact befits_halt rfl ⟨h.1, fun _ hstep => h.2 (List.mem_cons_of_mem _ hstep)⟩
  | built => exact ⟨_, h.1⟩
  | take => exact Purpose.Serves.befits h c
  | queue => exact befits_halt rfl h
  | block => exact .inl ⟨_, h⟩
  | stream | streamGated | streamTooLate => exact .inr h
  | scriptSendWaits | scriptWaits => exact befits_halt rfl h
  | awaitIncoming | replyWaits => exact befits_halt rfl (hattends h)
  | scriptEnds | scriptSend | scriptPasses | scriptLogs | scriptFails | sent | sendFails => exact h
  | reply | answered => exact hattends h
  | _ => exact befits_done _

end Befits

/-! ## What a task does -/

/-- An event that neither makes nor loses a connection nor tries to, and ends no task. -/
def Event.isQuiet : Event → Bool
  | .connected _ | .refused _ _ | .dropped _ | .sendFailed _ _ _ | .ended _ _ _ => false
  | _ => true

/-- What a task that has done `mine` does in one step, by its job: it makes a connection or is refused
one, or gives a socket up, or fails to send, or leaves all connections alone. -/
inductive Deed (w : World) (t : TaskId) (mine : List Event) (job : Job) : List Event → Prop
  | quiet {es : List Event} (h : ∀ e ∈ es, e.isQuiet) : Deed w t mine job es
  | connect {c : Option Connection} {new : Connection} {n : Nat}
      (hplan : (w.plan new.socket).refusal n = none)
      (hjob : job.Connects new.socket new.client mine) : Deed w t mine job (connectEvents c new)
  | refuse {s : SocketId} {client : Option String} {n : Nat} {fault : Fault}
      (hplan : (w.plan s).refusal n = some fault) (hjob : job.Connects s client mine) :
      Deed w t mine job [.refused s fault]
  | giveUp {c : Option Connection} {s : SocketId} (records : List LogRecord)
      (hjob : job.GivesUp s mine) : Deed w t mine job (records.map .logged ++ dropEvents c s)
  | fail {c : Option Connection} {s : SocketId} {leased : Bool} (r : LogRecord)
      (hjob : job.Sends s leased mine) :
      Deed w t mine job (.sendFailed t leased s :: .logged r :: dropEvents c s)

section Acts

variable {w : World} {t : TaskId} {c : Option Connection} {stage stage' : Stage} {es : List Event}
  {job : Job} {mine : List Event}

theorem quiet_checkEvents (g : Group) : ∀ e ∈ checkEvents g, e.isQuiet := by
  intro e he
  obtain ⟨x, -, rfl⟩ := List.mem_map.mp he
  rfl

theorem BuildStep.Does.deed {g : Group} {step : BuildStep} {result : Except Fault Group}
    (hdoes : step.Does w c g es result) {call : PlotCall} (hstep : step ∈ call.build) :
    Deed w t mine (.plot call) es := by
  cases hdoes with
  | connect hplan => exact .connect hplan hstep
  | connectFails hplan => exact .refuse hplan hstep
  | disconnect => exact .giveUp [] hstep
  | check | checkFails => exact .quiet (quiet_checkEvents g)
  | _ => exact .quiet (by simp [Event.isQuiet])

/-- A task does nothing but what it may do by its job. -/
theorem Stage.Acts.deed (hact : stage.Acts w t c es stage') (h : stage.Befits mine job) :
    Deed w t mine job es := by
  cases hact with
  | connect hplan | endpoint hplan =>
    obtain ⟨rfl, huntried⟩ := h
    exact .connect hplan ⟨rfl, rfl, huntried⟩
  | connectFails hplan | endpointFails hplan =>
    obtain ⟨rfl, huntried⟩ := h
    exact .refuse hplan ⟨rfl, rfl, huntried⟩
  | disconnect =>
    obtain ⟨rfl, -⟩ := h
    exact .giveUp [] rfl
  | buildStep hdoes | buildFails hdoes =>
    obtain ⟨rfl, hrest⟩ := h
    exact hdoes.deed (hrest (List.mem_cons_self ..))
  | built | malformed => exact .quiet (quiet_checkEvents _)
  | sendFails => exact .fail _ (Job.UsesLease.sends h _ _)
  | keptFails => exact .fail _ (Job.IsSend.sends h _ _)
  | answerFails => exact .fail _ (Job.Attends.sends h)
  | closed => exact .giveUp [] (Job.Attends.givesUp h)
  | incomingFails => exact .giveUp [_] (Job.Attends.givesUp h)
  | refused purpose => exact .quiet (by cases purpose <;> simp [Purpose.refusal, Event.isQuiet])
  | finish holder =>
    exact .quiet (by cases holder.purpose <;> simp [Purpose.closing, Event.isQuiet])
  | _ => exact .quiet (by simp [Event.isQuiet])

theorem exists_dropEvents (c : Option Connection) (s : SocketId) :
    ∃ records : List LogRecord, dropEvents c s = .dropped s :: records.map .logged := by
  unfold dropEvents
  split
  · split
    · exact ⟨[_], rfl⟩
    · exact ⟨[], rfl⟩
  · exact ⟨[], rfl⟩

theorem exists_connectEvents (c : Option Connection) (new : Connection) :
    ∃ records : List LogRecord, connectEvents c new =
      records.map .logged ++ [.connected new, .logged (.connected new.client)] := by
  unfold connectEvents
  split
  · split
    · exact ⟨[_], rfl⟩
    · exact ⟨[], rfl⟩
  · exact ⟨[], rfl⟩

theorem justDropped_dropEvents (c : Option Connection) (s : SocketId) (before noted : List Event) :
    JustDropped s (before ++ (noted ++ dropEvents c s)) := by
  obtain ⟨records, hdrop⟩ := exists_dropEvents c s
  exact ⟨before ++ noted, records, by rw [hdrop, List.append_assoc]⟩

theorem Job.Attends.concludes {s : SocketId} (h : job.Attends s mine) {events : List Event}
    (hdropped : JustDropped s events) : job.Concludes t (.ok .nothing) events := by
  obtain ⟨client, rfl, -⟩ := h
  exact .inl ⟨rfl, hdropped⟩

/-- A task that comes to its end ends as it may by its job. -/
theorem Stage.Acts.concludes (hact : stage.Acts w t c es stage') (h : stage.Befits mine job)
    {outcome : Except Fault TaskResult} (hdone : stage' = .halt (.done outcome))
    {before : List Event} (hrunner : runnerFrom none before = some t) :
    job.Concludes t outcome (before ++ es) := by
  cases hact with
  | @connect name s client now =>
    obtain ⟨rfl, -⟩ := h
    cases hdone
    refine .inl ⟨rfl, ?_⟩
    unfold connectEvents
    rw [← List.append_assoc]
    exact ⟨_, now, _, rfl⟩
  | @connectFails name s client n fault | @endpointFails name s client n fault =>
    obtain ⟨rfl, -⟩ := h
    cases hdone
    refine .inr (.inr ⟨fault, ?_, rfl⟩)
    rw [own_append_inner (by simp [Event.isInner]) hrunner, if_pos rfl]
    exact List.mem_append_right _ (List.mem_singleton_self _)
  | disconnect =>
    obtain ⟨rfl, -⟩ := h
    cases hdone
    exact .inl ⟨rfl, justDropped_dropEvents c _ before []⟩
  | closed =>
    cases hdone
    exact Job.Attends.concludes h (justDropped_dropEvents c _ before [])
  | incomingFails =>
    cases hdone
    exact Job.Attends.concludes h (justDropped_dropEvents c _ before [_])
  | answerFails =>
    cases hdone
    exact Job.Attends.concludes h (justDropped_dropEvents c _ before [_, _])
  | sendUnknown | handle | plotIdle =>
    obtain ⟨rfl, -⟩ := h
    exact True.intro
  | buildFails | malformed =>
    obtain ⟨rfl, -⟩ := h
    exact True.intro
  | refused purpose => exact Purpose.Serves.concludes h _ _
  | @keep s name =>
    have hserves : (Purpose.keep name).Serves job := h
    exact hserves.concludes _ _
  | leave | finish => exact Job.UsesLease.concludes h _ _
  | keptSent | keptFails => exact Job.IsSend.concludes h _ _
  | take =>
    unfold Purpose.stage at hdone
    split at hdone <;> cases hdone
  | _ => cases hdone

end Acts

/-! ## What the events of a session tell -/

/-- The task that runs after some events was started for a job that allows something, after what the
task has done. -/
def DoneBy (p : List Event → Job → Prop) (t : TaskId) (before : List Event) : Prop :=
  runnerFrom none before = some t ∧ ∃ name job, .started t name job ∈ before ∧ p (own t before) job

/-- An event is accounted for by what happened before it and after it. A connection is accepted or
refused by the plan of its socket, and tried from outside or by a task that may make it. A socket is
given up by a task that may give it up, or because a send on it has just failed; and when a send fails,
its socket is given up at once. A task ends as it may by its job. -/
def Event.Accounted (w : World) (before after : List Event) : Event → Prop
  | .connected c => (∃ n, (w.plan c.socket).refusal n = none) ∧
      (runnerFrom none before = none ∨ ∃ t, DoneBy (Job.Connects c.socket c.client) t before)
  | .refused s fault => (∃ n, (w.plan s).refusal n = some fault) ∧
      (runnerFrom none before = none ∨ ∃ t client, DoneBy (Job.Connects s client) t before)
  | .dropped s => (∃ t, DoneBy (Job.GivesUp s) t before) ∨
      ∃ earlier t leased r, before = earlier ++ [.sendFailed t leased s, .logged r]
  | .sendFailed t leased s => DoneBy (Job.Sends s leased) t before ∧
      ∃ r rest, after = .logged r :: .dropped s :: rest
  | .ended t name outcome => ∃ job, .started t name job ∈ before ∧ job.Concludes t outcome before
  | _ => True

/-- Every one of the events is accounted for. -/
def Accountable (w : World) (es : List Event) : Prop :=
  ∀ before e after, es = before ++ e :: after → e.Accounted w before after

/-- No number is given to two tasks. -/
def StartedOnce (es : List Event) : Prop :=
  ∀ t name job name' job', .started t name job ∈ es → .started t name' job' ∈ es →
    name = name' ∧ job = job'

section Accountable

variable {w : World} {es es' before after : List Event} {e : Event}

theorem DoneBy.append_inner {p : List Event → Job → Prop} {t : TaskId}
    (hinner : ∀ e ∈ es', e.isInner) (hmore : ∀ mine job, p mine job → p (mine ++ es') job)
    (h : DoneBy p t es) : DoneBy p t (es ++ es') := by
  obtain ⟨hrunner, name, job, hstarted, hjob⟩ := h
  refine ⟨runner_append_inner hinner hrunner, name, job, List.mem_append_left _ hstarted, ?_⟩
  rw [own_append_inner hinner hrunner, if_pos rfl]
  exact hmore _ _ hjob

theorem Event.accounted_of_isQuiet (h : e.isQuiet) : e.Accounted w before after := by
  cases e <;> first | exact True.intro | cases h

/-- What happens later takes nothing back. -/
theorem Event.Accounted.mono (h : e.Accounted w before after) (more : List Event) :
    e.Accounted w before (after ++ more) := by
  cases e with
  | sendFailed t leased s =>
    obtain ⟨hdone, r, rest, rfl⟩ := h
    exact ⟨hdone, r, rest ++ more, rfl⟩
  | _ => exact h

theorem Accountable.append (h : Accountable w es)
    (h' : ∀ more e after, es' = more ++ e :: after → e.Accounted w (es ++ more) after) :
    Accountable w (es ++ es') := by
  intro before e after hsplit
  rcases Scene.events_split hsplit with ⟨more, rfl⟩ | ⟨more, rfl, hes'⟩
  · rw [List.append_assoc, List.cons_append] at hsplit
    obtain rfl := (List.cons.inj (List.append_cancel_left hsplit)).2
    exact (h before e more rfl).mono es'
  · exact h' more e after hes'

theorem accounted_of_quiet (hquiet : ∀ e ∈ es', e.isQuiet) (more : List Event) (e : Event)
    (after : List Event) (hsplit : es' = more ++ e :: after) : e.Accounted w (es ++ more) after :=
  Event.accounted_of_isQuiet (hquiet e (by simp [hsplit]))

/-- An event that stands alone. -/
theorem accounted_singleton {e' : Event} (h : e'.Accounted w es []) (more : List Event) (e : Event)
    (after : List Event) (hsplit : [e'] = more ++ e :: after) : e.Accounted w (es ++ more) after := by
  obtain ⟨rfl, hlast⟩ := List.singleton_eq_append_iff.mp hsplit |>.resolve_right (by simp)
  obtain ⟨rfl, rfl⟩ := List.cons.inj hlast
  rwa [List.append_nil]

/-- A connection that is accepted is accounted for. -/
theorem accounted_connectEvents {c : Option Connection} {new : Connection} {n : Nat}
    (hplan : (w.plan new.socket).refusal n = none)
    (hrunner : runnerFrom none es = none ∨ ∃ t, DoneBy (Job.Connects new.socket new.client) t es)
    (more : List Event) (e : Event) (after : List Event)
    (hsplit : connectEvents c new = more ++ e :: after) : e.Accounted w (es ++ more) after := by
  obtain ⟨records, hconnect⟩ := exists_connectEvents c new
  rw [hconnect] at hsplit
  -- Records come first, then the connection, and a record of it last.
  rcases Scene.events_split hsplit with ⟨more', hrecords⟩ | ⟨more', rfl, hlast⟩
  · have hmem : e ∈ records.map Event.logged := by simp [hrecords]
    obtain ⟨r, -, rfl⟩ := List.mem_map.mp hmem
    trivial
  · cases more' with
    | nil =>
      obtain ⟨rfl, -⟩ := List.cons.inj hlast
      rw [List.append_nil]
      have hinner : ∀ e ∈ records.map Event.logged, e.isInner := by simp [Event.isInner]
      have huntried : Untried (records.map Event.logged) := by simp [Untried, Event.isAttempt]
      refine ⟨⟨n, hplan⟩, ?_⟩
      rcases hrunner with hnone | ⟨t, hdone⟩
      · exact .inl (runner_append_inner hinner hnone)
      · exact .inr ⟨t, hdone.append_inner hinner fun mine job hjob => hjob.append huntried⟩
    | cons e' more' =>
      have hmem : e ∈ [Event.logged (.connected new.client)] := by simp [(List.cons.inj hlast).2]
      obtain rfl := List.mem_singleton.mp hmem
      trivial

/-- What a task does by its job is accounted for. -/
theorem Deed.accounted {t : TaskId} {name : String} {job : Job} (hdeed : Deed w t (own t es) job es')
    (hrunner : runnerFrom none es = some t) (hstarted : .started t name job ∈ es) :
    ∀ more e after, es' = more ++ e :: after → e.Accounted w (es ++ more) after := by
  have hdone {p : List Event → Job → Prop} (hjob : p (own t es) job) : DoneBy p t es :=
    ⟨hrunner, name, job, hstarted, hjob⟩
  cases hdeed with
  | quiet hquiet => exact accounted_of_quiet hquiet
  | connect hplan hjob => exact accounted_connectEvents hplan (.inr ⟨t, hdone hjob⟩)
  | refuse hplan hjob => exact accounted_singleton ⟨⟨_, hplan⟩, .inr ⟨t, _, hdone hjob⟩⟩
  | @giveUp c s records hjob =>
    intro more e after hsplit
    obtain ⟨records', hdrop⟩ := exists_dropEvents c s
    have hshape : ∀ e ∈ records.map Event.logged ++ dropEvents c s,
        e = .dropped s ∨ ∃ r, e = .logged r := by
      simp only [hdrop, List.mem_append, List.mem_cons, List.mem_map]
      rintro e (⟨r, -, rfl⟩ | rfl | ⟨r, -, rfl⟩)
      · exact .inr ⟨r, rfl⟩
      · exact .inl rfl
      · exact .inr ⟨r, rfl⟩
    have hinner : ∀ e ∈ more, e.isInner := by
      intro e he
      rcases hshape e (by simp [hsplit, he]) with rfl | ⟨r, rfl⟩ <;> rfl
    rcases hshape e (by simp [hsplit]) with rfl | ⟨r, rfl⟩
    · exact .inl ⟨t, (hdone hjob).append_inner hinner fun mine job hjob =>
        hjob.mono (List.subset_append_left _ _)⟩
    · trivial
  | @fail c s leased r hjob =>
    intro more e after hsplit
    obtain ⟨records, hdrop⟩ := exists_dropEvents c s
    rw [hdrop] at hsplit
    -- The failure comes first, a record of it second, and the loss of the socket third.
    match more, hsplit with
    | [], hsplit =>
      obtain ⟨rfl, rfl⟩ := List.cons.inj hsplit
      rw [List.append_nil]
      exact ⟨hdone hjob, r, _, rfl⟩
    | [e₁], hsplit =>
      obtain ⟨rfl, -⟩ := List.cons.inj (List.cons.inj hsplit).2
      trivial
    | [e₁, e₂], hsplit =>
      simp only [List.cons_append, List.nil_append, List.cons.injEq] at hsplit
      obtain ⟨rfl, rfl, rfl, -⟩ := hsplit
      exact .inr ⟨es, t, leased, r, rfl⟩
    | e₁ :: e₂ :: e₃ :: more, hsplit =>
      simp only [List.cons_append, List.cons.injEq] at hsplit
      have hmem : e ∈ records.map Event.logged := by simp [hsplit.2.2.2]
      obtain ⟨r', -, rfl⟩ := List.mem_map.mp hmem
      trivial

end Accountable

/-! ## Every event is accounted for -/

namespace Scene

/-- Every task is where it may be by its job, and all events are accounted for. -/
structure Accounted (w : World) (σ : Scene) : Prop where
  seats : σ.Seated
  halts : σ.HaltsWell
  runner : runnerFrom none σ.events = σ.running.map fun r => r.1.id
  waits : ∀ task ∈ σ.tasks, ∃ job, .started task.id task.name job ∈ σ.events ∧
    task.point.Befits (own task.id σ.events) job
  runs : ∀ task stage, σ.running = some (task, stage) →
    ∃ job, .started task.id task.name job ∈ σ.events ∧ stage.Befits (own task.id σ.events) job ∧
      ∀ outcome, stage = .halt (.done outcome) → job.Concludes task.id outcome σ.events
  known : ∀ t name job, .started t name job ∈ σ.events → t < σ.next
  unknown : ∀ t, σ.next ≤ t → own t σ.events = []
  once : StartedOnce σ.events
  events : Accountable w σ.events

namespace Accounted

variable {w : World} {σ σ' : Scene} {es : List Event}

theorem initial : Scene.initial.Accounted w where
  seats := .initial
  halts _ _ _ h := by cases h
  runner := rfl
  waits _ h := by cases h
  runs _ _ h := by cases h
  known _ _ _ h := by cases h
  unknown _ _ := rfl
  once _ _ _ _ _ h := by cases h
  events before e after h := by simp [Scene.initial] at h

/-- Some events happen, which start no task and are the doing of `u` if of anyone. -/
theorem extend (inv : σ.Accounted w) (u : Option TaskId) (hseated : σ'.Seated ∧ σ'.HaltsWell)
    (hevents : σ'.events = σ.events ++ es) (hnext : σ'.next = σ.next)
    (hstarts : ∀ t name job, .started t name job ∉ es)
    (hrunner : runnerFrom none σ'.events = σ'.running.map fun r => r.1.id)
    (hknown : ∀ t, u = some t → t < σ.next)
    (hown : ∀ t, u ≠ some t → own t σ'.events = own t σ.events)
    (hes : ∀ more e after, es = more ++ e :: after → e.Accounted w (σ.events ++ more) after)
    (hwaits : ∀ task ∈ σ'.tasks, ∃ job, .started task.id task.name job ∈ σ.events ∧
      task.point.Befits (own task.id σ'.events) job)
    (hruns : ∀ task stage, σ'.running = some (task, stage) →
      ∃ job, .started task.id task.name job ∈ σ.events ∧ stage.Befits (own task.id σ'.events) job ∧
        ∀ outcome, stage = .halt (.done outcome) → job.Concludes task.id outcome σ'.events) :
    σ'.Accounted w := by
  have hold {t : TaskId} {name : String} {job : Job} :
      .started t name job ∈ σ'.events ↔ .started t name job ∈ σ.events := by
    rw [hevents, List.mem_append]
    exact ⟨fun h => h.resolve_right (hstarts t name job), .inl⟩
  constructor
  case seats => exact hseated.1
  case halts => exact hseated.2
  case runner => exact hrunner
  case waits =>
    intro task htask
    obtain ⟨job, hstarted, hbefits⟩ := hwaits task htask
    exact ⟨job, hold.mpr hstarted, hbefits⟩
  case runs =>
    intro task stage hrun
    obtain ⟨job, hstarted, hbefits⟩ := hruns task stage hrun
    exact ⟨job, hold.mpr hstarted, hbefits⟩
  case known =>
    intro t name job h
    rw [hnext]
    exact inv.known t name job (hold.mp h)
  case unknown =>
    intro t ht
    rw [hnext] at ht
    have hu : u ≠ some t := fun hu => absurd (hknown t hu) (Nat.not_lt.mpr ht)
    rw [hown t hu]
    exact inv.unknown t ht
  case once =>
    intro t name job name' job' h h'
    exact inv.once t name job name' job' (hold.mp h) (hold.mp h')
  case events =>
    rw [hevents]
    exact inv.events.append hes

/-- A task that waits where it did, and has done nothing meanwhile, is where it may be. -/
theorem waits_still (inv : σ.Accounted w) {task task' : Task} (htask : task ∈ σ.tasks)
    (hsame : task'.id = task.id ∧ task'.name = task.name ∧ task'.point = task.point)
    (hown : own task'.id σ'.events = own task'.id σ.events) :
    ∃ job, .started task'.id task'.name job ∈ σ.events ∧
      task'.point.Befits (own task'.id σ'.events) job := by
  obtain ⟨hid, hname, hpoint⟩ := hsame
  rw [hown, hid, hname, hpoint]
  exact inv.waits task htask

/-- Nobody runs, and the tasks wait where they did. -/
theorem idle (inv : σ.Accounted w) (hseated : σ'.Seated ∧ σ'.HaltsWell) (hidle : σ.running = none)
    (hidle' : σ'.running = none) (hevents : σ'.events = σ.events ++ es)
    (hinner : ∀ e ∈ es, e.isInner)
    (hes : ∀ more e after, es = more ++ e :: after → e.Accounted w (σ.events ++ more) after)
    (hnext : σ'.next = σ.next) (htasks : ∀ task' ∈ σ'.tasks, ∃ task ∈ σ.tasks,
      task'.id = task.id ∧ task'.name = task.name ∧ task'.point = task.point) :
    σ'.Accounted w := by
  have hrunner : runnerFrom none σ.events = none := by rw [inv.runner, hidle]; rfl
  have hown (t : TaskId) : own t σ'.events = own t σ.events := by
    rw [hevents, own_append_inner hinner hrunner, if_neg nofun, List.append_nil]
  refine inv.extend none hseated hevents hnext (AllTraced.not_started_of_inner hinner) ?_ nofun
    (fun t _ => hown t) hes ?_ ?_
  · rw [hevents, runner_append_inner hinner hrunner, hidle']
    rfl
  · intro task' htask'
    obtain ⟨task, htask, hsame⟩ := htasks task' htask'
    exact inv.waits_still htask hsame (hown task'.id)
  · intro task stage hrun
    rw [hidle'] at hrun
    cases hrun

theorem start (inv : σ.Accounted w) (hidle : σ.running = none) (name : String) (job : Job) :
    Accounted w { σ with
      tasks := σ.tasks ++ [⟨σ.next, name, .fresh job, false⟩]
      ready := σ.ready ++ [σ.next]
      next := σ.next + 1
      events := σ.events ++ [.started σ.next name job] } := by
  have hrunner : runnerFrom none σ.events = none := by rw [inv.runner, hidle]; rfl
  have hown (t : TaskId) : own t (σ.events ++ [.started σ.next name job]) = own t σ.events := by
    rw [own_append_last (fun _ => rfl) hrunner, if_neg nofun, List.append_nil]
  constructor
  case seats => exact inv.seats.start hidle name job
  case halts => exact haltsWell_of_step (w := w) (.start hidle name job)
  case runner =>
    rw [runnerFrom_append, inv.runner]
    rfl
  case waits =>
    intro task htask
    rw [hown]
    rcases List.mem_append.mp htask with htask | htask
    · obtain ⟨job', hstarted, hbefits⟩ := inv.waits task htask
      exact ⟨job', List.mem_append_left _ hstarted, hbefits⟩
    · obtain rfl := List.mem_singleton.mp htask
      refine ⟨job, List.mem_append_right _ (List.mem_singleton_self _), rfl, ?_⟩
      rw [inv.unknown σ.next (Nat.le_refl _)]
      exact nofun
  case runs =>
    intro task stage hrun
    rw [hidle] at hrun
    cases hrun
  case known => exact fun t name' job' h => started_lt_succ inv.known h
  case unknown =>
    intro t ht
    rw [hown]
    exact inv.unknown t (Nat.le_of_succ_le ht)
  case once =>
    exact fun t name₁ job₁ name₂ job₂ h₁ h₂ => started_once_append inv.known inv.once h₁ h₂
  case events => exact inv.events.append (accounted_of_quiet (by simp [Event.isQuiet]))

/-- A task that waits is let run; it goes to a stage that belongs to its job, and if it ends there, it
was cancelled. -/
theorem picked {task : Task} {stage : Stage} (inv : σ.Accounted w)
    (hseated : σ'.Seated ∧ σ'.HaltsWell) (htask : task ∈ σ.tasks)
    (htasks : σ'.tasks = σ.tasks.filter (·.id ≠ task.id)) (hrun : σ'.running = some (task, stage))
    (hevents : σ'.events = σ.events ++ .resumed task.id :: es) (hnext : σ'.next = σ.next)
    (hinner : ∀ e ∈ es, e.isInner) (hquiet : ∀ e ∈ es, e.isQuiet)
    (hstage : ∀ mine job, task.point.Befits mine job → stage.Befits mine job)
    (hends : ∀ outcome, stage = .halt (.done outcome) → outcome = .error .cancelled) :
    σ'.Accounted w := by
  have hown (t : TaskId) (ht : some task.id ≠ some t) : own t σ'.events = own t σ.events := by
    rw [hevents, own_append_resumed hinner, if_neg fun h => ht (congrArg some h), List.append_nil]
  have huntried : Untried (.resumed task.id :: es) := by
    refine List.forall_mem_cons.mpr ⟨rfl, fun e he => ?_⟩
    have hkind := hquiet e he
    cases e <;> first | rfl | cases hkind
  refine inv.extend (some task.id) hseated hevents hnext ?_ ?_ ?_ hown ?_ ?_ ?_
  · intro t name job h
    rcases List.mem_cons.mp h with h | h
    · cases h
    · cases hinner _ h
  · rw [hevents, runner_append_resumed hinner, hrun]
    rfl
  · rintro t ⟨⟩
    exact inv.seats.known task htask
  · exact accounted_of_quiet (List.forall_mem_cons.mpr ⟨rfl, hquiet⟩)
  · intro other hother
    rw [htasks] at hother
    obtain ⟨hother, hne⟩ := List.mem_filter.mp hother
    have hne : some task.id ≠ some other.id := fun h => by simp [Option.some.inj h] at hne
    exact inv.waits_still hother ⟨rfl, rfl, rfl⟩ (hown other.id hne)
  · intro other stage' hrun'
    obtain ⟨rfl, rfl⟩ := Prod.mk.inj (Option.some.inj (hrun.symm.trans hrun'))
    obtain ⟨job, hstarted, hbefits⟩ := inv.waits _ htask
    refine ⟨job, hstarted, hstage _ job ?_, fun outcome hdone => ?_⟩
    · rw [hevents, own_append_resumed hinner, if_pos rfl]
      exact hbefits.append huntried
    · rw [hends outcome hdone]
      exact job.concludes_cancelled _ σ'.events

/-- The running task acts. -/
theorem moved {task : Task} {stage stage' : Stage} {c : Option Connection} (inv : σ.Accounted w)
    (hseated : σ'.Seated ∧ σ'.HaltsWell) (hrun : σ.running = some (task, stage))
    (hrun' : σ'.running = some (task, stage')) (htasks : σ'.tasks = σ.tasks)
    (hevents : σ'.events = σ.events ++ es) (hnext : σ'.next = σ.next)
    (hact : stage.Acts w task.id c es stage') : σ'.Accounted w := by
  obtain ⟨job, hstarted, hbefits, -⟩ := inv.runs task stage hrun
  obtain ⟨hknown, hothers, -⟩ := inv.seats.runner _ _ hrun
  have hrunner : runnerFrom none σ.events = some task.id := by rw [inv.runner, hrun]; rfl
  have hown (t : TaskId) (ht : some task.id ≠ some t) : own t σ'.events = own t σ.events := by
    rw [hevents, own_append_inner hact.inner hrunner, if_neg ht, List.append_nil]
  refine inv.extend (some task.id) hseated hevents hnext
    (AllTraced.not_started_of_inner hact.inner) ?_ ?_ hown
    ((hact.deed hbefits).accounted hrunner hstarted) ?_ ?_
  · rw [hevents, runner_append_inner hact.inner hrunner, hrun']
    rfl
  · rintro t ⟨⟩
    exact hknown
  · intro other hother
    rw [htasks] at hother
    exact inv.waits_still hother ⟨rfl, rfl, rfl⟩
      (hown other.id fun h => hothers other hother (Option.some.inj h).symm)
  · intro other stage'' hrun''
    obtain ⟨rfl, rfl⟩ := Prod.mk.inj (Option.some.inj (hrun'.symm.trans hrun''))
    rw [hevents, own_append_inner hact.inner hrunner, if_pos rfl]
    exact ⟨job, hstarted, hact.befits hbefits, fun outcome hdone =>
      hact.concludes hbefits hdone hrunner⟩

/-- The running task waits from now on. -/
theorem put {task : Task} {how : Halt} {p : Point} (inv : σ.Accounted w)
    (hseated : σ'.Seated ∧ σ'.HaltsWell) (hrun : σ.running = some (task, .halt how))
    (hpoint : how.point? = some p)
    (htasks : σ'.tasks = σ.tasks ++ [{ task with point := p, cancelled := false }])
    (hrun' : σ'.running = none) (hnext : σ'.next = σ.next)
    (hevents : σ'.events = σ.events ++ [.paused task.id]) : σ'.Accounted w := by
  obtain ⟨hknown, hothers, -⟩ := inv.seats.runner _ _ hrun
  have hrunner : runnerFrom none σ.events = some task.id := by rw [inv.runner, hrun]; rfl
  have hown (t : TaskId) (ht : some task.id ≠ some t) : own t σ'.events = own t σ.events := by
    rw [hevents, own_append_last (fun _ => rfl) hrunner, if_neg ht, List.append_nil]
  refine inv.extend (some task.id) hseated hevents hnext (by simp) ?_ ?_ hown
    (accounted_of_quiet (by simp [Event.isQuiet])) ?_ ?_
  · rw [hevents, runnerFrom_append, hrun']
    rfl
  · rintro t ⟨⟩
    exact hknown
  · intro other hother
    rw [htasks] at hother
    rcases List.mem_append.mp hother with hother | hother
    · exact inv.waits_still hother ⟨rfl, rfl, rfl⟩
        (hown other.id fun h => hothers other hother (Option.some.inj h).symm)
    · obtain ⟨job, hstarted, hbefits, -⟩ := inv.runs _ _ hrun
      obtain rfl := List.mem_singleton.mp hother
      refine ⟨job, hstarted, ?_⟩
      rw [hevents, own_append_last (fun _ => rfl) hrunner, if_pos rfl]
      exact (hbefits p hpoint).append (by simp [Untried, Event.isAttempt])
  · intro other stage hrun''
    rw [hrun'] at hrun''
    cases hrun''

/-- The running task comes to its end. -/
theorem ends {task : Task} {outcome : Except Fault TaskResult} (inv : σ.Accounted w)
    (hrun : σ.running = some (task, .halt (.done outcome))) :
    Accounted w { σ with
      running := none
      events := σ.events ++ [.ended task.id task.name outcome] } := by
  obtain ⟨job, hstarted, -, hconcludes⟩ := inv.runs _ _ hrun
  obtain ⟨hknown, hothers, -⟩ := inv.seats.runner _ _ hrun
  have hrunner : runnerFrom none σ.events = some task.id := by rw [inv.runner, hrun]; rfl
  have hown (t : TaskId) (ht : some task.id ≠ some t) :
      own t (σ.events ++ [.ended task.id task.name outcome]) = own t σ.events := by
    rw [own_append_last (fun _ => rfl) hrunner, if_neg ht, List.append_nil]
  have hhalts : HaltsWell { σ with
      running := none
      events := σ.events ++ [.ended task.id task.name outcome] } := fun _ _ _ h => by cases h
  refine inv.extend (some task.id) ⟨inv.seats.ends, hhalts⟩ rfl rfl (by simp) ?_ ?_ hown
    (accounted_singleton ⟨job, hstarted, hconcludes outcome rfl⟩) ?_ fun _ _ h => by cases h
  · rw [runnerFrom_append]
    rfl
  · rintro t ⟨⟩
    exact hknown
  · intro other hother
    exact inv.waits_still hother ⟨rfl, rfl, rfl⟩
      (hown other.id fun h => hothers other hother (Option.some.inj h).symm)

/-- The running task has lost the lease. -/
theorem lost {task : Task} {stage : Stage} (inv : σ.Accounted w)
    (hrun : σ.running = some (task, stage)) (hreleases : stage.releases = true) :
    Accounted w (σ.go task (.halt (.done (.error .leaseNotHeld))) []) := by
  obtain ⟨job, hstarted, hbefits, -⟩ := inv.runs _ _ hrun
  have hsame : (σ.go task (.halt (.done (.error .leaseNotHeld))) []).events = σ.events :=
    List.append_nil _
  have hhalts : (σ.go task (.halt (.done (.error .leaseNotHeld))) []).HaltsWell :=
    fun _ _ _ h => by cases h
  refine inv.extend none ⟨inv.seats.go hrun _ (.inr rfl), hhalts⟩ rfl rfl (by simp) ?_ nofun
    (fun t _ => by rw [hsame]) (by simp) ?_ ?_
  · rw [hsame, inv.runner, hrun]
    rfl
  · exact fun other hother => inv.waits_still hother ⟨rfl, rfl, rfl⟩ (by rw [hsame])
  · intro task' stage' hrun'
    obtain ⟨rfl, rfl⟩ := Prod.mk.inj (Option.some.inj hrun')
    refine ⟨job, hstarted, Stage.befits_done _, fun outcome _ => ?_⟩
    cases stage with
    | refused purpose => exact Purpose.Serves.concludes hbefits _ _
    | leave | finish => exact Job.UsesLease.concludes hbefits _ _
    | _ => cases hreleases

/-- Giving the lease back from outside changes nothing here. -/
theorem passOn (inv : σ.Accounted w) (hidle : σ.running = none) :
    (σ.grantTo σ.lease.passOn).Accounted w := by
  have hhalts : (σ.grantTo σ.lease.passOn).HaltsWell := by
    intro task g p hrun
    cases hidle.symm.trans hrun
  exact inv.idle ⟨inv.seats.grantTo_wake rfl, hhalts⟩ hidle hidle (List.append_nil _).symm (by simp)
    (by simp) rfl fun task h => ⟨task, h, rfl, rfl, rfl⟩

theorem ends_stage (c : Option Connection) (name : String) (p : Point)
    (outcome : Except Fault TaskResult) (h : p.stage c name = .halt (.done outcome)) :
    outcome = .error .cancelled := by
  cases p with
  | queued purpose => cases c <;> cases h
  | _ => cases h

theorem ends_cancelledStage (p : Point) (outcome : Except Fault TaskResult)
    (h : p.cancelledStage = .halt (.done outcome)) : outcome = .error .cancelled := by
  cases p with
  | pausing | sending => cases h
  | _ =>
    cases h
    rfl

theorem step (inv : σ.Accounted w) (hstep : Step w σ σ') : σ'.Accounted w := by
  have hseated : σ'.Seated ∧ σ'.HaltsWell :=
    ⟨inv.seats.step inv.halts hstep, haltsWell_of_step hstep⟩
  cases hstep with
  | outside hidle hes =>
    have hrunner : runnerFrom none σ.events = none := by rw [inv.runner, hidle]; rfl
    refine inv.idle hseated hidle hidle rfl (inner_of_asides hes.aside) ?_ rfl
      fun task h => ⟨task, h, rfl, rfl, rfl⟩
    cases hes with
    | nothing => exact accounted_of_quiet (by simp)
    | gate => exact accounted_of_quiet (by simp [Event.isQuiet])
    | connect new hplan => exact accounted_connectEvents hplan (.inl hrunner)
    | refuse s hplan => exact accounted_singleton ⟨⟨_, hplan⟩, .inl hrunner⟩
  | start hidle name job => exact inv.start hidle name job
  | cancel hidle htask =>
    refine inv.idle hseated hidle hidle (List.append_nil _).symm (by simp) (by simp) rfl ?_
    intro task' htask'
    obtain ⟨task, htask, rfl⟩ := List.mem_map.mp htask'
    exact ⟨task, htask, by split <;> exact ⟨rfl, rfl, rfl⟩⟩
  | giveBack hidle => exact inv.passOn hidle
  | openGate hidle | comeIn hidle | skip hidle =>
    exact inv.idle hseated hidle hidle (List.append_nil _).symm (by simp) (by simp) rfl
      fun task h => ⟨task, h, rfl, rfl, rfl⟩
  | resume hidle hready htask =>
    exact inv.picked hseated htask rfl rfl rfl rfl (by simp) (by simp)
      (fun mine job h => h.stage _ _) (ends_stage _ _ _)
  | @grant task rest purpose hidle hready htask hwell hpoint =>
    refine inv.picked hseated htask rfl rfl rfl rfl (by simp [Event.isInner])
      (by simp [Event.isQuiet]) (fun mine job h => ?_) (ends_stage _ task.name (.queued purpose))
    rw [hpoint] at h
    exact Purpose.Serves.befits h _
  | giveUp hidle hready htask | giveUpQueue hidle hready htask | giveUpReader hidle hready htask =>
    exact inv.picked hseated htask rfl rfl rfl rfl (by simp) (by simp)
      (fun mine job h => h.cancelled) (ends_cancelledStage _)
  | act hrun hact | release hrun hact => exact inv.moved hseated hrun rfl rfl rfl rfl hact
  | take hrun hopen => exact inv.moved hseated hrun rfl rfl rfl rfl .take
  | @queue task purpose hrun hopen =>
    have hact : (Stage.ask purpose).Acts w task.id none [.asked task.id] _ := .queue
    exact inv.moved hseated hrun rfl rfl rfl rfl hact
  | lost hrun hreleases => exact inv.lost hrun hreleases
  | waitGate hrun | waitQueue hrun | waitReader hrun => exact inv.put hseated hrun rfl rfl rfl rfl rfl
  | ends hrun => exact inv.ends hrun

theorem steps (inv : σ.Accounted w) (hsteps : Relation.ReflTransGen (Step w) σ σ') :
    σ'.Accounted w := by
  induction hsteps with
  | refl => exact inv
  | tail _ hstep ih => exact ih.step hstep

end Accounted

end Scene

namespace Hub

variable {w : World} {h : Hub}

/-- A move leaves all events accounted for, also when it gives the lease back. -/
theorem accounted_move (htracks : h.Tracks w) (inv : (h.scene none).Accounted w) (m : Move) :
    (h.move m).Tracks w ∧ ((h.move m).scene none).Accounted w := by
  by_cases hm : m = .release
  · subst hm
    rw [move]
    by_cases hheld : h.lease.held = true
    · rw [releaseLease_of_held hheld, scene_passTo]
      exact ⟨htracks.passTo _, inv.passOn rfl⟩
    · rw [Bool.not_eq_true] at hheld
      rw [releaseLease_of_not_held hheld]
      exact ⟨htracks, inv⟩
  · obtain ⟨hsteps, htracks'⟩ := (strides_move htracks hm).steps
    exact ⟨htracks', inv.steps hsteps⟩

/-- A run leaves all events accounted for, and the current connection is the one the events tell. -/
theorem accounted_run (htracks : h.Tracks w) (inv : (h.scene none).Accounted w)
    (moves : List Move) : (h.run moves).Tracks w ∧ ((h.run moves).scene none).Accounted w := by
  induction moves generalizing h with
  | nil => exact ⟨htracks, inv⟩
  | cons m moves ih =>
    obtain ⟨htracks', inv'⟩ := accounted_move htracks inv m
    exact ih htracks' inv'

end Hub

end PlotStream
