import PlotStream.Proofs.Session.History
import PlotStream.Session.Run

/-!
# What a running task can do

A task that runs goes from stage to stage until it halts. `Acts` lists every step between two stages,
with the events it leaves behind; what a step needs to know of the session is the current connection
alone. Everything else (whether a send has to wait, whether it fails, what comes in, how often a socket has
been accepted before) is left open. A step that takes the lease or gives it back is listed here by its
events only; what it does to the lease is the business of `Scene.Step`.
-/

namespace PlotStream

/-! ## Stages -/

/-- How a run of a task comes to its end. -/
inductive Halt
  /-- The task waits for a gate, and then goes on from a point. -/
  | gate (gate : GateId) (point : Point)
  /-- The task waits for the lease. -/
  | queue (purpose : Purpose)
  /-- The task waits for something to come in. -/
  | reader (socket : SocketId)
  | done (outcome : Except Fault TaskResult)

/-- Where a task stands while it runs. -/
inductive Stage
  | job (name : String) (job : Job)
  /-- In a plotting procedure, with the steps that remain. -/
  | build (call : PlotCall) (group : Group) (rest : List BuildStep)
  /-- About to ask for the lease. -/
  | ask (purpose : Purpose)
  /-- Holds the lease without a browser. -/
  | refused (purpose : Purpose)
  /-- Holds the lease and begins to use it. -/
  | use (holder : Holder)
  | script (holder : Holder) (rest : List Action)
  /-- Holds the lease and completes a send. -/
  | send (holder : Holder) (frame : Frame) (rest : List Action)
  /-- About to give the lease back before the end of a script. -/
  | leave (outcome : Except Fault TaskResult)
  /-- About to give the lease back after the end of a script. -/
  | finish (holder : Holder)
  | sendKept (socket : SocketId) (frame : Frame)
  /-- An endpoint looks at what has come in. -/
  | serve (socket : SocketId)
  /-- An endpoint completes the send of a reply. -/
  | answer (socket : SocketId) (frame : Frame)
  | halt (how : Halt)

namespace Stage

/-- Whether a task at a stage holds the lease. -/
def holds : Stage → Bool
  | refused _ | use _ | script _ _ | send _ _ _ | leave _ | finish _ => true
  | halt (.gate _ (.pausing _ _)) | halt (.gate _ (.sending _ _ _)) => true
  | _ => false

/-- Whether the next step gives the lease back. -/
def releases : Stage → Bool
  | refused _ | leave _ | finish _ => true
  | _ => false

/-- Whether the next step asks for the lease. -/
def asks : Stage → Bool
  | ask _ => true
  | _ => false

end Stage

/-- Whether a task that waits at a point holds the lease. -/
def Point.holds : Point → Bool
  | .pausing _ _ | .sending _ _ _ => true
  | _ => false

/-- Whether a task at a point waits for the lease. -/
def Point.isQueued : Point → Bool
  | .queued _ => true
  | _ => false

/-- The stage of a task that has been granted the lease while `c` is the current connection. -/
def Purpose.stage (c : Option Connection) (purpose : Purpose) : Stage :=
  match c with
  | some c => .use ⟨c.socket, purpose⟩
  | none => .refused purpose

/-- The stage of a task that goes on from a point; one that waited for the lease takes it. -/
def Point.stage (c : Option Connection) (name : String) : Point → Stage
  | .fresh job => .job name job
  | .building call g rest => .build call g rest
  | .queued purpose => purpose.stage c
  | .pausing holder rest => .script holder rest
  | .sending holder f rest => .send holder f rest
  | .sendingKept s f => .sendKept s f
  | .receiving s => .serve s
  | .replying s f => .answer s f

/-- The stage of a task that finds itself cancelled at a point. -/
def Point.cancelledStage (p : Point) : Stage :=
  if p.holds then .leave (.error .cancelled) else .halt (.done (.error .cancelled))

/-! ## Events of single operations -/

/-- The events of a connect that is accepted, when `c` is the current connection. -/
def connectEvents (c : Option Connection) (new : Connection) : List Event :=
  (match c with
    | some c => if c.socket ≠ new.socket then [.logged (.replacing c.client new.client)] else []
    | none => []) ++ [.connected new, .logged (.connected new.client)]

/-- The events of giving up a socket. -/
def dropEvents (c : Option Connection) (s : SocketId) : List Event :=
  .dropped s ::
    match c with
    | some c => if c.socket = s then [.logged (.disconnected c.client)] else []
    | none => []

/-- The events of a send that fails over a connection handed out by the session. -/
def failEvents (c : Option Connection) (t : TaskId) (leased : Bool) (s : SocketId) (f : Frame)
    (fault : Fault) : List Event :=
  .sendFailed t leased s :: .logged (.sendError f fault) :: dropEvents c s

/-- The log records of a check of a group. -/
def checkEvents (g : Group) : List Event :=
  g.validate.emptySources.map fun e => .logged (.emptySource e)

/-- What a step of a plotting procedure does to the group, and the events it leaves behind. -/
inductive BuildStep.Does (w : World) (c : Option Connection) (g : Group) :
    BuildStep → List Event → Except Fault Group → Prop
  | call {b : BuilderCall} {g' : Group} {answer : Answer} (h : g.call b = .ok (g', answer)) :
      Does w c g (.call b) [] (.ok g')
  | callFails {b : BuilderCall} {fault : Fault} (h : g.call b = .error fault) :
      Does w c g (.call b) [] (.error fault)
  | check (h : g.validate.fault? = none) : Does w c g (.inspect .validate) (checkEvents g) (.ok g)
  | checkFails {fault : Fault} (h : g.validate.fault? = some fault) :
      Does w c g (.inspect .validate) (checkEvents g) (.error fault)
  | inspect {q : Inspection} {answer : Answer} (hq : q ≠ .validate)
      (h : g.inspect w.room.calls q = .ok answer) : Does w c g (.inspect q) [] (.ok g)
  | inspectFails {q : Inspection} {fault : Fault} (hq : q ≠ .validate)
      (h : g.inspect w.room.calls q = .error fault) : Does w c g (.inspect q) [] (.error fault)
  | fail (fault : Fault) : Does w c g (.fail fault) [] (.error fault)
  | note (leased : Bool) : Does w c g .noteLeased [.noted leased] (.ok g)
  | await (gate : GateId) : Does w c g (.await gate) [] (.ok g)
  | connect {s : SocketId} {client : Option String} {now : String} {n : Nat}
      (h : (w.plan s).refusal n = none) :
      Does w c g (.connect s client) (connectEvents c ⟨s, client, now⟩) (.ok g)
  | connectFails {s : SocketId} {client : Option String} {n : Nat} {fault : Fault}
      (h : (w.plan s).refusal n = some fault) :
      Does w c g (.connect s client) [.refused s fault] (.error fault)
  | disconnect (s : SocketId) : Does w c g (.disconnect s) (dropEvents c s) (.ok g)

/-! Making and giving up connections and checking a group leave asides only. -/

theorem aside_connectEvents (c : Option Connection) (new : Connection) :
    ∀ e ∈ connectEvents c new, e.isAside := by
  intro e he
  rcases List.mem_append.mp he with he | he
  · cases c with
    | none => cases he
    | some c =>
      dsimp only at he
      split at he
      · rw [List.mem_singleton.mp he]
        rfl
      · cases he
  · rcases List.mem_cons.mp he with rfl | he
    · rfl
    · rw [List.mem_singleton.mp he]
      rfl

theorem aside_dropEvents (c : Option Connection) (s : SocketId) :
    ∀ e ∈ dropEvents c s, e.isAside := by
  intro e he
  rcases List.mem_cons.mp he with rfl | he
  · rfl
  · cases c with
    | none => cases he
    | some c =>
      dsimp only at he
      split at he
      · rw [List.mem_singleton.mp he]
        rfl
      · cases he

theorem aside_checkEvents (g : Group) : ∀ e ∈ checkEvents g, e.isAside := by
  intro e he
  obtain ⟨x, -, rfl⟩ := List.mem_map.mp he
  rfl

theorem BuildStep.Does.aside {w : World} {c : Option Connection} {g : Group} {step : BuildStep}
    {es : List Event} {result : Except Fault Group} (hdoes : step.Does w c g es result) :
    ∀ e ∈ es, e.isAside := by
  cases hdoes with
  | check | checkFails => exact aside_checkEvents g
  | connect => exact aside_connectEvents _ _
  | disconnect => exact aside_dropEvents _ _
  | note | connectFails => simp [Event.isAside]
  | _ => simp

/-! ## Steps -/

/-- What is logged, and what a task comes to, when it is granted the lease without a browser. -/
def Purpose.refusal : Purpose → List Event × Except Fault TaskResult
  | .plot g _ => ([.logged (.noSession g.id)], .ok (.truth false))
  | _ => ([], .error .noActiveSession)

/-- What is logged at the end of a script. -/
def Purpose.closing : Purpose → List Event
  | .plot g _ => [.logged (.plotted g)]
  | _ => []

/-- The steps of a running task: from a stage, with some events, to a stage. `c` is the connection
that is current. -/
inductive Stage.Acts (w : World) (t : TaskId) (c : Option Connection) :
    Stage → List Event → Stage → Prop
  -- jobs
  | connect {name : String} {s : SocketId} {client : Option String} {now : String} {n : Nat}
      (h : (w.plan s).refusal n = none) :
      Acts w t c (.job name (.connect s client)) (connectEvents c ⟨s, client, now⟩)
        (.halt (.done (.ok .nothing)))
  | connectFails {name : String} {s : SocketId} {client : Option String} {n : Nat} {fault : Fault}
      (h : (w.plan s).refusal n = some fault) :
      Acts w t c (.job name (.connect s client)) [.refused s fault] (.halt (.done (.error fault)))
  | disconnect {name : String} {s : SocketId} :
      Acts w t c (.job name (.disconnect s)) (dropEvents c s) (.halt (.done (.ok .nothing)))
  | acquire {name : String} : Acts w t c (.job name .acquire) [] (.ask (.keep name))
  | lease {name : String} {script : List Action} :
      Acts w t c (.job name (.lease script)) [] (.ask (.block script))
  | sendUnknown {name connection : String} {f : Frame} {fault : Fault} :
      Acts w t c (.job name (.send connection f)) [] (.halt (.done (.error fault)))
  | sendWaits {name connection : String} {f : Frame} {s : SocketId} {gate : GateId} :
      Acts w t c (.job name (.send connection f)) [] (.halt (.gate gate (.sendingKept s f)))
  | send {name connection : String} {f : Frame} {s : SocketId} :
      Acts w t c (.job name (.send connection f)) [] (.sendKept s f)
  | handle {name text : String} {outcome : Except Fault TaskResult}
      (h : ∀ s, outcome ≠ .ok (.socket s)) :
      Acts w t c (.job name (.handle text)) [] (.halt (.done outcome))
  | plotIdle {name : String} {call : PlotCall} (h : c = none) :
      Acts w t c (.job name (.plot call)) [.began t none, .logged (.noSession call.groupId)]
        (.halt (.done (.ok (.truth false))))
  | plot {name : String} {call : PlotCall} {cur : Connection} (h : c = some cur) :
      Acts w t c (.job name (.plot call)) [.began t (some cur.socket), .called t]
        (.build call (Group.blank call.groupId) call.build)
  | endpoint {name : String} {s : SocketId} {client : Option String} {now : String} {n : Nat}
      (h : (w.plan s).refusal n = none) :
      Acts w t c (.job name (.endpoint s client)) (connectEvents c ⟨s, client, now⟩) (.serve s)
  | endpointFails {name : String} {s : SocketId} {client : Option String} {n : Nat} {fault : Fault}
      (h : (w.plan s).refusal n = some fault) :
      Acts w t c (.job name (.endpoint s client)) [.refused s fault] (.halt (.done (.error fault)))
  -- plotting procedures
  | buildStep {call : PlotCall} {g g' : Group} {step : BuildStep} {rest : List BuildStep}
      {es : List Event} (h : step.Does w c g es (.ok g')) :
      Acts w t c (.build call g (step :: rest)) es (.build call g' rest)
  | buildFails {call : PlotCall} {g : Group} {step : BuildStep} {rest : List BuildStep}
      {es : List Event} {fault : Fault} (h : step.Does w c g es (.error fault)) :
      Acts w t c (.build call g (step :: rest)) es (.halt (.done (.error fault)))
  | buildWaits {call : PlotCall} {g : Group} {gate : GateId} {rest : List BuildStep} :
      Acts w t c (.build call g (.await gate :: rest)) [] (.halt (.gate gate (.building call g rest)))
  | built {call : PlotCall} {g : Group} (h : g.validate.fault? = none) :
      Acts w t c (.build call g []) (checkEvents g) (.ask (.plot g call.gated))
  | malformed {call : PlotCall} {g : Group} {fault : Fault} (h : g.validate.fault? = some fault) :
      Acts w t c (.build call g []) (checkEvents g) (.halt (.done (.error fault)))
  -- the lease
  | take {purpose : Purpose} :
      Acts w t c (.ask purpose) [.asked t, .granted t (c.map (·.socket))] (purpose.stage c)
  | queue {purpose : Purpose} : Acts w t c (.ask purpose) [.asked t] (.halt (.queue purpose))
  | refused (purpose : Purpose) :
      Acts w t c (.refused purpose) purpose.refusal.1 (.halt (.done purpose.refusal.2))
  | keep {s : SocketId} {name : String} :
      Acts w t c (.use ⟨s, .keep name⟩) [] (.halt (.done (.ok (.socket s))))
  | block {s : SocketId} {script : List Action} :
      Acts w t c (.use ⟨s, .block script⟩) [] (.script ⟨s, .block script⟩ script)
  | stream {s : SocketId} {g : Group} :
      Acts w t c (.use ⟨s, .plot g false⟩) [] (.script ⟨s, .plot g false⟩ (g.script w.room))
  | streamGated {s : SocketId} {g : Group} :
      Acts w t c (.use ⟨s, .plot g true⟩) [.gateAnswered t .start true]
        (.script ⟨s, .plot g true⟩ (g.script w.room))
  | streamTooLate {s : SocketId} {g : Group} :
      Acts w t c (.use ⟨s, .plot g true⟩) [.gateAnswered t .start false]
        (.leave (.error .cancelled))
  -- scripts
  | scriptEnds {holder : Holder} : Acts w t c (.script holder []) [] (.finish holder)
  | scriptSendWaits {holder : Holder} {f : Frame} {rest : List Action} {gate : GateId} :
      Acts w t c (.script holder (.send f :: rest)) [] (.halt (.gate gate (.sending holder f rest)))
  | scriptSend {holder : Holder} {f : Frame} {rest : List Action} :
      Acts w t c (.script holder (.send f :: rest)) [] (.send holder f rest)
  | scriptWaits {holder : Holder} {gate : GateId} {rest : List Action} :
      Acts w t c (.script holder (.await gate :: rest)) []
        (.halt (.gate gate (.pausing holder rest)))
  | scriptPasses {holder : Holder} {gate : GateId} {rest : List Action} :
      Acts w t c (.script holder (.await gate :: rest)) [] (.script holder rest)
  | scriptLogs {holder : Holder} {r : LogRecord} {rest : List Action} :
      Acts w t c (.script holder (.log r :: rest)) [.logged r] (.script holder rest)
  | scriptFails {holder : Holder} {fault : Fault} {rest : List Action} :
      Acts w t c (.script holder (.fail fault :: rest)) [] (.leave (.error fault))
  | sent {holder : Holder} {f : Frame} {rest : List Action} :
      Acts w t c (.send holder f rest) [.delivered t true holder.socket f] (.script holder rest)
  | sendFails {holder : Holder} {f : Frame} {rest : List Action} {fault : Fault} :
      Acts w t c (.send holder f rest) (failEvents c t true holder.socket f fault)
        (.leave (.error (.sendFailed f.kindName fault.message)))
  | leave {outcome : Except Fault TaskResult} :
      Acts w t c (.leave outcome) [] (.halt (.done outcome))
  | finish (holder : Holder) :
      Acts w t c (.finish holder) holder.purpose.closing (.halt (.done (.ok (.truth true))))
  -- sends without the lease
  | keptSent {s : SocketId} {f : Frame} :
      Acts w t c (.sendKept s f) [.delivered t false s f] (.halt (.done (.ok .nothing)))
  | keptFails {s : SocketId} {f : Frame} {fault : Fault} :
      Acts w t c (.sendKept s f) (failEvents c t false s f fault)
        (.halt (.done (.error (.sendFailed f.kindName fault.message))))
  | awaitIncoming {s : SocketId} : Acts w t c (.serve s) [] (.halt (.reader s))
  | closed {s : SocketId} : Acts w t c (.serve s) (dropEvents c s) (.halt (.done (.ok .nothing)))
  | incomingFails {s : SocketId} {fault : Fault} :
      Acts w t c (.serve s) (.logged (.endpointError fault) :: dropEvents c s)
        (.halt (.done (.ok .nothing)))
  | replyWaits {s : SocketId} {time text x : String} {m : Message} {gate : GateId}
      (hreply : Message.reply time text = some m) (hjson : m.toJson w.room.calls = .ok x) :
      Acts w t c (.serve s) [] (.halt (.gate gate (.replying s (.text x))))
  | reply {s : SocketId} {time text x : String} {m : Message}
      (hreply : Message.reply time text = some m) (hjson : m.toJson w.room.calls = .ok x) :
      Acts w t c (.serve s) [] (.answer s (.text x))
  | answered {s : SocketId} {f : Frame} :
      Acts w t c (.answer s f) [.delivered t false s f] (.serve s)
  | answerFails {s : SocketId} {f : Frame} {fault : Fault} :
      Acts w t c (.answer s f)
        (.sendFailed t false s :: .logged (.endpointError fault) :: dropEvents c s)
        (.halt (.done (.ok .nothing)))

end PlotStream
