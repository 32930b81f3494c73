import Mathlib.Logic.Function.Basic
import Mathlib.Logic.Relation
import PlotStream.Proofs.Session.Stages

/-!
# Scenes

A scene is what there is to know of a session at one moment for all claims about order: the tasks,
who can go on and who waits for what, the lease, the task that runs with its stage, and the events so
far. `Scene.Step` lists what can happen next, one small step at a time, in whatever order. The
current connection is not part of a scene, since the events tell it.
-/

namespace PlotStream

/-- A moment of a session. -/
@[ext] structure Scene where
  tasks : List Task
  ready : List TaskId
  gates : List (GateId × TaskId)
  lease : Lease
  /-- Who waits for something to come in on a socket. -/
  readers : SocketId → List TaskId
  next : TaskId
  running : Option (Task × Stage)
  events : List Event

/-- Give the lease back: who can go on, and the lease behind it. -/
def Lease.passOn (l : Lease) : Option TaskId × Lease :=
  { l with held := false }.wake

/-- Events that are nobody's doing: a stream gate is asked from outside, or a connection is accepted or
refused there. -/
inductive OutsideEvents (w : World) (c : Option Connection) : List Event → Prop
  | nothing : OutsideEvents w c []
  | gate (t : TaskId) (answer : Bool) : OutsideEvents w c [.gateAnswered t .cancel answer]
  | connect (new : Connection) {n : Nat} (h : (w.plan new.socket).refusal n = none) :
      OutsideEvents w c (connectEvents c new)
  | refuse (s : SocketId) {n : Nat} {fault : Fault} (h : (w.plan s).refusal n = some fault) :
      OutsideEvents w c [.refused s fault]

namespace Scene

/-- Nothing has happened yet. -/
def initial : Scene :=
  ⟨[], [], [], .free, fun _ => [], 0, none, []⟩

/-- The current connection. -/
def session (σ : Scene) : Option Connection :=
  sessionAfter σ.events

/-- Let a task wait at a point; it does not run any more. -/
def put (σ : Scene) (task : Task) (p : Point) : Scene :=
  { σ with
    tasks := σ.tasks ++ [{ task with point := p, cancelled := false }]
    running := none
    events := σ.events ++ [.paused task.id] }

/-- Let a task that is ready run at a stage. -/
def pick (σ : Scene) (task : Task) (rest : List TaskId) (stage : Stage) : Scene :=
  { σ with
    tasks := σ.tasks.filter (·.id ≠ task.id)
    ready := rest
    running := some (task, stage)
    events := σ.events ++ [.resumed task.id] }

/-- Let the running task be at a stage, after some events. -/
def go (σ : Scene) (task : Task) (stage : Stage) (es : List Event) : Scene :=
  { σ with running := some (task, stage), events := σ.events ++ es }

/-- Replace the lease, and let someone go on. -/
def grantTo (σ : Scene) (next : Option TaskId × Lease) : Scene :=
  { σ with lease := next.2, ready := σ.ready ++ next.1.toList }

/-- What can happen next. -/
inductive Step (w : World) : Scene → Scene → Prop
  -- from outside
  | outside {σ : Scene} {es : List Event} (hidle : σ.running = none)
      (hes : OutsideEvents w σ.session es) : Step w σ { σ with events := σ.events ++ es }
  | start {σ : Scene} (hidle : σ.running = none) (name : String) (job : Job) :
      Step w σ { σ with
        tasks := σ.tasks ++ [⟨σ.next, name, .fresh job, false⟩]
        ready := σ.ready ++ [σ.next]
        next := σ.next + 1
        events := σ.events ++ [.started σ.next name job] }
  | openGate {σ : Scene} (hidle : σ.running = none) (g : GateId) :
      Step w σ { σ with
        gates := σ.gates.filter (·.1 ≠ g)
        ready := σ.ready ++ (σ.gates.filter (·.1 = g)).map Prod.snd }
  | cancel {σ : Scene} {task : Task} (hidle : σ.running = none) (htask : task ∈ σ.tasks) :
      Step w σ { σ with
        tasks := σ.tasks.map fun other =>
          if other.id = task.id then { other with cancelled := true } else other
        gates := σ.gates.filter (·.2 ≠ task.id)
        lease := σ.lease.cancel task.id
        ready := if σ.ready.contains task.id then σ.ready else σ.ready ++ [task.id] }
  | giveBack {σ : Scene} (hidle : σ.running = none) (hheld : σ.lease.held = true)
      (hkept : ∀ task ∈ σ.tasks, task.point.holds = false) : Step w σ (σ.grantTo σ.lease.passOn)
  | comeIn {σ : Scene} (hidle : σ.running = none) (s : SocketId) :
      Step w σ { σ with
        readers := Function.update σ.readers s ((σ.readers s).drop 1)
        ready := σ.ready ++ (σ.readers s).head?.toList }
  -- a task goes on
  | skip {σ : Scene} {t : TaskId} {rest : List TaskId} (hidle : σ.running = none)
      (hready : σ.ready = t :: rest) (hdead : ∀ task ∈ σ.tasks, task.id ≠ t) :
      Step w σ { σ with ready := rest }
  | resume {σ : Scene} {task : Task} {rest : List TaskId} (hidle : σ.running = none)
      (hready : σ.ready = task.id :: rest) (htask : task ∈ σ.tasks)
      (hwell : task.cancelled = false) (hqueued : task.point.isQueued = false) :
      Step w σ (σ.pick task rest (task.point.stage σ.session task.name))
  | grant {σ : Scene} {task : Task} {rest : List TaskId} {purpose : Purpose}
      (hidle : σ.running = none) (hready : σ.ready = task.id :: rest) (htask : task ∈ σ.tasks)
      (hwell : task.cancelled = false) (hpoint : task.point = .queued purpose) :
      Step w σ ({ σ.pick task rest (purpose.stage σ.session) with
        lease := (σ.lease.dequeue task.id).take
        events := σ.events ++ [.resumed task.id, .granted task.id (σ.session.map (·.socket))] })
  | giveUp {σ : Scene} {task : Task} {rest : List TaskId} (hidle : σ.running = none)
      (hready : σ.ready = task.id :: rest) (htask : task ∈ σ.tasks)
      (hill : task.cancelled = true) (hqueued : task.point.isQueued = false)
      (hreader : ∀ s, task.point ≠ .receiving s) :
      Step w σ (σ.pick task rest task.point.cancelledStage)
  | giveUpQueue {σ : Scene} {task : Task} {rest : List TaskId} (hidle : σ.running = none)
      (hready : σ.ready = task.id :: rest) (htask : task ∈ σ.tasks)
      (hill : task.cancelled = true) (hqueued : task.point.isQueued = true) :
      Step w σ ((σ.pick task rest task.point.cancelledStage).grantTo (σ.lease.abandon task.id))
  | giveUpReader {σ : Scene} {task : Task} {rest : List TaskId} {s : SocketId}
      {readers : List TaskId} {next : Option TaskId} (hidle : σ.running = none)
      (hready : σ.ready = task.id :: rest) (htask : task ∈ σ.tasks)
      (hill : task.cancelled = true) (hpoint : task.point = .receiving s)
      (hnext : next = none ∧ readers = (σ.readers s).filter (· ≠ task.id) ∨
        task.id ∉ σ.readers s ∧ σ.readers s = next.toList ++ readers) :
      Step w σ { σ.pick task (rest ++ next.toList) task.point.cancelledStage with
        readers := Function.update σ.readers s readers }
  -- the task that runs
  | act {σ : Scene} {task : Task} {stage stage' : Stage} {es : List Event}
      (hrun : σ.running = some (task, stage)) (hact : stage.Acts w task.id σ.session es stage')
      (hasks : stage.asks = false) (hreleases : stage.releases = false) :
      Step w σ (σ.go task stage' es)
  | take {σ : Scene} {task : Task} {purpose : Purpose}
      (hrun : σ.running = some (task, .ask purpose)) (hopen : σ.lease.isOpen = true) :
      Step w σ { σ.go task (purpose.stage σ.session)
          [.asked task.id, .granted task.id (σ.session.map (·.socket))] with
        lease := σ.lease.take }
  | queue {σ : Scene} {task : Task} {purpose : Purpose}
      (hrun : σ.running = some (task, .ask purpose)) (hopen : σ.lease.isOpen = false) :
      Step w σ (σ.go task (.halt (.queue purpose)) [.asked task.id])
  | release {σ : Scene} {task : Task} {stage stage' : Stage} {es : List Event}
      (hrun : σ.running = some (task, stage)) (hact : stage.Acts w task.id σ.session es stage')
      (hreleases : stage.releases = true) (hheld : σ.lease.held = true) :
      Step w σ ((σ.go task stage' es).grantTo σ.lease.passOn)
  | lost {σ : Scene} {task : Task} {stage : Stage} (hrun : σ.running = some (task, stage))
      (hreleases : stage.releases = true) (hheld : σ.lease.held = false) :
      Step w σ (σ.go task (.halt (.done (.error .leaseNotHeld))) [])
  -- a run of a task comes to its end
  | waitGate {σ : Scene} {task : Task} {g : GateId} {p : Point}
      (hrun : σ.running = some (task, .halt (.gate g p))) :
      Step w σ { σ.put task p with gates := σ.gates ++ [(g, task.id)] }
  | waitQueue {σ : Scene} {task : Task} {purpose : Purpose}
      (hrun : σ.running = some (task, .halt (.queue purpose))) :
      Step w σ { σ.put task (.queued purpose) with lease := σ.lease.enqueue task.id }
  | waitReader {σ : Scene} {task : Task} {s : SocketId}
      (hrun : σ.running = some (task, .halt (.reader s))) :
      Step w σ { σ.put task (.receiving s) with
        readers := Function.update σ.readers s (σ.readers s ++ [task.id]) }
  | ends {σ : Scene} {task : Task} {outcome : Except Fault TaskResult}
      (hrun : σ.running = some (task, .halt (.done outcome))) :
      Step w σ { σ with
        running := none
        events := σ.events ++ [.ended task.id task.name outcome] }

/-- A step other than giving the lease back from outside. -/
def Stride (w : World) (σ σ' : Scene) : Prop :=
  Step w σ σ' ∧ (σ.running = none → σ'.running = none → σ'.lease.held = σ.lease.held)

/-- A scene that some order of steps leads to. -/
def Reachable (w : World) (σ : Scene) : Prop :=
  Relation.ReflTransGen (Step w) initial σ

end Scene

end PlotStream
