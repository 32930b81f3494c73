import PlotStream.Session.Hub

/-!
# Running tasks

A task runs until it has to wait or ends. `Hub.resume` lets one task go on from where it stands, and
`Hub.tick` picks the first task that is ready. `Hub.settle` repeats this until no task can go on;
every tick uses up a task that is ready or turns it into one that waits, which bounds their number.
-/

namespace PlotStream

/-- What a run of a task comes to: it waits, or it has ended. -/
inductive Progress
  | waits (point : Point)
  | ends (outcome : Except Fault TaskResult)

namespace Hub

variable (h : Hub)

/-! ## Under the lease -/

/-- Give the lease back and end; a lease that was lost in between replaces the outcome. -/
def leave (outcome : Except Fault TaskResult) : Progress × Hub :=
  match h.releaseLease with
  | (.ok (), h) => (.ends outcome, h)
  | (.error fault, h) => (.ends (.error fault), h)

/-- The script has come to its end. -/
def finish (holder : Holder) : Progress × Hub :=
  match h.releaseLease, holder.purpose with
  | (.ok (), h), .plot g _ => (.ends (.ok (.truth true)), h.log (.plotted g))
  | (.ok (), h), _ => (.ends (.ok (.truth true)), h)
  | (.error fault, h), _ => (.ends (.error fault), h)

/-- Carry out the actions of a holder of the lease. -/
def runScript (h : Hub) (t : TaskId) (holder : Holder) : List Action → Progress × Hub
  | [] => h.finish holder
  | .send f :: rest =>
    match h.beginSend holder.socket with
    | (some gate, h) => (.waits (.sending holder f rest), h.waitAt gate t)
    | (none, h) =>
      match h.deliverHandedOut t true holder.socket f with
      | (.ok (), h) => runScript h t holder rest
      | (.error fault, h) => h.leave (.error fault)
  | .await g :: rest =>
    if h.isOpen g then runScript h t holder rest
    else (.waits (.pausing holder rest), h.waitAt g t)
  | .log r :: rest => runScript (h.log r) t holder rest
  | .fail fault :: _ => h.leave (.error fault)

/-- The send that a holder waited in goes on, and then the rest of its script. -/
def resumeSend (t : TaskId) (holder : Holder) (f : Frame) (rest : List Action) : Progress × Hub :=
  match h.deliverHandedOut t true holder.socket f with
  | (.ok (), h) => h.runScript t holder rest
  | (.error fault, h) => h.leave (.error fault)

/-- No browser was connected when the lease was granted; the lease has been given back. -/
def withoutSession (purpose : Purpose) : Progress × Hub :=
  match purpose with
  | .plot g _ => (.ends (.ok (.truth false)), h.log (.noSession g.id))
  | _ => (.ends (.error .noActiveSession), h)

/-- Begin to use the lease over a connection. -/
def begin (t : TaskId) (holder : Holder) : Progress × Hub :=
  match holder.purpose with
  | .keep name =>
    (.ends (.ok (.socket holder.socket)),
      { h with kept := (name, holder.socket) :: h.kept.filter (·.1 ≠ name) })
  | .block script => h.runScript t holder script
  | .plot g gated =>
    if gated then
      match h.askGate t .start with
      | (true, h) => h.runScript t holder (g.script h.world.room)
      | (false, h) => h.leave (.error .cancelled)
    else h.runScript t holder (g.script h.world.room)

/-- The lease has been taken: go on if a browser is connected, and give it back otherwise. -/
def afterGrant (t : TaskId) (purpose : Purpose) : Progress × Hub :=
  let h := h.record (.granted t (h.current.map (·.socket)))
  match h.connection with
  | .ok s => h.begin t ⟨s, purpose⟩
  | .error _ =>
    match h.releaseLease with
    | (.ok (), h) => h.withoutSession purpose
    | (.error fault, h) => (.ends (.error fault), h)

/-- Ask for the lease: take it, or join the queue. -/
def requestLease (t : TaskId) (purpose : Purpose) : Progress × Hub :=
  let h := h.record (.asked t)
  if h.lease.isOpen then { h with lease := h.lease.take }.afterGrant t purpose
  else (.waits (.queued purpose), { h with lease := h.lease.enqueue t })

/-! ## Plotting procedures -/

/-- Log records one after the other. -/
def logAll (h : Hub) (rs : List LogRecord) : Hub :=
  rs.foldl Hub.log h

/-- Check a group and log the sources without rows. -/
def validate (g : Group) : Except Fault Unit × Hub :=
  let v := g.validate
  let h := h.logAll (v.emptySources.map LogRecord.emptySource)
  match v.fault? with
  | some fault => (.error fault, h)
  | none => (.ok (), h)

/-- Answer a question about a group, which may leave log records. -/
def inspect (g : Group) (question : Inspection) : Except Fault Unit × Hub :=
  match question with
  | .validate => h.validate g
  | _ =>
    match g.inspect h.world.room.calls question with
    | .ok _ => (.ok (), h)
    | .error fault => (.error fault, h)

/-- Carry out the steps of a plotting procedure; after the last one the group is checked and the
lease is asked for. -/
def runBuild (h : Hub) (t : TaskId) (call : PlotCall) (g : Group) :
    List BuildStep → Progress × Hub
  | [] =>
    match h.validate g with
    | (.ok (), h) => h.requestLease t (.plot g call.gated)
    | (.error fault, h) => (.ends (.error fault), h)
  | .call c :: rest =>
    match g.call c with
    | .ok (g, _) => runBuild h t call g rest
    | .error fault => (.ends (.error fault), h)
  | .inspect question :: rest =>
    match h.inspect g question with
    | (.ok (), h) => runBuild h t call g rest
    | (.error fault, h) => (.ends (.error fault), h)
  | .fail fault :: _ => (.ends (.error fault), h)
  | .noteLeased :: rest => runBuild (h.record (.noted h.lease.held)) t call g rest
  | .await gate :: rest =>
    if h.isOpen gate then runBuild h t call g rest
    else (.waits (.building call g rest), h.waitAt gate t)
  | .connect s client :: rest =>
    match h.connect s client with
    | (.ok (), h) => runBuild h t call g rest
    | (.error fault, h) => (.ends (.error fault), h)
  | .disconnect s :: rest => runBuild (h.disconnect s) t call g rest

/-- Begin a streaming call: without a browser its procedure does not run. -/
def startPlot (t : TaskId) (call : PlotCall) : Progress × Hub :=
  let h := h.record (.began t (h.current.map (·.socket)))
  if h.isActive then (h.record (.called t)).runBuild t call (Group.blank call.groupId) call.build
  else (.ends (.ok (.truth false)), h.log (.noSession call.groupId))

/-! ## Endpoints -/

/-- Take what is left in the inbox of a socket. -/
def setInbox (s : SocketId) (rest : List Incoming) : Hub :=
  h.setSocket s { h.socket s with inbox := rest }

/-- Wait for something to come in. -/
def awaitIncoming (t : TaskId) (s : SocketId) : Progress × Hub :=
  let x := h.socket s
  (.waits (.receiving s), h.setSocket s { x with readers := x.readers ++ [t] })

/-- The frame that answers a text. Only the answer to a keep-alive needs to know the time. -/
def replyFrame (text : String) : Option (Except Fault Frame) × Hub :=
  match Message.reply (h.world.clock h.clockReadings) text with
  | none => (none, h)
  | some m =>
    (some ((m.toJson h.world.room.calls).map Frame.text), if m.kind = .pong then h.readClock.2 else h)

/-- An endpoint fails: this is logged and its socket is given up. -/
def failEndpoint (s : SocketId) (fault : Fault) : Progress × Hub :=
  (.ends (.ok .nothing), (h.log (.endpointError fault)).disconnect s)

/-- Take what has come in, one after the other, and answer it. -/
def runEndpoint (h : Hub) (t : TaskId) (s : SocketId) : List Incoming → Progress × Hub
  | [] => h.awaitIncoming t s
  | .closed :: rest => (.ends (.ok .nothing), (h.setInbox s rest).disconnect s)
  | .failed fault :: rest => (h.setInbox s rest).failEndpoint s fault
  | .text text :: rest =>
    match (h.setInbox s rest).replyFrame text with
    | (none, h) => runEndpoint h t s rest
    | (some (.error fault), h) => h.failEndpoint s fault
    | (some (.ok f), h) =>
      match h.beginSend s with
      | (some gate, h) => (.waits (.replying s f), h.waitAt gate t)
      | (none, h) =>
        match h.deliver t false s f with
        | (.ok (), h) => runEndpoint h t s rest
        | (.error fault, h) => h.failEndpoint s fault

/-- Go on with what is in the inbox. -/
def receive (t : TaskId) (s : SocketId) : Progress × Hub :=
  h.runEndpoint t s (h.socket s).inbox

/-- Begin an endpoint: connect, and then receive. -/
def startEndpoint (t : TaskId) (s : SocketId) (client : Option String) : Progress × Hub :=
  match h.connect s client with
  | (.ok (), h) => h.receive t s
  | (.error fault, h) => (.ends (.error fault), h)

/-! ## Tasks -/

/-- End with nothing to tell, or with a fault. -/
def endWith : Except Fault Unit × Hub → Progress × Hub
  | (.ok (), h) => (.ends (.ok .nothing), h)
  | (.error fault, h) => (.ends (.error fault), h)

/-- Begin a send over a kept connection. -/
def startSend (t : TaskId) (connection : String) (f : Frame) : Progress × Hub :=
  match h.kept.lookup connection with
  | none => (.ends (.error (.raised .key connection)), h)
  | some s =>
    match h.beginSend s with
    | (some gate, h) => (.waits (.sendingKept s f), h.waitAt gate t)
    | (none, h) => endWith (h.deliverHandedOut t false s f)

/-- Answer a text. -/
def handle (text : String) : Progress × Hub :=
  match h.replyFrame text with
  | (none, h) => (.ends (.ok (.reply none)), h)
  | (some (.ok (.text s)), h) => (.ends (.ok (.reply (some s))), h)
  | (some (.ok _), h) => (.ends (.ok (.reply none)), h)
  | (some (.error fault), h) => (.ends (.error fault), h)

/-- Begin what a task was started for. -/
def startJob (t : TaskId) (name : String) : Job → Progress × Hub
  | .connect s client => endWith (h.connect s client)
  | .disconnect s => (.ends (.ok .nothing), h.disconnect s)
  | .acquire => h.requestLease t (.keep name)
  | .send connection f => h.startSend t connection f
  | .lease script => h.requestLease t (.block script)
  | .handle text => h.handle text
  | .plot call => h.startPlot t call
  | .endpoint s client => h.startEndpoint t s client

/-- A task goes on from where it stands. -/
def goOn (t : TaskId) (name : String) : Point → Progress × Hub
  | .fresh job => h.startJob t name job
  | .building call g rest => h.runBuild t call g rest
  | .queued purpose => { h with lease := (h.lease.dequeue t).take }.afterGrant t purpose
  | .pausing holder rest => h.runScript t holder rest
  | .sending holder f rest => h.resumeSend t holder f rest
  | .sendingKept s f => endWith (h.deliverHandedOut t false s f)
  | .receiving s => h.receive t s
  | .replying s f =>
    match h.deliver t false s f with
    | (.ok (), h) => h.receive t s
    | (.error fault, h) => h.failEndpoint s fault

/-- A reader that is cancelled after it was woken passes on what has come in. -/
def abandonInbox (t : TaskId) (s : SocketId) : Hub :=
  let x := h.socket s
  if x.readers.contains t then h.setSocket s { x with readers := x.readers.filter (· ≠ t) }
  else
    match x.inbox, x.readers with
    | _ :: _, r :: rest => (h.setSocket s { x with readers := rest }).makeReady r
    | _, _ => h

/-- A task finds itself cancelled where it stands. -/
def giveUp (t : TaskId) : Point → Progress × Hub
  | .queued _ => (.ends (.error .cancelled), h.abandonLease t)
  | .pausing _ _ | .sending _ _ _ => h.leave (.error .cancelled)
  | .receiving s => (.ends (.error .cancelled), h.abandonInbox t s)
  | _ => (.ends (.error .cancelled), h)

/-- Put a task back, or let it end. -/
def settleTask (t : Task) : Progress × Hub → Hub
  | (.waits point, h) =>
    { h with tasks := h.tasks ++ [{ t with point, cancelled := false }] }.record (.paused t.id)
  | (.ends outcome, h) => h.record (.ended t.id t.name outcome)

/-- Let a task go on until it waits or ends. -/
def resume (t : Task) : Hub :=
  let h := { h with tasks := h.tasks.filter (·.id ≠ t.id) }.record (.resumed t.id)
  settleTask t (if t.cancelled then h.giveUp t.id t.point else h.goOn t.id t.name t.point)

/-- The task of a number, if it is alive. -/
def task? (t : TaskId) : Option Task :=
  h.tasks.find? (·.id = t)

/-- Let the first task that is ready go on. -/
def tick : Hub :=
  match h.ready with
  | [] => h
  | t :: rest =>
    let h := { h with ready := rest }
    match h.task? t with
    | some task => h.resume task
    | none => h

/-- At most so many ticks, as long as a task is ready. -/
def tickMany (h : Hub) : Nat → Hub
  | 0 => h
  | n + 1 => if h.ready.isEmpty then h else tickMany h.tick n

/-- No more ticks than this are needed: a tick takes one away. -/
def rank : Nat :=
  h.ready.length + h.tasks.length

/-- Let tasks run until no task can go on. -/
def settle : Hub :=
  h.tickMany h.rank

end Hub

end PlotStream
