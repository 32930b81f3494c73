import PlotStream.Proofs.Session.Runs

/-!
# What a task may change

Whatever a task does while it runs, it adds events of its own only and leaves the other tasks as they
are; it may let some go on. Of what has come in on a socket it takes what stands first, and on no
socket but the one that it attends to. `Hub.Works` says this once, with one lemma for each operation,
so that a claim about one task needs to look at the turns of this task only.

Nothing is said of the lease, which may be given back from outside at any time.
-/

namespace PlotStream

/-- An event that is the doing of a task that runs, and of no other one. -/
def Event.IsOf (t : TaskId) (e : Event) : Prop :=
  e.isInner ∧ ∀ u, e.signer? = some u → u = t

theorem Event.isOf_of_unsigned {t : TaskId} {e : Event} (hinner : e.isInner) (h : e.signer? = none) :
    e.IsOf t :=
  ⟨hinner, fun u hu => by cases h.symm.trans hu⟩

theorem Event.isOf_of_signer {t : TaskId} {e : Event} (hinner : e.isInner)
    (h : e.signer? = some t) : e.IsOf t :=
  ⟨hinner, fun _ hu => Option.some.inj (hu.symm.trans h)⟩

namespace Hub

/-- From one state to another a task has worked that attends to a socket, or to none. -/
structure Works (t : TaskId) (s? : Option SocketId) (h h' : Hub) : Prop where
  world : h'.world = h.world
  tasks : h'.tasks = h.tasks
  next : h'.nextTask = h.nextTask
  clock : h.clockReadings ≤ h'.clockReadings
  ready : h.ready ⊆ h'.ready
  inbox : ∀ s, (h'.socket s).inbox <:+ (h.socket s).inbox
  readers : ∀ s, ∀ u ∈ (h'.socket s).readers, u = t ∨ u ∈ (h.socket s).readers
  others : ∀ s, s? ≠ some s →
    (h'.socket s).inbox = (h.socket s).inbox ∧ (h'.socket s).readers = (h.socket s).readers
  events : ∃ es, h'.events = h.events ++ es ∧ ∀ e ∈ es, e.IsOf t

variable {t : TaskId} {s? : Option SocketId} {h h' h'' : Hub}

namespace Works

theorem refl (h : Hub) : Works t s? h h :=
  ⟨rfl, rfl, rfl, Nat.le_refl _, List.Subset.refl _, fun _ => List.suffix_refl _, fun _ _ => .inr,
    fun _ _ => ⟨rfl, rfl⟩, [], (List.append_nil _).symm, by simp⟩

theorem trans (e : Works t s? h h') (e' : Works t s? h' h'') : Works t s? h h'' where
  world := e'.world.trans e.world
  tasks := e'.tasks.trans e.tasks
  next := e'.next.trans e.next
  clock := Nat.le_trans e.clock e'.clock
  ready := List.Subset.trans e.ready e'.ready
  inbox s := (e'.inbox s).trans (e.inbox s)
  readers s u hu := (e'.readers s u hu).elim .inl (e.readers s u)
  others s hs :=
    ⟨(e'.others s hs).1.trans (e.others s hs).1, (e'.others s hs).2.trans (e.others s hs).2⟩
  events := by
    obtain ⟨es, hes, hof⟩ := e.events
    obtain ⟨es', hes', hof'⟩ := e'.events
    refine ⟨es ++ es', by rw [hes', hes, List.append_assoc], fun e he => ?_⟩
    exact (List.mem_append.mp he).elim (hof e) (hof' e)

/-- Who leaves all sockets alone leaves them alone whatever it attends to. -/
theorem widen (e : Works t none h h') : Works t s? h h' :=
  { e with others := fun s _ => e.others s nofun }

/-- What is not asked about may change. -/
theorem of_same (hworld : h'.world = h.world) (htasks : h'.tasks = h.tasks)
    (hnext : h'.nextTask = h.nextTask) (hclock : h.clockReadings ≤ h'.clockReadings)
    (hready : h.ready ⊆ h'.ready) (hsockets : h'.sockets = h.sockets)
    (hhistory : h'.history = h.history) : Works t s? h h' := by
  have hsame (s : SocketId) : h'.socket s = h.socket s := by rw [socket, hsockets, socket]
  refine ⟨hworld, htasks, hnext, hclock, hready, fun s => ?_, fun s u hu => ?_, fun s _ => ?_, [], ?_,
    by simp⟩
  · exact (congrArg Socket.inbox (hsame s)).symm ▸ List.suffix_refl _
  · exact .inr (hsame s ▸ hu)
  · rw [hsame]
    exact ⟨rfl, rfl⟩
  · rw [List.append_nil, Hub.events, hhistory, Hub.events]

/-- The state that an operation answers with. -/
theorem of_eq {α : Type} {out : α × Hub} {a : α} (e : Works t s? h out.2) (heq : out = (a, h')) :
    Works t s? h h' := by
  rw [heq] at e
  exact e

end Works

/-! ## Single operations -/

theorem works_record (h : Hub) {e : Event} (he : e.IsOf t) : Works t s? h (h.record e) :=
  ⟨rfl, rfl, rfl, Nat.le_refl _, List.Subset.refl _, fun _ => List.suffix_refl _, fun _ _ => .inr,
    fun _ _ => ⟨rfl, rfl⟩, [e], events_record h e, by simpa using he⟩

theorem works_log (h : Hub) (r : LogRecord) : Works t s? h (h.log r) :=
  h.works_record (Event.isOf_of_unsigned rfl rfl)

theorem works_logAll (h : Hub) (rs : List LogRecord) : Works t s? h (h.logAll rs) := by
  induction rs generalizing h with
  | nil => exact .refl h
  | cons r rs ih => exact (h.works_log r).trans (ih _)

/-- The traffic of a socket is replaced, and what has come in stays or is taken from its front. -/
theorem works_setSocket (h : Hub) (s : SocketId) {x : Socket}
    (hinbox : x.inbox <:+ (h.socket s).inbox)
    (hreaders : ∀ u ∈ x.readers, u = t ∨ u ∈ (h.socket s).readers)
    (hothers : s? ≠ some s → x.inbox = (h.socket s).inbox ∧ x.readers = (h.socket s).readers) :
    Works t s? h (h.setSocket s x) := by
  have hsocket (s' : SocketId) : s' = s ∧ (h.setSocket s x).socket s' = x ∨
      (h.setSocket s x).socket s' = h.socket s' := by
    rw [socket_setSocket]
    split
    · exact .inl ⟨‹_›, rfl⟩
    · exact .inr rfl
  refine ⟨rfl, rfl, rfl, Nat.le_refl _, List.Subset.refl _, fun s' => ?_, fun s' => ?_, fun s' hs' => ?_,
    [], (List.append_nil _).symm, by simp⟩
  · rcases hsocket s' with ⟨rfl, hx⟩ | hx
    · rw [hx]
      exact hinbox
    · exact (congrArg Socket.inbox hx).symm ▸ List.suffix_refl _
  · rcases hsocket s' with ⟨rfl, hx⟩ | hx <;> rw [hx]
    · exact hreaders
    · exact fun _ => .inr
  · rcases hsocket s' with ⟨rfl, hx⟩ | hx <;> rw [hx]
    · exact hothers hs'
    · exact ⟨rfl, rfl⟩

/-- Only the counts of a socket are replaced. -/
theorem works_count (h : Hub) (s : SocketId) {x : Socket} (hinbox : x.inbox = (h.socket s).inbox)
    (hreaders : x.readers = (h.socket s).readers) : Works t s? h (h.setSocket s x) :=
  h.works_setSocket s (hinbox ▸ List.suffix_refl _) (fun _ hu => .inr (hreaders ▸ hu))
    fun _ => ⟨hinbox, hreaders⟩

theorem works_makeReady? (h : Hub) (u? : Option TaskId) : Works t s? h (h.makeReady? u?) := by
  cases u? with
  | none => exact .refl h
  | some u => exact .of_same rfl rfl rfl (Nat.le_refl _) (List.subset_append_left _ _) rfl rfl

theorem works_passTo (h : Hub) (next : Option TaskId × Lease) : Works t s? h (h.passTo next) := by
  have hlease : Works t s? h { h with lease := next.2 } :=
    .of_same rfl rfl rfl (Nat.le_refl _) (List.Subset.refl _) rfl rfl
  exact hlease.trans (works_makeReady? _ next.1)

theorem works_waitAt (h : Hub) (g : GateId) (u : TaskId) : Works t s? h (h.waitAt g u) :=
  .of_same rfl rfl rfl (Nat.le_refl _) (List.Subset.refl _) rfl rfl

theorem works_releaseLease (h : Hub) : Works t s? h h.releaseLease.2 := by
  by_cases hheld : h.lease.held = true
  · rw [releaseLease_of_held hheld]
    exact h.works_passTo _
  · rw [Bool.not_eq_true] at hheld
    rw [releaseLease_of_not_held hheld]
    exact .refl h

theorem works_disconnect (h : Hub) (s : SocketId) : Works t s? h (h.disconnect s) := by
  have hdropped : Works t s? h (h.record (.dropped s)) := h.works_record (Event.isOf_of_unsigned rfl rfl)
  unfold disconnect
  dsimp only
  split
  · split
    · have hgone : Works t s? (h.record (.dropped s))
          { h.record (.dropped s) with current := none } :=
        .of_same rfl rfl rfl (Nat.le_refl _) (List.Subset.refl _) rfl rfl
      exact (hdropped.trans hgone).trans (works_log _ _)
    · exact hdropped
  · exact hdropped

theorem works_establish (h : Hub) (loop : LoopState) (s : SocketId) (client : Option String) :
    Works t s? h (h.establish loop s client) := by
  have hcurrent : Works t s? h
      { h.readClock.2 with current := some ⟨s, client, h.readClock.1⟩, loop } :=
    .of_same rfl rfl rfl (Nat.le_succ _) (List.Subset.refl _) rfl rfl
  exact (hcurrent.trans (works_record _ (Event.isOf_of_unsigned rfl rfl))).trans (works_log _ _)

theorem works_connectOn (h : Hub) (loop : LoopState) (s : SocketId) (client : Option String) :
    Works t s? h (h.connectOn loop s client).2 := by
  unfold connectOn
  split
  · exact h.works_record (Event.isOf_of_unsigned rfl rfl)
  · have haccepted : Works t s? h
        (h.setSocket s { h.socket s with accepted := (h.socket s).accepted + 1 }) :=
      h.works_count s rfl rfl
    dsimp only
    split
    · split
      · exact (haccepted.trans (works_log _ _)).trans (works_establish _ loop s client)
      · exact haccepted.trans (works_establish _ loop s client)
    · exact haccepted.trans (works_establish _ loop s client)

theorem works_beginSend (h : Hub) (s : SocketId) : Works t s? h (h.beginSend s).2 :=
  h.works_count s rfl rfl

theorem works_deliver (h : Hub) (leased : Bool) (s : SocketId) (f : Frame) :
    Works t s? h (h.deliver t leased s f).2 := by
  unfold deliver
  dsimp only
  split
  · exact h.works_record (Event.isOf_of_signer rfl rfl)
  · have hcounted : Works t s? h
        (h.setSocket s { h.socket s with delivered := (h.socket s).delivered + 1 }) :=
      h.works_count s rfl rfl
    exact hcounted.trans (works_record _ (Event.isOf_of_signer rfl rfl))

theorem works_deliverHandedOut (h : Hub) (leased : Bool) (s : SocketId) (f : Frame) :
    Works t s? h (h.deliverHandedOut t leased s f).2 := by
  have hdeliver : Works t s? h (h.deliver t leased s f).2 := h.works_deliver leased s f
  unfold deliverHandedOut
  split
  · rename_i heq
    exact hdeliver.of_eq heq
  · rename_i heq
    exact ((hdeliver.of_eq heq).trans (works_log _ _)).trans (works_disconnect _ s)

theorem works_askGate (h : Hub) (u : TaskId) (r : StreamGate.Request) :
    Works t s? h (h.askGate u r).2 := by
  have hasked : Works t s? h
      { h with streamGates := (u, ((h.streamGate u).ask r).2) :: h.streamGates.filter (·.1 ≠ u) } :=
    .of_same rfl rfl rfl (Nat.le_refl _) (List.Subset.refl _) rfl rfl
  exact hasked.trans (works_record _ (Event.isOf_of_unsigned rfl rfl))

theorem works_validate (h : Hub) (g : Group) : Works t s? h (h.validate g).2 := by
  unfold validate
  dsimp only
  split <;> exact h.works_logAll _

theorem works_inspect (h : Hub) (g : Group) (q : Inspection) : Works t s? h (h.inspect g q).2 := by
  unfold inspect
  split
  · exact h.works_validate g
  · split <;> exact .refl h

theorem works_replyFrame (h : Hub) (text : String) : Works t s? h (h.replyFrame text).2 := by
  unfold replyFrame
  split
  · exact .refl h
  · dsimp only
    split
    · exact .of_same rfl rfl rfl (Nat.le_succ _) (List.Subset.refl _) rfl rfl
    · exact .refl h

/-! ## Under the lease -/

theorem works_leave (h : Hub) (outcome : Except Fault TaskResult) :
    Works t s? h (h.leave outcome).2 := by
  unfold leave
  split <;> rename_i heq <;> exact h.works_releaseLease.of_eq heq

theorem works_finish (h : Hub) (holder : Holder) : Works t s? h (h.finish holder).2 := by
  unfold finish
  split
  · rename_i heq _
    exact (h.works_releaseLease.of_eq heq).trans (works_log _ _)
  · rename_i heq _
    exact h.works_releaseLease.of_eq heq
  · rename_i heq
    exact h.works_releaseLease.of_eq heq

theorem works_runScript (h : Hub) (holder : Holder) (rest : List Action) :
    Works t s? h (h.runScript t holder rest).2 := by
  induction rest generalizing h with
  | nil =>
    rw [runScript]
    exact h.works_finish holder
  | cons action rest ih =>
    cases action with
    | send f =>
      rw [runScript]
      split
      · rename_i heq
        exact ((h.works_beginSend holder.socket).of_eq heq).trans (works_waitAt _ _ t)
      · rename_i h' heq
        refine ((h.works_beginSend holder.socket).of_eq heq).trans ?_
        split
        · rename_i heq'
          exact ((h'.works_deliverHandedOut true holder.socket f).of_eq heq').trans (ih _)
        · rename_i heq'
          exact ((h'.works_deliverHandedOut true holder.socket f).of_eq heq').trans (works_leave _ _)
    | await g =>
      rw [runScript]
      split
      · exact ih h
      · exact h.works_waitAt g t
    | log r =>
      rw [runScript]
      exact (h.works_log r).trans (ih _)
    | fail fault =>
      rw [runScript]
      exact h.works_leave _

theorem works_resumeSend (h : Hub) (holder : Holder) (f : Frame) (rest : List Action) :
    Works t s? h (h.resumeSend t holder f rest).2 := by
  have hdeliver : Works t s? h (h.deliverHandedOut t true holder.socket f).2 :=
    h.works_deliverHandedOut true holder.socket f
  unfold resumeSend
  split
  · rename_i heq
    exact (hdeliver.of_eq heq).trans (works_runScript _ holder rest)
  · rename_i heq
    exact (hdeliver.of_eq heq).trans (works_leave _ _)

theorem works_withoutSession (h : Hub) (purpose : Purpose) :
    Works t s? h (h.withoutSession purpose).2 := by
  cases purpose with
  | plot g gated => exact h.works_log _
  | keep | block => exact .refl h

theorem works_begin (h : Hub) (holder : Holder) : Works t s? h (h.begin t holder).2 := by
  unfold begin
  split
  · exact .of_same rfl rfl rfl (Nat.le_refl _) (List.Subset.refl _) rfl rfl
  · exact h.works_runScript holder _
  · split
    · have hasked : Works t s? h (h.askGate t .start).2 := h.works_askGate t .start
      split
      · rename_i heq
        exact (hasked.of_eq heq).trans (works_runScript _ holder _)
      · rename_i heq
        exact (hasked.of_eq heq).trans (works_leave _ _)
    · exact h.works_runScript holder _

theorem works_afterGrant (h : Hub) (purpose : Purpose) : Works t s? h (h.afterGrant t purpose).2 := by
  have hgranted : Works t s? h (h.record (h.granted t)) :=
    h.works_record (Event.isOf_of_signer rfl rfl)
  refine hgranted.trans ?_
  unfold afterGrant
  dsimp only
  split
  · exact works_begin _ _
  · split
    · rename_i heq
      exact ((works_releaseLease _).of_eq heq).trans (works_withoutSession _ purpose)
    · rename_i heq
      exact (works_releaseLease _).of_eq heq

theorem works_setLease (h : Hub) (lease : Lease) : Works t s? h { h with lease } :=
  .of_same rfl rfl rfl (Nat.le_refl _) (List.Subset.refl _) rfl rfl

theorem works_requestLease (h : Hub) (purpose : Purpose) :
    Works t s? h (h.requestLease t purpose).2 := by
  have hasked : Works t s? h (h.record (.asked t)) :=
    h.works_record (Event.isOf_of_signer rfl rfl)
  refine hasked.trans ?_
  unfold requestLease
  dsimp only
  split
  · exact (works_setLease _ _).trans (works_afterGrant _ purpose)
  · exact works_setLease _ _

/-! ## Plotting procedures -/

theorem works_runBuild (h : Hub) (call : PlotCall) (g : Group) (rest : List BuildStep) :
    Works t s? h (h.runBuild t call g rest).2 := by
  induction rest generalizing h g with
  | nil =>
    rw [runBuild]
    split
    · rename_i heq
      exact ((h.works_validate g).of_eq heq).trans (works_requestLease _ _)
    · rename_i heq
      exact (h.works_validate g).of_eq heq
  | cons step rest ih =>
    cases step with
    | call b =>
      rw [runBuild]
      split
      · exact ih h _
      · exact .refl h
    | inspect q =>
      rw [runBuild]
      split
      · rename_i heq
        exact ((h.works_inspect g q).of_eq heq).trans (ih _ g)
      · rename_i heq
        exact (h.works_inspect g q).of_eq heq
    | fail fault =>
      rw [runBuild]
      exact .refl h
    | noteLeased =>
      rw [runBuild]
      exact (h.works_record (Event.isOf_of_unsigned rfl rfl)).trans (ih _ g)
    | await gate =>
      rw [runBuild]
      split
      · exact ih h g
      · exact h.works_waitAt gate t
    | connect s client =>
      rw [runBuild]
      split
      · rename_i heq
        exact ((h.works_connectOn .running s client).of_eq heq).trans (ih _ g)
      · rename_i heq
        exact (h.works_connectOn .running s client).of_eq heq
    | disconnect s =>
      rw [runBuild]
      exact (h.works_disconnect s).trans (ih _ g)

theorem works_startPlot (h : Hub) (call : PlotCall) : Works t s? h (h.startPlot t call).2 := by
  have hbegan : Works t s? h (h.record (.began t (h.current.map (·.socket)))) :=
    h.works_record (Event.isOf_of_signer rfl rfl)
  refine hbegan.trans ?_
  unfold startPlot
  dsimp only
  split
  · exact (works_record _ (Event.isOf_of_signer rfl rfl)).trans (works_runBuild _ call _ _)
  · exact works_log _ _

/-! ## Endpoints -/

theorem works_setInbox (h : Hub) (s : SocketId) {rest : List Incoming}
    (hrest : rest <:+ (h.socket s).inbox) : Works t (some s) h (h.setInbox s rest) :=
  h.works_setSocket s hrest (fun _ => .inr) fun hs => absurd rfl hs

theorem works_awaitIncoming (h : Hub) (s : SocketId) :
    Works t (some s) h (h.awaitIncoming t s).2 :=
  h.works_setSocket s (List.suffix_refl _)
    (fun _ hu => (List.mem_append.mp hu).elim .inr fun hu => .inl (List.mem_singleton.mp hu))
    fun hs => absurd rfl hs

/-- A reader that is cancelled leaves the readers of its socket, or passes on what has come in. -/
theorem works_abandonInbox (h : Hub) (s : SocketId) : Works t (some s) h (h.abandonInbox t s) := by
  unfold abandonInbox
  dsimp only
  split
  · exact h.works_setSocket s (List.suffix_refl _) (fun _ hu => .inr (List.mem_filter.mp hu).1)
      fun hs => absurd rfl hs
  · split
    · rename_i r rest _ hreaders
      have hleft : Works t (some s) h (h.setSocket s { h.socket s with readers := rest }) :=
        h.works_setSocket s (List.suffix_refl _)
          (fun _ hu => .inr (hreaders ▸ List.mem_cons_of_mem _ hu)) fun hs => absurd rfl hs
      exact hleft.trans (works_makeReady? _ (some r))
    · exact .refl h

/-- A reader that is cancelled takes nothing, and nothing happens. -/
theorem abandonInbox_keeps (h : Hub) (u : TaskId) (s : SocketId) :
    ((h.abandonInbox u s).socket s).inbox = (h.socket s).inbox ∧
      (h.abandonInbox u s).events = h.events := by
  have hreaders (readers : List TaskId) :
      ((h.setSocket s { h.socket s with readers }).socket s).inbox = (h.socket s).inbox := by
    rw [socket_setSocket, if_pos rfl]
  unfold abandonInbox
  dsimp only
  split
  · exact ⟨hreaders _, rfl⟩
  · split
    · exact ⟨hreaders _, rfl⟩
    · exact ⟨rfl, rfl⟩

theorem works_abandonLease (h : Hub) (u : TaskId) : Works t s? h (h.abandonLease u) :=
  h.works_passTo _

theorem works_failEndpoint (h : Hub) (s : SocketId) (fault : Fault) :
    Works t s? h (h.failEndpoint s fault).2 :=
  (h.works_log _).trans (works_disconnect _ s)

theorem inbox_setInbox (h : Hub) (s : SocketId) (rest : List Incoming) :
    ((h.setInbox s rest).socket s).inbox = rest := by
  rw [setInbox, socket_setSocket, if_pos rfl]

/-! ## Sends over kept connections, and answers -/

theorem works_endWith {out : Except Fault Unit × Hub} (e : Works t s? h out.2) :
    Works t s? h (endWith out).2 := by
  obtain ⟨answer, h'⟩ := out
  cases answer <;> exact e

theorem works_startSend (h : Hub) (connection : String) (f : Frame) :
    Works t s? h (h.startSend t connection f).2 := by
  unfold startSend
  split
  · exact .refl h
  · rename_i s _
    split
    · rename_i heq
      exact ((h.works_beginSend s).of_eq heq).trans (works_waitAt _ _ t)
    · rename_i heq
      refine ((h.works_beginSend s).of_eq heq).trans ?_
      exact works_endWith (works_deliverHandedOut _ false s f)

theorem works_handle (h : Hub) (text : String) : Works t s? h (h.handle text).2 := by
  unfold handle
  split <;> rename_i heq <;> exact (h.works_replyFrame text).of_eq heq

end Hub

end PlotStream
