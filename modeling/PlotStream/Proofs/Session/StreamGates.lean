import PlotStream.Proofs.Session.Congruence
import PlotStream.Proofs.Session.LeaseAccount

/-!
# Stream gates and streaming calls

Whoever runs out of patience with a streaming call asks its stream gate, and the call itself asks the
gate where it begins to stream. The gate answers true to one of them only, and a call it has told that
it comes too late sends nothing. A call that has begun to stream is left alone: it goes on as in the
run in which nobody lost patience (`Alike.unasked`).

A run asks gates between ticks. A tick reads a gate in one place only, where the call begins to stream,
so that a question asked while a tick runs is answered as one asked before this tick or after it.
-/

namespace PlotStream

/-! ## What gates have answered -/

namespace StreamGate

/-- The state of a gate that has said yes to a request. -/
def Request.settled : Request → StreamGate
  | .start => started
  | .cancel => cancelled

/-- A request settles a gate by the answer true, and only so. -/
theorem ask_settled (g : StreamGate) (q q' : Request) :
    (g.ask q).2 = q'.settled ↔ (q' = q ∧ (g.ask q).1 = true) ∨ g = q'.settled := by
  cases g <;> cases q <;> cases q' <;> decide

theorem eq_started_of_not_cancelled {g : StreamGate} (h : (g.ask .cancel).1 = false) :
    g = .started := by
  cases g <;> first | rfl | cases h

end StreamGate

namespace Memory

variable {m : Memory}

theorem gate_ask (m : Memory) (t u : TaskId) (q : StreamGate.Request) :
    (m.ask t q).2.gate u = if u = t then ((m.gate t).ask q).2 else m.gate u := by
  rw [gate, gates_ask, List.lookup_cons]
  by_cases hu : u = t
  · subst hu
    simp
  · have hother : (u == t) = false := by simpa using hu
    rw [if_neg hu, hother]
    exact congrArg (·.getD StreamGate.fresh) (Hub.lookup_filter_ne _ hu)

/-- Gates stand as they have answered: a gate is settled by the request to which it has said yes, and
none refuses to cancel a call before it has let it stream. -/
structure Honest (m : Memory) : Prop where
  settled : ∀ t q, .gateAnswered t q true ∈ m.history ↔ m.gate t = q.settled
  refused : ∀ t later earlier, m.history = later ++ .gateAnswered t .cancel false :: earlier →
    .gateAnswered t .start true ∈ earlier

theorem honest_record {e : Event} (he : e.isNoAnswer) (hm : m.Honest) : (m.record e).Honest where
  settled t q := by
    rw [record, List.mem_cons]
    constructor
    · rintro (rfl | h)
      · cases he
      · exact (hm.settled t q).mp h
    · exact fun h => .inr ((hm.settled t q).mpr h)
  refused t later earlier h := by
    cases later with
    | nil =>
      obtain ⟨rfl, -⟩ := List.cons.inj h
      cases he
    | cons _ later => exact hm.refused t later earlier (List.cons.inj h).2

theorem honest_ask (t : TaskId) (q : StreamGate.Request) (hm : m.Honest) : (m.ask t q).2.Honest where
  settled u q' := by
    rw [gate_ask, history_ask, List.mem_cons, hm.settled]
    by_cases hu : u = t
    · subst hu
      rw [if_pos rfl, StreamGate.ask_settled, Event.gateAnswered.injEq, eq_comm (a := true)]
      simp
    · simp [hu]
  refused u later earlier h := by
    cases later with
    | nil =>
      obtain ⟨hanswer, rfl⟩ := List.cons.inj h
      injection hanswer with ht hq hb
      subst ht hq
      exact (hm.settled t .start).mpr (StreamGate.eq_started_of_not_cancelled hb)
    | cons _ later => exact hm.refused u later earlier (List.cons.inj h).2

end Memory

/-- In every run, gates stand as they have answered. -/
theorem Hub.honest_run (w : World) (moves : List Move) : ((initial w).run moves).memory.Honest := by
  refine memory_run (fun _ _ => Memory.honest_record) (fun _ t q => Memory.honest_ask t q) ?_ moves
  constructor
  · rintro t (- | -) <;> simp [memory, initial, Memory.gate, StreamGate.Request.settled]
  · intro t later earlier h
    simp [memory, initial] at h

/-! ## Runs without questions -/

/-- An answer to the question whether a call can still be cancelled. -/
def Event.answersCancel (t : TaskId) : Event → Bool
  | .gateAnswered u .cancel _ => u = t
  | _ => false

/-- What has happened, but for the answers whether a call can still be cancelled. -/
def unanswered (t : TaskId) (es : List Event) : List Event :=
  es.filter (!·.answersCancel t)

/-- What is left of a move that asks no gate whether its call can still be cancelled. -/
def Move.unasked : Move → List Move
  | .start s => [.start { s with refused := false }]
  | .cancelGate _ => []
  | m => [m]

/-- A run without the questions whether a call can still be cancelled. -/
def Hub.unasked (h : Hub) (t : TaskId) : List Move → List Move
  | [] => []
  | m :: moves =>
    (if h.asked? m = some t then m.unasked else [m]) ++ (h.move m).unasked t moves

/-- Two memories differ only in the answers whether a call can still be cancelled, which the second has
not given. -/
structure Memory.Unasked (t : TaskId) (m m' : Memory) : Prop where
  gates : ∀ u, m'.gate u = m.gate u
  history : m'.history = unanswered t m.history

theorem unanswered_cons {t : TaskId} {e : Event} (he : e.answersCancel t = false) (es : List Event) :
    unanswered t (e :: es) = e :: unanswered t es :=
  List.filter_cons_of_pos (by simp [he])

theorem Memory.lasting_unasked (t : TaskId) : Lasting (· ≠ t) (Memory.Unasked t) where
  record := by
    intro m m' e he h
    refine ⟨h.gates, ?_⟩
    rw [record, record, h.history, unanswered_cons]
    cases e <;> first | rfl | cases he
  ask := by
    intro m m' u q hq h
    have hgate := h.gates u
    refine ⟨congrArg (fun g => (g.ask q).1) hgate, fun v => ?_, ?_⟩
    · rw [gate_ask, gate_ask, hgate, h.gates v]
    · rw [history_ask, history_ask, hgate, h.history, unanswered_cons]
      cases q with
      | start => rfl
      | cancel => simpa [Event.answersCancel] using hq rfl

namespace Alike

variable {t : TaskId} {a b : Hub}

/-- A question that a gate that is started is asked changes nothing. -/
theorem asked (h : Alike (Memory.Unasked t) a b) (hgate : a.memory.gate t = .started) :
    Alike (Memory.Unasked t) (a.askGate t .cancel).2 b := by
  obtain ⟨m, rfl, hm⟩ := h
  refine ⟨m, rfl, fun u => ?_, ?_⟩
  · rw [Hub.memory_askGate, Memory.gate_ask, hm.gates u]
    split
    · rename_i hu
      rw [hu, hgate]
      rfl
    · rfl
  · rw [Hub.memory_askGate, Memory.history_ask, hm.history, unanswered, unanswered,
      List.filter_cons_of_neg (by simp [Event.answersCancel])]

/-- A gate that does not let its call be cancelled is started. -/
theorem gate_of_never {moves : List Move}
    (hnever : .gateAnswered t .cancel true ∉ ((a.askGate t .cancel).2.run moves).history) :
    a.memory.gate t = .started := by
  refine StreamGate.eq_started_of_not_cancelled (Bool.eq_false_iff.mpr fun hanswer => hnever ?_)
  refine Hub.mem_history_run ?_ moves
  rw [← hanswer]
  exact List.mem_cons_self ..

/-- As long as no question whether a call can still be cancelled is answered with true, the run goes as
it does without these questions. -/
theorem unasked (h : Alike (Memory.Unasked t) a b) {moves : List Move}
    (hnever : .gateAnswered t .cancel true ∉ (a.run moves).history) :
    Alike (Memory.Unasked t) (a.run moves) (b.run (a.unasked t moves)) := by
  have hlasts := Memory.lasting_unasked t
  induction moves generalizing a b with
  | nil => exact h
  | cons m moves ih =>
    have hrun : a.run (m :: moves) = (a.move m).run moves := rfl
    rw [hrun] at hnever ⊢
    rw [Hub.unasked]
    by_cases hm : a.asked? m = some t
    · rw [if_pos hm]
      cases m with
      | start s =>
        obtain ⟨hrefused, rfl⟩ : s.refused = true ∧ a.nextTask = t := by simpa [Hub.asked?] using hm
        have hstarted := h.start hlasts { s with refused := false } nofun
        have hmove : a.move (.start s) =
            ((a.start { s with refused := false }).askGate a.nextTask .cancel).2 := by
          simp [Hub.move, Hub.start, hrefused]
        rw [hmove] at hnever ⊢
        exact ih (hstarted.asked (gate_of_never hnever)) hnever
      | cancelGate u =>
        obtain rfl : u = t := Option.some.inj hm
        exact ih (h.asked (gate_of_never hnever)) hnever
      | _ => cases hm
    · rw [if_neg hm]
      exact ih (h.move hlasts m fun u hu ht => hm (ht ▸ hu)) hnever

end Alike

theorem own_unanswered (t u : TaskId) (es : List Event) :
    own u (unanswered t es) = unanswered t (own u es) := by
  refine ownFrom_filter (fun e he => ?_) u none es
  cases e <;> first | rfl | simp [Event.answersCancel] at he

theorem deliveries_unanswered (t : TaskId) (es : List Event) :
    deliveries (unanswered t es) = deliveries es := by
  unfold unanswered deliveries
  rw [List.filterMap_filter]
  refine List.filterMap_congr fun e _ => ?_
  cases e with
  | gateAnswered u q b => split <;> rfl
  | _ => rfl

/-! ## Before a call begins to stream -/

/-- A task that runs has not begun to send under the lease. -/
def Stage.Unbegun : Stage → Prop
  | .script _ _ | .send _ _ _ | .finish _ => False
  | .leave outcome | .halt (.done outcome) => outcome ≠ .ok (.truth true)
  | .halt (.gate _ p) => p.holds = false
  | _ => True

/-- A task has not begun to send under the lease. -/
def Whereabouts.Unbegun : Whereabouts → Prop
  | .waits p => p.holds = false
  | .runs stage => stage.Unbegun
  | .finished outcome => outcome ≠ .ok (.truth true)

theorem Purpose.unbegun_stage (purpose : Purpose) (c : Option Connection) :
    (purpose.stage c).Unbegun := by
  cases c <;> exact trivial

section Unbegun

variable {w : World} {t : TaskId} {name : String} {call : PlotCall} {c : Option Connection}
  {stage stage' : Stage} {es es' : List Event} {place : Whereabouts}

/-- A streaming call with a gate begins to send only when the gate lets it. -/
theorem Stage.Acts.unbegun (hact : stage.Acts w t c es' stage') (hgated : call.gated = true)
    (hplots : stage.Plots w call t es) (h : stage.Unbegun) :
    .gateAnswered t .start true ∈ es' ∨ deliveries es' = [] ∧ stage'.Unbegun := by
  have hsent : deliveries es' = [] := by
    rcases hact.delivers with hnone | ⟨_, _, _, rfl, -⟩ | ⟨_, _, rfl | rfl, -⟩
    · exact hnone
    · exact h.elim
    · exact hplots.elim
    · exact hplots.elim
  cases hact with
  | streamGated => exact .inl (List.mem_singleton_self _)
  | stream =>
    obtain ⟨⟨g, hpurpose, -⟩, -⟩ := hplots
    injection hpurpose with _ hungated
    rw [hgated] at hungated
    cases hungated
  | block =>
    obtain ⟨⟨g, hpurpose, -⟩, -⟩ := hplots
    cases hpurpose
  | handle => cases hplots.1
  | take => exact .inr ⟨hsent, Purpose.unbegun_stage _ c⟩
  | refused purpose =>
    refine .inr ⟨hsent, ?_⟩
    cases purpose <;> simp [Purpose.refusal, Stage.Unbegun]
  | leave => exact .inr ⟨hsent, h⟩
  | scriptEnds | scriptSendWaits | scriptSend | scriptWaits | scriptPasses | scriptLogs | scriptFails
  | sent | sendFails | finish => exact h.elim
  | sendWaits | buildWaits | replyWaits => exact .inr ⟨hsent, rfl⟩
  | acquire | lease | send | plot | endpoint | buildStep | built | queue | awaitIncoming | reply
  | answered => exact .inr ⟨hsent, trivial⟩
  | _ =>
    refine .inr ⟨hsent, fun htrue => ?_⟩
    cases htrue

theorem no_deliveries_append (h : deliveries es = []) (h' : deliveries es' = []) :
    deliveries (es ++ es') = [] := by
  rw [deliveries_append, h, h', List.append_nil]

theorem Traced.unbegun (h : Traced w t name (.plot call) es place) (hgated : call.gated = true) :
    .gateAnswered t .start true ∈ es ∨ deliveries es = [] ∧ place.Unbegun := by
  induction h with
  | start => exact .inr ⟨rfl, rfl⟩
  | @resume es p c h hqueued ih =>
    refine ih.imp (List.mem_append_left _) fun ⟨hsent, hplace⟩ => ⟨no_deliveries_append hsent rfl, ?_⟩
    cases p with
    | queued => cases hqueued
    | pausing | sending => cases hplace
    | _ => exact trivial
  | @grant es purpose c h ih =>
    exact ih.imp (List.mem_append_left _) fun ⟨hsent, _⟩ =>
      ⟨no_deliveries_append hsent rfl, Purpose.unbegun_stage purpose c⟩
  | @giveUp es p h ih =>
    refine ih.imp (List.mem_append_left _) fun ⟨hsent, hplace⟩ => ⟨no_deliveries_append hsent rfl, ?_⟩
    have hfree : ¬ p.holds = true := Bool.eq_false_iff.mp hplace
    rw [Point.cancelledStage, if_neg hfree]
    exact nofun
  | act h hact ih =>
    rcases ih with hstarted | ⟨hsent, hplace⟩
    · exact .inl (List.mem_append_left _ hstarted)
    · refine (hact.unbegun hgated h.plots hplace).imp (List.mem_append_right _) ?_
      rintro ⟨hsent', hplace'⟩
      exact ⟨no_deliveries_append hsent hsent', hplace'⟩
  | @wait es how p h hpoint ih =>
    refine ih.imp (List.mem_append_left _) fun ⟨hsent, hplace⟩ => ⟨no_deliveries_append hsent rfl, ?_⟩
    cases how <;> cases hpoint <;> first | exact hplace | rfl
  | ends h ih =>
    exact ih.imp (List.mem_append_left _) fun ⟨hsent, hplace⟩ => ⟨no_deliveries_append hsent rfl, hplace⟩

end Unbegun

/-! ## Whoever asks first -/

section Asked

variable {w : World} {moves : List Move} {t : TaskId} {name : String} {call : PlotCall}

/-- No gate lets its call both stream and be cancelled. -/
theorem Hub.start_or_cancel (w : World) (moves : List Move) (t : TaskId) :
    ¬ (.gateAnswered t .start true ∈ ((initial w).run moves).events ∧
      .gateAnswered t .cancel true ∈ ((initial w).run moves).events) := by
  rintro ⟨hstarted, hcancelled⟩
  have honest := honest_run w moves
  have hone := (honest.settled t .start).mp (List.mem_reverse.mp hstarted)
  have hother := (honest.settled t .cancel).mp (List.mem_reverse.mp hcancelled)
  rw [hone] at hother
  cases hother

/-- A gate refuses to cancel a call only after it has let it stream. -/
theorem Hub.started_before {before after : List Event}
    (hsplit : ((initial w).run moves).events = before ++ .gateAnswered t .cancel false :: after) :
    .gateAnswered t .start true ∈ before := by
  have hhistory : ((initial w).run moves).history =
      after.reverse ++ .gateAnswered t .cancel false :: before.reverse := by
    rw [← List.reverse_reverse ((initial w).run moves).history, ← Hub.events, hsplit]
    simp
  exact List.mem_reverse.mp ((honest_run w moves).refused t _ _ hhistory)

/-- A call whose gate has not let it stream has sent nothing, does not come to true and does not hold
the lease. -/
theorem Hub.nothing_sent (hfair : (initial w).Fair moves)
    (hstarted : .started t name (.plot call) ∈ ((initial w).run moves).events)
    (hgated : call.gated = true)
    (hnever : .gateAnswered t .start true ∉ ((initial w).run moves).events) :
    deliveries (own t ((initial w).run moves).events) = [] ∧
      (∀ name', .ended t name' (.ok (.truth true)) ∉ ((initial w).run moves).events) ∧
      t ∉ (initial w).holders moves := by
  have hreach := run_reachable hfair
  have traced := hreach.traced
  have hunbegun {name' : String} {place : Whereabouts}
      (hhas : (((initial w).run moves).scene none).Has t name' place) :
      deliveries (own t ((initial w).run moves).events) = [] ∧ place.Unbegun := by
    obtain ⟨job, hjob, htraced⟩ := traced.traced _ _ _ hhas
    obtain ⟨-, rfl⟩ := traced.once _ _ _ _ _ hjob hstarted
    refine (htraced.unbegun hgated).resolve_left fun hown => hnever ?_
    exact (ownFrom_sublist t none _).subset hown
  refine ⟨?_, fun name' hended => ?_, fun hmem => ?_⟩
  · obtain ⟨name', place, hhas⟩ := hreach.somewhere (traced.started _ _ _ hstarted)
    exact (hunbegun hhas).1
  · exact (hunbegun (.finished hended)).2 rfl
  · rcases of_mem_holders hmem with ⟨task, htask, rfl, hholds⟩ | ⟨name', s, hkept⟩
    · have hfree : task.point.holds = false := (hunbegun (.waits htask)).2
      rw [hfree] at hholds
      cases hholds
    · obtain ⟨job, hjob, htraced⟩ := traced.traced _ _ _ (.finished hkept)
      obtain ⟨-, rfl⟩ := traced.once _ _ _ _ _ hjob hstarted
      cases htraced.maySend.1 s rfl

/-- A run in which a gate never lets its call be cancelled goes as it does without the question. -/
theorem Hub.events_unasked
    (hnever : .gateAnswered t .cancel true ∉ ((initial w).run moves).events) :
    ((initial w).run ((initial w).unasked t moves)).events =
      unanswered t ((initial w).run moves).events := by
  have hstart : Alike (Memory.Unasked t) (initial w) (initial w) :=
    ⟨(initial w).memory, rfl, fun _ => rfl, rfl⟩
  obtain ⟨m, hrun, hm⟩ := hstart.unasked fun h => hnever (List.mem_reverse.mpr h)
  have hhistory : ((initial w).run ((initial w).unasked t moves)).history =
      unanswered t ((initial w).run moves).history := by
    rw [hrun]
    exact hm.history
  rw [events, events, hhistory, unanswered, unanswered, List.filter_reverse]

end Asked

/-- A timeout never truncates a stream. In every run, no gate answers true both to the call that wants to
stream and to someone who wants to cancel the call. Of a streaming call with a gate:

- If its gate has ever let it be cancelled, the call has sent nothing, whether or not its task has been
  cancelled, it does not come to true, and it does not hold the lease.
- If its gate has ever refused to cancel it, the gate has let it stream before and refuses from then on.
  What happens is what happens in the run without these questions, apart from the answers to them, so
  that the call sends the same frames and comes to the same end. -/
theorem stream_never_truncated {world : World} {moves : List Move}
    (hfair : (Hub.initial world).Fair moves) :
    let es := ((Hub.initial world).run moves).events
    (∀ t, ¬ (.gateAnswered t .start true ∈ es ∧ .gateAnswered t .cancel true ∈ es)) ∧
    ∀ t name call, .started t name (.plot call) ∈ es → call.gated = true →
      (.gateAnswered t .cancel true ∈ es →
        deliveries (own t es) = [] ∧ (∀ name', .ended t name' (.ok (.truth true)) ∉ es) ∧
          t ∉ (Hub.initial world).holders moves) ∧
      ∀ before after, es = before ++ .gateAnswered t .cancel false :: after →
        .gateAnswered t .start true ∈ before ∧ .gateAnswered t .cancel true ∉ after ∧
        let es' := ((Hub.initial world).run ((Hub.initial world).unasked t moves)).events
        es' = unanswered t es ∧ deliveries (own t es') = deliveries (own t es) ∧
        ∀ name' outcome, .ended t name' outcome ∈ es' ↔ .ended t name' outcome ∈ es := by
  intro es
  have hone := Hub.start_or_cancel world moves
  refine ⟨hone, fun t name call hstarted hgated => ⟨fun hcancelled => ?_, ?_⟩⟩
  · exact Hub.nothing_sent hfair hstarted hgated fun h => hone t ⟨h, hcancelled⟩
  intro before after hsplit
  have hlet : .gateAnswered t .start true ∈ before := Hub.started_before hsplit
  have hinside {e : Event} (he : e ∈ before ∨ e ∈ after) : e ∈ es := by
    rw [hsplit]
    rcases he with he | he <;> simp [he]
  have hnever : .gateAnswered t .cancel true ∉ es := fun h => hone t ⟨hinside (.inl hlet), h⟩
  have hsame := Hub.events_unasked hnever
  refine ⟨hlet, fun h => hnever (hinside (.inr h)), hsame, ?_, fun name' outcome => ?_⟩
  · rw [hsame, own_unanswered, deliveries_unanswered]
  · rw [hsame, unanswered, List.mem_filter]
    exact and_iff_left rfl

/-- A call that shows one window with one column, with a stream gate. -/
def PlotCall.guarded : PlotCall :=
  { PlotCall.small with gated := true }

def PlotCall.isGuarded (call : PlotCall) : Bool :=
  call.gated && { call with gated := false }.isSmall

theorem PlotCall.eq_guarded {call : PlotCall} (h : call.isGuarded = true) : call = .guarded := by
  obtain ⟨hgated, hsmall⟩ := Bool.and_eq_true_iff.mp h
  obtain ⟨groupId, build, gated⟩ := call
  obtain rfl : gated = true := hgated
  exact congrArg (fun call : PlotCall => { call with gated := true }) (PlotCall.eq_small hsmall)

/-- Patience runs out with a call that waits in a send and with one that waits for the lease. Neither
task is cancelled. -/
def impatientPlots : List Move :=
  [.start ⟨"browser", .connect "s" none, false⟩, .tick, .start ⟨"p", .plot .guarded, false⟩, .tick,
    .start ⟨"q", .plot .guarded, false⟩, .tick, .cancelGate 1, .cancelGate 2, .openGate "g", .tick,
    .tick]

theorem impatientPlots_started {t : TaskId} {name : String}
    (ht : (t, name) = (1, "p") ∨ (t, name) = (2, "q")) :
    .started t name (.plot .guarded) ∈
      ((Hub.initial World.stalling).run impatientPlots).events := by
  refine mem_of_any_startsPlot (fun _ => PlotCall.eq_guarded) ?_
  rcases ht with ht | ht <;> cases ht <;> decide +kernel

theorem impatientPlots_answered {t : TaskId} {answer : Bool}
    (ht : (t, answer) = (1, false) ∨ (t, answer) = (2, true)) :
    .gateAnswered t .cancel answer ∈
      ((Hub.initial World.stalling).run impatientPlots).events := by
  have hany : ((Hub.initial World.stalling).run impatientPlots).events.any (fun
      | .gateAnswered t' .cancel answer' => (t', answer') = (t, answer)
      | _ => false) = true := by
    rcases ht with ht | ht <;> cases ht <;> decide +kernel
  obtain ⟨e, he, hmatch⟩ := List.any_eq_true.mp hany
  split at hmatch
  · simp only [decide_eq_true_eq, Prod.mk.injEq] at hmatch
    obtain ⟨rfl, rfl⟩ := hmatch
    exact he
  · cases hmatch

theorem stream_never_truncated_impatient :
    ∃ before after,
      ((Hub.initial World.stalling).Fair impatientPlots ∧
        .started 1 "p" (.plot .guarded) ∈
          ((Hub.initial World.stalling).run impatientPlots).events ∧
        .started 2 "q" (.plot .guarded) ∈
          ((Hub.initial World.stalling).run impatientPlots).events ∧
        PlotCall.guarded.gated = true ∧
        .gateAnswered 2 .cancel true ∈
          ((Hub.initial World.stalling).run impatientPlots).events ∧
        ((Hub.initial World.stalling).run impatientPlots).events =
          before ++ .gateAnswered 1 .cancel false :: after) ∧
      (deliveries (own 2 ((Hub.initial World.stalling).run impatientPlots).events) = [] ∧
        2 ∉ (Hub.initial World.stalling).holders impatientPlots) ∧
      .gateAnswered 1 .start true ∈ before ∧
      ((Hub.initial World.stalling).run
        ((Hub.initial World.stalling).unasked 1 impatientPlots)).events =
          unanswered 1 ((Hub.initial World.stalling).run impatientPlots).events ∧
      (deliveries (own 1 ((Hub.initial World.stalling).run impatientPlots).events)).length = 3 := by
  have hfair : (Hub.initial World.stalling).Fair impatientPlots := by
    simp [impatientPlots, Hub.Fair]
  have hp := impatientPlots_started (.inl rfl)
  have hq := impatientPlots_started (.inr rfl)
  have htrue := impatientPlots_answered (.inr rfl)
  obtain ⟨before, after, hsplit⟩ := List.append_of_mem (impatientPlots_answered (.inl rfl))
  obtain ⟨-, hcalls⟩ := stream_never_truncated hfair
  obtain ⟨hnothing, -, hlease⟩ := (hcalls 2 "q" _ hq rfl).1 htrue
  obtain ⟨hlet, -, hsame, -, -⟩ := (hcalls 1 "p" _ hp rfl).2 before after hsplit
  exact ⟨before, after, ⟨hfair, hp, hq, rfl, htrue, hsplit⟩, ⟨hnothing, hlease⟩, hlet, hsame,
    by decide +kernel⟩

end PlotStream
