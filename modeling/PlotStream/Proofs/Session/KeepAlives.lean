import PlotStream.Proofs.Session.NewestConnection
import PlotStream.Proofs.Session.Turns

/-!
# Keep-alives

An endpoint answers what it receives in order of arrival, on its own socket, and does nothing else,
whatever is being streamed meanwhile and whichever connection is current (`keep_alives_answered`). What
tasks receive is not recorded by a session; it is what the inbox of the socket loses in their turns
(`Hub.receptions`), and together with what is left there it is what has come in (`Hub.inbox_run`).

`Hub.Follows` is the invariant of an endpoint along a run: it stands as `Attended` says. Turns of other
tasks and what is done from outside leave it alone. `Hub.Heeds` is the invariant that nothing is left
lying: an endpoint that has not been woken has an empty inbox.
-/

namespace PlotStream

/-- What has come in on a socket. -/
def arrivals (s : SocketId) (moves : List Move) : List Incoming :=
  moves.filterMap fun
    | .comeIn s' item => if s' = s then some item else none
    | _ => none

namespace Hub

/-- What is taken out of the inbox of a socket by a move, and by whom: in a tick, the task that is first
among those that are ready takes what the inbox loses. -/
def taken (s : SocketId) (h : Hub) : Move → List (TaskId × Incoming)
  | .tick =>
    match h.ready with
    | [] => []
    | t :: _ =>
      let inbox := (h.socket s).inbox
      (inbox.take (inbox.length - (h.tick.socket s).inbox.length)).map (t, ·)
  | _ => []

/-- What is taken out of the inbox of a socket in a run. -/
def receptions (s : SocketId) : Hub → List Move → List (TaskId × Incoming)
  | _, [] => []
  | h, m :: moves => h.taken s m ++ receptions s (h.move m) moves

/-- What a task takes out of the inbox of a socket in a run. -/
def received (t : TaskId) (s : SocketId) (h : Hub) (moves : List Move) : List Incoming :=
  ((h.receptions s moves).filter (·.1 = t)).map Prod.snd

/-- A task is somewhere: it waits at this point and no other, or has ended in this way and no other. -/
def IsAt (h : Hub) (t : TaskId) (place : Whereabouts) : Prop :=
  (∀ p, (t, p) ∈ h.places ↔ place = .waits p) ∧
    ∀ outcome, (∃ name, .ended t name outcome ∈ h.events) ↔ place = .finished outcome

variable {w : World} {h h' : Hub} {t : TaskId} {s : SocketId} {task : Task} {rest : List TaskId}

/-! ## What comes in and what is taken -/

theorem socket_of_sockets (hsockets : h'.sockets = h.sockets) (s : SocketId) :
    h'.socket s = h.socket s := by
  rw [socket, hsockets, socket]

theorem socket_turn (htick : h.tick = settleTask task (h.turn task rest)) (s : SocketId) :
    h.tick.socket s = (h.turn task rest).2.socket s := by
  obtain ⟨-, -, -, -, hsockets⟩ := settleTask_keeps task (h.turn task rest)
  exact socket_of_sockets (htick ▸ hsockets) s

/-- A tick takes items from the front of an inbox. -/
theorem inbox_tick (h : Hub) (s : SocketId) : (h.tick.socket s).inbox <:+ (h.socket s).inbox := by
  rcases h.tick_cases with ⟨task, rest, -, -, htick⟩ | ⟨-, htick⟩
  · rw [socket_turn htick]
    exact (h.works_turn task rest).inbox s
  · rw [htick]
    exact List.suffix_refl _

/-- Sockets are left alone but for ticks and what comes in. -/
theorem socket_move (m : Move) (htick : m ≠ .tick) (hcome : ∀ s item, m ≠ .comeIn s item)
    (s : SocketId) : ((h.move m).socket s).inbox = (h.socket s).inbox ∧
      ((h.move m).socket s).readers = (h.socket s).readers := by
  cases m with
  | tick => exact absurd rfl htick
  | start start =>
    obtain ⟨-, -, -, -, hsockets, -⟩ := h.start_keeps start
    rw [move, socket_of_sockets hsockets]
    exact ⟨rfl, rfl⟩
  | cancel u =>
    obtain ⟨-, -, hsockets, -⟩ := h.cancelTask_keeps u
    rw [move, socket_of_sockets hsockets]
    exact ⟨rfl, rfl⟩
  | comeIn s' item => exact absurd rfl (hcome s' item)
  | openGate | cancelGate | release | connectElsewhere =>
    exact (h.works_move 0 htick (by simp) (by simp) (by simp)).others s (by simp)

/-- What has come in has been taken or is left. -/
theorem inbox_move (h : Hub) (s : SocketId) (m : Move) :
    (h.socket s).inbox ++ arrivals s [m] =
      (h.taken s m).map Prod.snd ++ ((h.move m).socket s).inbox := by
  by_cases htick : m = .tick
  · subst htick
    obtain ⟨front, hfront⟩ := h.inbox_tick s
    have hnone : arrivals s [.tick] = [] := rfl
    rw [hnone, List.append_nil, taken, move]
    cases hready : h.ready with
    | nil =>
      have hsame : h.tick = h := by rw [tick, hready]
      rw [hsame]
      rfl
    | cons t rest => simp [← hfront, Function.comp_def]
  · by_cases hcome : ∃ s' item, m = .comeIn s' item
    · obtain ⟨s', item, rfl⟩ := hcome
      obtain ⟨-, -, hsocket, -⟩ := h.comeIn_keeps s' item
      rw [move, hsocket]
      by_cases hs : s = s'
      · subst hs
        simp [arrivals, taken]
      · have hs' : s' ≠ s := Ne.symm hs
        simp [arrivals, taken, hs, hs']
    · simp only [not_exists] at hcome
      rw [(socket_move m htick hcome s).1]
      cases m with
      | tick => exact absurd rfl htick
      | comeIn s' item => exact absurd rfl (hcome s' item)
      | _ => simp [arrivals, taken]

/-- What was there or has come in on a socket has been taken or is left. -/
theorem inbox_run (h : Hub) (s : SocketId) (moves : List Move) :
    (h.socket s).inbox ++ arrivals s moves =
      (h.receptions s moves).map Prod.snd ++ ((h.run moves).socket s).inbox := by
  induction moves generalizing h with
  | nil => exact (List.append_nil _).trans (List.nil_append _).symm
  | cons m moves ih =>
    have hcons : arrivals s (m :: moves) = arrivals s [m] ++ arrivals s moves :=
      List.filterMap_append (l := [m])
    calc (h.socket s).inbox ++ arrivals s (m :: moves)
        = (h.taken s m).map Prod.snd ++ (((h.move m).socket s).inbox ++ arrivals s moves) := by
          rw [hcons, ← List.append_assoc, h.inbox_move s m, List.append_assoc]
      _ = (h.receptions s (m :: moves)).map Prod.snd ++ ((h.run (m :: moves)).socket s).inbox := by
          rw [ih (h.move m), receptions, List.map_append, List.append_assoc]
          rfl

/-! ## An endpoint along a run -/

/-- How a task of some number stands, when `items` have been taken out of the inbox of a socket by it:
it has not been started, or was started for something else than to attend to the socket, or was refused
the socket, or it attends to the socket as it should. -/
inductive Follows (w : World) (t : TaskId) (s : SocketId) (h : Hub) (items : List Incoming) : Prop
  | ahead (hnext : ¬ t < h.nextTask) (hitems : items = [])
      (hidle : ∀ e ∈ h.events, e.signer? ≠ some t ∧ ∀ name outcome, e ≠ .ended t name outcome)
  | other {name : String} {job : Job} (hstarted : .started t name job ∈ h.events)
      (hjob : ∀ client, job ≠ .endpoint s client)
  | refused {fault : Fault} (h : .refused s fault ∈ own t h.events)
  | attends {place : Whereabouts} (heard : List (Nat × String)) (hknown : t < h.nextTask)
      (hat : h.IsAt t place) (horder : InOrder h.clockReadings heard)
      (hattended : Attended w t s heard place items (signedBy t h.events))

/-- Whoever is alive has a number that has been given. -/
theorem known_of_accounted (inv : (h.scene none).Accounted w) {p : Point} (hp : (t, p) ∈ h.places) :
    t < h.nextTask := by
  obtain ⟨task, htask, rfl, -⟩ := mem_places.mp hp
  obtain ⟨job, hstarted, -⟩ := inv.waits task htask
  exact inv.known _ _ _ hstarted

theorem IsAt.spared {place : Whereabouts} (hat : h.IsAt t place) (hspares : Spares t h h') :
    h'.IsAt t place := by
  obtain ⟨es, hes, hquiet⟩ := hspares.events
  refine ⟨fun p => (hspares.places p).trans (hat.1 p), fun outcome => ?_⟩
  rw [← hat.2 outcome, hes]
  refine exists_congr fun name => ?_
  rw [List.mem_append]
  exact or_iff_left fun hmem => (hquiet _ hmem).2 name outcome rfl

/-- A task that is left alone stands as it did. -/
theorem Follows.spared {items : List Incoming} (inv : Follows w t s h items)
    (hspares : Spares t h h') : Follows w t s h' items := by
  obtain ⟨es, hes, hquiet⟩ := hspares.events
  cases inv with
  | ahead hnext hitems hidle =>
    refine .ahead (fun hlt => hnext (hspares.next.mp hlt)) hitems fun e he => ?_
    rw [hes] at he
    exact (List.mem_append.mp he).elim (hidle e) (hquiet e)
  | other hstarted hjob => exact .other (hes ▸ List.mem_append_left es hstarted) hjob
  | refused hrefused => exact .refused (hes ▸ own_subset_append t h.events es hrefused)
  | attends heard hknown hat horder hattended =>
    refine .attends heard (hspares.next.mpr hknown) (hat.spared hspares) (horder.mono hspares.clock) ?_
    rwa [hspares.signedBy]

/-- A task that is started to attend to the socket is fresh. -/
theorem Follows.start {items : List Incoming} (inv : (h.scene none).Accounted w)
    (hfollows : Follows w h.nextTask s h items) (start : Start) :
    Follows w h.nextTask s (h.start start) items := by
  obtain ⟨hplaces, hnext, -, -, -, -, es, hevents, hes⟩ := h.start_keeps start
  cases hfollows with
  | attends _ hknown => exact absurd hknown (Nat.lt_irrefl _)
  | other hstarted => exact absurd (inv.known _ _ _ hstarted) (Nat.lt_irrefl _)
  | refused hrefused =>
    have hnothing : own h.nextTask h.events = [] := inv.unknown h.nextTask (Nat.le_refl _)
    rw [hnothing] at hrefused
    cases hrefused
  | ahead _ hitems hidle =>
    by_cases hjob : ∃ client, start.job = .endpoint s client
    · obtain ⟨client, hjob⟩ := hjob
      have hnone : signedBy h.nextTask (h.start start).events = [] := by
        refine List.filter_eq_nil_iff.mpr fun e he => ?_
        rw [hevents] at he
        rcases List.mem_append.mp he with he | he
        · simpa using (hidle e he).1
        rcases List.mem_cons.mp he with rfl | he
        · simp [Event.signer?]
        · simp [(hes e he).2]
      have hfresh : Attended w h.nextTask s [] (.waits (.fresh start.job)) [] [] := by
        rw [hjob]
        exact .fresh rfl
      rw [← hnone, ← hitems] at hfresh
      refine .attends [] (hnext ▸ Nat.lt_succ_self _) ⟨fun p => ?_, fun outcome => ?_⟩
        ⟨.nil, by simp⟩ hfresh
      · rw [hplaces, List.mem_append, List.mem_singleton, Prod.mk.injEq]
        have hunknown : (h.nextTask, p) ∉ h.places := fun hp =>
          Nat.lt_irrefl _ (known_of_accounted inv hp)
        simp [hunknown, eq_comm]
      · refine iff_of_false ?_ (by simp)
        rintro ⟨name, hended⟩
        rw [hevents] at hended
        rcases List.mem_append.mp hended with hended | hended
        · exact (hidle _ hended).2 name outcome rfl
        rcases List.mem_cons.mp hended with hended | hended
        · cases hended
        · cases (hes _ hended).1
    · refine .other (hevents ▸ List.mem_append_right _ (List.mem_cons_self ..)) fun client hclient => ?_
      exact hjob ⟨client, hclient⟩

/-- What a task whose turn it is takes out of an inbox. -/
theorem taken_turn (hready : h.ready = task.id :: rest)
    (htick : h.tick = settleTask task (h.turn task rest)) {items : List Incoming}
    (hinbox : (h.socket s).inbox = items ++ ((h.turn task rest).2.socket s).inbox) :
    h.taken s .tick = items.map (task.id, ·) := by
  unfold taken
  rw [hready]
  dsimp only
  rw [socket_turn htick, hinbox]
  simp

theorem IsAt.turn (hat : h.IsAt task.id (.waits task.point))
    (htick : h.tick = settleTask task (h.turn task rest)) :
    h.tick.IsAt task.id (h.turn task rest).1.place := by
  obtain ⟨es, hevents, -, hof⟩ := h.events_turn task rest
  rw [htick]
  refine ⟨fun p => ?_, fun outcome => ?_⟩
  · rw [mem_places_turn]
    simp
  · have hbefore (name : String) : .ended task.id name outcome ∉ h.events := fun hended => by
      cases (hat.2 outcome).mp ⟨name, hended⟩
    have hmeanwhile (name : String) : .ended task.id name outcome ∉ es := fun hended =>
      Event.ne_ended_of_isInner (hof _ hended).1 task.id name outcome rfl
    rw [hevents]
    cases (h.turn task rest).1 with
    | waits p => simp [hbefore, hmeanwhile, Progress.last, Progress.place]
    | ends outcome' => simp [hbefore, hmeanwhile, Progress.last, Progress.place, eq_comm]

/-- A task that is refused a socket in its turn was refused that on its own. -/
theorem Refused.own (hrefused : Refused s (h.picked task rest) (h.turn task rest).2)
    (htick : h.tick = settleTask task (h.turn task rest)) :
    ∃ fault, .refused s fault ∈ own task.id h.tick.events := by
  obtain ⟨fault, hevents⟩ := hrefused
  have hrunner : runnerFrom none (h.picked task rest).events = some task.id := by
    rw [picked, events_record]
    exact runner_append_resumed (by simp)
  refine ⟨fault, ?_⟩
  rw [htick, events_settleTask, hevents, List.append_assoc]
  exact mem_own_of_doer hrunner

/-- A task that attends to its socket does so in its turn, unless it is refused the socket. -/
theorem attendsTo_turn {items : List Incoming} {heard : List (Nat × String)} (rest : List TaskId)
    (hworld : h.world = w) (horder : InOrder h.clockReadings heard)
    (hattended : Attended w task.id s heard (.waits task.point) items (signedBy task.id h.events)) :
    Refused s (h.picked task rest) (h.turn task rest).2 ∨
      AttendsTo w task.id s items (signedBy task.id h.events) (h.picked task rest)
        (h.turn task rest) := by
  unfold Hub.turn
  split
  · exact .inr (attendsTo_giveUp (h := h.picked task rest) horder hattended)
  · exact attendsTo_goOn (h := h.picked task rest) hworld task.name horder hattended

/-- A task that attends to its socket stands as it should after its turn. -/
theorem Follows.turn {items : List Incoming} (hworld : h.world = w)
    (inv : (h.scene none).Accounted w) (hfollows : Follows w task.id s h items)
    (hready : h.ready = task.id :: rest) (htask : task ∈ h.tasks)
    (htick : h.tick = settleTask task (h.turn task rest)) :
    Follows w task.id s h.tick
      (items ++ ((h.taken s .tick).filter (·.1 = task.id)).map Prod.snd) := by
  have hplace : (task.id, task.point) ∈ h.places := mem_places_of_mem htask
  obtain ⟨es, hevents, hturn, hof⟩ := h.events_turn task rest
  obtain ⟨-, hnext, hclock, -, -⟩ := settleTask_keeps task (h.turn task rest)
  cases hfollows with
  | ahead hnext => exact absurd (known_of_accounted inv hplace) hnext
  | other hstarted hjob => exact .other (htick ▸ hevents ▸ List.mem_append_left _ hstarted) hjob
  | refused hrefused => exact .refused (htick ▸ hevents ▸ own_subset_append _ _ _ hrefused)
  | attends heard hknown hat horder hattended =>
    obtain rfl := (hat.1 task.point).mp hplace
    rcases attendsTo_turn rest hworld horder hattended with hrefused | hattends
    · obtain ⟨fault, hrefused⟩ := hrefused.own htick
      exact .refused hrefused
    obtain ⟨hworks, -, heard', taken, more, horder', hinbox, hsigned, hattended'⟩ := hattends
    have htaken : ((h.taken s .tick).filter (·.1 = task.id)).map Prod.snd = taken := by
      rw [taken_turn hready htick hinbox]
      simp [List.filter_map, Function.comp_def]
    have hsigned' : signedBy task.id h.tick.events = signedBy task.id h.events ++ more := by
      rw [htick, events_settleTask, signedBy_append_unsigned (Progress.signer?_last _ task), hsigned,
        picked, events_record, signedBy_append_unsigned rfl]
      rfl
    refine .attends heard' ?_ (hat.turn htick) ?_ ?_
    · rw [htick, hnext, hworks.next]
      exact hknown
    · rw [htick, hclock]
      exact horder'
    · rw [htaken, hsigned']
      exact hattended'

/-- In what is not its turn a task takes nothing. -/
theorem taken_filter_eq_nil {m : Move}
    (hturn : m = .tick → h.ready.head? = some t → ∀ task ∈ h.tasks, task.id ≠ t) :
    (h.taken s m).filter (·.1 = t) = [] := by
  cases m with
  | tick =>
    unfold taken
    cases hready : h.ready with
    | nil => rfl
    | cons u rest =>
      by_cases hu : u = t
      · -- the task is not alive, and the tick does nothing
        subst hu
        have hdead := hturn rfl (by rw [hready]; rfl)
        rcases h.tick_cases with ⟨task, rest', hready', htask, -⟩ | ⟨-, htick⟩
        · rw [hready] at hready'
          exact absurd (List.cons.inj hready').1.symm (hdead task htask)
        · have hsame : h.tick.socket s = h.socket s := by rw [htick]; rfl
          simp [hsame]
      · refine List.filter_eq_nil_iff.mpr fun x hx => ?_
        obtain ⟨item, -, rfl⟩ := List.mem_map.mp hx
        simpa using hu
  | _ => rfl

theorem Follows.move {items : List Incoming} (hworld : h.world = w)
    (inv : (h.scene none).Accounted w) (hfollows : Follows w t s h items) (m : Move) :
    Follows w t s (h.move m) (items ++ ((h.taken s m).filter (·.1 = t)).map Prod.snd) := by
  have hspared (hturn : m = .tick → h.ready.head? = some t → ∀ task ∈ h.tasks, task.id ≠ t) :
      Follows w t s (h.move m) (items ++ ((h.taken s m).filter (·.1 = t)).map Prod.snd) := by
    rw [taken_filter_eq_nil hturn, List.map_nil, List.append_nil]
    by_cases hstart : ∃ start, m = .start start ∧ h.nextTask = t
    · obtain ⟨start, rfl, rfl⟩ := hstart
      exact hfollows.start inv start
    · exact hfollows.spared (spares_move m hturn fun start hm hnext => hstart ⟨start, hm, hnext⟩)
  by_cases hturn : m = .tick ∧ h.ready.head? = some t
  · obtain ⟨rfl, hhead⟩ := hturn
    rcases h.tick_cases with ⟨task, rest, hready, htask, htick⟩ | ⟨hdead, -⟩
    · rw [hready] at hhead
      obtain rfl : task.id = t := Option.some.inj hhead
      exact hfollows.turn hworld inv hready htask htick
    · exact hspared fun _ hhead => hdead t hhead
  · exact hspared fun hm hhead => absurd ⟨hm, hhead⟩ hturn

/-- An endpoint stands as it should after every run. -/
theorem Follows.run {items : List Incoming} (htracks : h.Tracks w)
    (inv : (h.scene none).Accounted w) (hfollows : Follows w t s h items) (moves : List Move) :
    Follows w t s (h.run moves) (items ++ h.received t s moves) := by
  induction moves generalizing h items with
  | nil =>
    rw [received, receptions, List.filter_nil, List.map_nil, List.append_nil]
    exact hfollows
  | cons m moves ih =>
    obtain ⟨htracks', inv'⟩ := accounted_move htracks inv m
    have hmoved := ih htracks' inv' (hfollows.move htracks.world inv m)
    rw [received, receptions, List.filter_append, List.map_append, ← List.append_assoc]
    exact hmoved

/-! ## Nothing is left lying -/

/-- Only one task waits for what comes in on a socket, and while it does and is not ready, nothing has
come in. -/
structure Heeds (t : TaskId) (s : SocketId) (h : Hub) : Prop where
  readers : ∀ u ∈ (h.socket s).readers, u = t
  awake : (t, .receiving s) ∈ h.places →
    t ∈ h.ready ∨ (h.socket s).inbox = [] ∧ t ∈ (h.socket s).readers

theorem Heeds.initial : Heeds t s (.initial w) where
  readers := nofun
  awake := nofun

/-- Only one task attends to a socket. -/
def Sole (t : TaskId) (s : SocketId) (h : Hub) : Prop :=
  ∀ u p, (u, p) ∈ h.places → p.attended = some s → u = t

/-- A task is what was started to attend to a socket, and no other task was, and it was not refused the
socket. -/
structure Dedicated (t : TaskId) (s : SocketId) (es : List Event) : Prop where
  own : ∀ name job, .started t name job ∈ es → ∃ client, job = .endpoint s client
  only : ∀ u name client, .started u name (.endpoint s client) ∈ es → u = t
  served : ∀ fault, .refused s fault ∉ PlotStream.own t es

theorem Dedicated.before {es es' : List Event} (h : Dedicated t s (es ++ es')) :
    Dedicated t s es where
  own name job hstarted := h.own name job (List.mem_append_left _ hstarted)
  only u name client hstarted := h.only u name client (List.mem_append_left _ hstarted)
  served fault hrefused := h.served fault (own_subset_append t es es' hrefused)

/-- A task that attends to a socket was started for that. -/
theorem sole_of_dedicated (inv : (h.scene none).Accounted w) (hdedicated : Dedicated t s h.events) :
    Sole t s h := by
  intro u p hp hattended
  obtain ⟨task, htask, rfl, rfl⟩ := mem_places.mp hp
  obtain ⟨job, hstarted, hbefits⟩ := inv.waits task htask
  suffices hjob : ∃ client, job = .endpoint s client by
    obtain ⟨client, rfl⟩ := hjob
    exact hdedicated.only _ _ _ hstarted
  cases hpoint : task.point with
  | fresh job' =>
    rw [hpoint] at hbefits hattended
    obtain rfl : job' = job := hbefits.1
    cases job' with
    | endpoint s' client =>
      obtain rfl : s' = s := Option.some.inj hattended
      exact ⟨client, rfl⟩
    | _ => cases hattended
  | receiving s' | replying s' f =>
    rw [hpoint] at hbefits hattended
    obtain rfl : s' = s := Option.some.inj hattended
    obtain ⟨client, hjob, -⟩ := hbefits
    exact ⟨client, hjob⟩
  | _ =>
    rw [hpoint] at hattended
    cases hattended

/-- Whoever attends to no other socket leaves the others' alone. -/
theorem Sole.turn (hsole : Sole t s h) (htask : task ∈ h.tasks) (hne : task.id ≠ t) :
    ((h.turn task rest).2.socket s).inbox = (h.socket s).inbox ∧
      ((h.turn task rest).2.socket s).readers = (h.socket s).readers :=
  (h.works_turn task rest).others s fun hattended =>
    hne (hsole _ _ (mem_places_of_mem htask) hattended)

/-- Nobody else takes anything. -/
theorem Sole.taken (hsole : Sole t s h) (m : Move) : ∀ x ∈ h.taken s m, x.1 = t := by
  intro x hx
  cases m with
  | tick =>
    rcases h.tick_cases with ⟨task, rest, hready, htask, htick⟩ | ⟨-, htick⟩
    · by_cases hid : task.id = t
      · unfold Hub.taken at hx
        rw [hready] at hx
        obtain ⟨item, -, rfl⟩ := List.mem_map.mp hx
        exact hid
      · have hkept : (h.socket s).inbox = [] ++ ((h.turn task rest).2.socket s).inbox :=
          (hsole.turn htask hid).1.symm
        rw [taken_turn hready htick hkept] at hx
        cases hx
    · have hsame : h.tick.socket s = h.socket s := by rw [htick]; rfl
      unfold Hub.taken at hx
      cases hready : h.ready with
      | nil =>
        rw [hready] at hx
        cases hx
      | cons u rest =>
        rw [hready] at hx
        simp [hsame] at hx
  | _ => cases hx

/-- A task that may have been given something to do, and still has what it has. -/
theorem Heeds.mono (hheeds : Heeds t s h)
    (hsame : (h'.socket s).inbox = (h.socket s).inbox ∧ (h'.socket s).readers = (h.socket s).readers)
    (hready : t ∈ h.ready → t ∈ h'.ready)
    (hplaces : (t, .receiving s) ∈ h'.places → (t, .receiving s) ∈ h.places) : Heeds t s h' := by
  obtain ⟨hinbox, hreaders⟩ := hsame
  refine ⟨hreaders ▸ hheeds.readers, fun hplace => ?_⟩
  rw [hinbox, hreaders]
  exact (hheeds.awake (hplaces hplace)).imp_left hready

/-- In a turn of its own an endpoint waits for more only when nothing is left. -/
theorem Heeds.turn {items : List Incoming} (hworld : h.world = w)
    (inv : (h.scene none).Accounted w) (hheeds : Heeds task.id s h)
    (hfollows : Follows w task.id s h items) (hdedicated : Dedicated task.id s h.tick.events)
    (htask : task ∈ h.tasks) (htick : h.tick = settleTask task (h.turn task rest)) :
    Heeds task.id s h.tick := by
  have hplace : (task.id, task.point) ∈ h.places := mem_places_of_mem htask
  obtain ⟨es, hevents, -⟩ := h.events_turn task rest
  rw [← htick] at hevents
  have hbefore : Dedicated task.id s h.events := (hevents ▸ hdedicated).before
  cases hfollows with
  | ahead hnext => exact absurd (known_of_accounted inv hplace) hnext
  | other hstarted hother =>
    obtain ⟨client, rfl⟩ := hbefore.own _ _ hstarted
    exact absurd rfl (hother client)
  | refused hrefused => exact absurd hrefused (hbefore.served _)
  | attends heard hknown hat horder hattended =>
    obtain rfl := (hat.1 task.point).mp hplace
    rcases attendsTo_turn rest hworld horder hattended with hrefused | ⟨hworks, hdry, -⟩
    · obtain ⟨fault, hrefused⟩ := hrefused.own htick
      exact absurd hrefused (hdedicated.served fault)
    refine ⟨fun u hu => ?_, fun hwaits => .inr ?_⟩
    · rw [socket_turn htick] at hu
      exact (hworks.readers s u hu).elim id (hheeds.readers u)
    · rw [htick, mem_places_turn] at hwaits
      obtain ⟨-, hwaits⟩ := hwaits.resolve_left fun hne => hne.1 rfl
      rw [socket_turn htick]
      refine hdry ?_
      cases hprogress : (h.turn task rest).1 with
      | waits p =>
        rw [hprogress] at hwaits
        cases hwaits
        rfl
      | ends outcome =>
        rw [hprogress] at hwaits
        cases hwaits

/-- Turns of others take nobody's turn away. -/
theorem Heeds.spared (hheeds : Heeds t s h) (hsole : Sole t s h) (hready : h.ready = task.id :: rest)
    (htask : task ∈ h.tasks) (hne : task.id ≠ t)
    (htick : h.tick = settleTask task (h.turn task rest)) : Heeds t s h.tick := by
  refine hheeds.mono ?_ (fun hwoken => ?_) fun hplace => ?_
  · rw [socket_turn htick]
    exact hsole.turn htask hne
  · obtain ⟨-, -, -, hreadyTick, -⟩ := settleTask_keeps task (h.turn task rest)
    rw [hready] at hwoken
    have hrest : t ∈ rest := (List.mem_cons.mp hwoken).resolve_left hne.symm
    rw [htick, hreadyTick]
    exact (h.works_turn task rest).ready hrest
  · rw [htick, mem_places_turn] at hplace
    exact (hplace.resolve_right fun hown => hne hown.1.symm).2

/-- What comes in wakes the one who waits for it. -/
theorem Heeds.comeIn (hheeds : Heeds t s h) (s' : SocketId) (item : Incoming) :
    Heeds t s (h.comeIn s' item) := by
  obtain ⟨hplaces, hready, hsocket, -⟩ := h.comeIn_keeps s' item
  by_cases hs : s = s'
  · subst hs
    refine ⟨fun u hu => ?_, fun hplace => .inl ?_⟩
    · rw [hsocket, if_pos rfl] at hu
      exact hheeds.readers u (List.mem_of_mem_drop hu)
    · rw [hready]
      rw [hplaces] at hplace
      rcases hheeds.awake hplace with hwoken | ⟨-, hreads⟩
      · exact List.mem_append_left _ hwoken
      · -- the first of those who read is the one
        cases hreaders : (h.socket s).readers with
        | nil =>
          rw [hreaders] at hreads
          cases hreads
        | cons u others =>
          obtain rfl : u = t := hheeds.readers u (hreaders ▸ List.mem_cons_self ..)
          exact List.mem_append_right _ (List.mem_singleton_self u)
  · refine hheeds.mono ?_ (fun hwoken => ?_) fun hplace => ?_
    · rw [hsocket, if_neg hs]
      exact ⟨rfl, rfl⟩
    · rw [hready]
      exact List.mem_append_left _ hwoken
    · rwa [hplaces] at hplace

/-- Who is ready stays so but for ticks. -/
theorem ready_move (h : Hub) (m : Move) (htick : m ≠ .tick) : h.ready ⊆ (h.move m).ready := by
  cases m with
  | tick => exact absurd rfl htick
  | start start =>
    obtain ⟨-, -, -, -, -, hready, -⟩ := h.start_keeps start
    rw [move, hready]
    exact List.subset_append_left _ _
  | cancel u => exact (h.cancelTask_keeps u).2.1
  | comeIn s item =>
    rw [move, (h.comeIn_keeps s item).2.1]
    exact List.subset_append_left _ _
  | openGate | cancelGate | release | connectElsewhere =>
    exact (h.works_move 0 htick (by simp) (by simp) (by simp)).ready

/-- Nobody comes to wait for more but in a turn. -/
theorem places_move (h : Hub) (m : Move) (htick : m ≠ .tick)
    (hplace : (t, .receiving s) ∈ (h.move m).places) : (t, .receiving s) ∈ h.places := by
  by_cases hstart : ∃ start, m = .start start
  · obtain ⟨start, rfl⟩ := hstart
    obtain ⟨hplaces, -⟩ := h.start_keeps start
    rw [move, hplaces, List.mem_append, List.mem_singleton] at hplace
    exact hplace.resolve_right (by simp)
  · have hspares : Spares t h (h.move m) :=
      spares_move m (fun hm => absurd hm htick) fun start hm => absurd ⟨start, hm⟩ hstart
    exact (hspares.places _).mp hplace

theorem Heeds.move {items : List Incoming} (hworld : h.world = w)
    (inv : (h.scene none).Accounted w) (hfollows : Follows w t s h items) (hheeds : Heeds t s h)
    (m : Move) (hdedicated : Dedicated t s (h.move m).events) : Heeds t s (h.move m) := by
  obtain ⟨es, hes⟩ := h.events_append_run [m]
  have hmove : (h.move m).events = h.events ++ es := hes
  have hsole := sole_of_dedicated inv (hmove ▸ hdedicated).before
  by_cases htick : m = .tick
  · subst htick
    rw [Hub.move]
    rcases h.tick_cases with ⟨task, rest, hready, htask, htick⟩ | ⟨hdead, htick⟩
    · by_cases hid : task.id = t
      · subst hid
        exact hheeds.turn hworld inv hfollows hdedicated htask htick
      · exact hheeds.spared hsole hready htask hid htick
    · rw [htick]
      refine ⟨hheeds.readers, fun hplace => (hheeds.awake hplace).imp_left fun hwoken => ?_⟩
      obtain ⟨task, htask, hid, -⟩ := mem_places.mp hplace
      cases hready : h.ready with
      | nil =>
        rw [hready] at hwoken
        cases hwoken
      | cons u rest =>
        rw [hready] at hwoken
        refine (List.mem_cons.mp hwoken).resolve_left fun hhead => ?_
        exact hdead u (by rw [hready]; rfl) task htask (hid.trans hhead)
  · by_cases hcome : ∃ s' item, m = .comeIn s' item
    · obtain ⟨s', item, rfl⟩ := hcome
      exact hheeds.comeIn s' item
    · simp only [not_exists] at hcome
      exact hheeds.mono (socket_move m htick hcome s) (fun hwoken => h.ready_move m htick hwoken)
        (h.places_move m htick)

/-- Nothing is left lying after any run in which no other task attends to the socket, and nothing has
been taken by others. -/
theorem Heeds.run {items : List Incoming} (htracks : h.Tracks w)
    (inv : (h.scene none).Accounted w) (hfollows : Follows w t s h items) (hheeds : Heeds t s h)
    (moves : List Move) (hdedicated : Dedicated t s (h.run moves).events) :
    Heeds t s (h.run moves) ∧ ∀ x ∈ h.receptions s moves, x.1 = t := by
  induction moves generalizing h items with
  | nil => exact ⟨hheeds, nofun⟩
  | cons m moves ih =>
    obtain ⟨es, hes⟩ := h.events_append_run (m :: moves)
    obtain ⟨es', hes'⟩ := (h.move m).events_append_run moves
    have hbefore : Dedicated t s h.events := (hes ▸ hdedicated).before
    have hlater : (h.run (m :: moves)).events = (h.move m).events ++ es' := hes'
    have hmeanwhile : Dedicated t s (h.move m).events := (hlater ▸ hdedicated).before
    obtain ⟨htracks', inv'⟩ := accounted_move htracks inv m
    obtain ⟨hheeds', hreceptions⟩ := ih htracks' inv' (hfollows.move htracks.world inv m)
      (hheeds.move htracks.world inv hfollows m hmeanwhile) hdedicated
    refine ⟨hheeds', fun x hx => ?_⟩
    rw [receptions] at hx
    rcases List.mem_append.mp hx with hx | hx
    · exact (sole_of_dedicated inv hbefore).taken m x hx
    · exact hreceptions x hx

/-! ## After the end -/

/-- A task that has ended does and takes nothing more. -/
theorem idle_after_end (hknown : t < h.nextTask) (hdead : ∀ p, (t, p) ∉ h.places) (s : SocketId)
    (moves : List Move) :
    signedBy t (h.run moves).events = signedBy t h.events ∧ h.received t s moves = [] := by
  induction moves generalizing h with
  | nil => exact ⟨rfl, rfl⟩
  | cons m moves ih =>
    have hnobody (task : Task) (htask : task ∈ h.tasks) : task.id ≠ t := by
      rintro rfl
      exact hdead task.point (mem_places_of_mem htask)
    have hspares : Spares t h (h.move m) :=
      spares_move m (fun _ _ => hnobody) fun _ _ => (Nat.ne_of_lt hknown).symm
    obtain ⟨hsigned, hreceived⟩ := ih (hspares.next.mpr hknown)
      fun p hp => hdead p ((hspares.places p).mp hp)
    constructor
    · exact hsigned.trans hspares.signedBy
    · rw [received, receptions, List.filter_append, taken_filter_eq_nil fun _ _ => hnobody,
        List.nil_append]
      exact hreceived

/-- What is started first is the task of number zero. -/
theorem started_first (w : World) (start : Start) (moves : List Move) :
    .started 0 start.name start.job ∈ ((Hub.initial w).run (.start start :: moves)).events := by
  obtain ⟨-, -, -, -, -, -, es, hevents, -⟩ := (Hub.initial w).start_keeps start
  have hstarted : .started 0 start.name start.job ∈ ((Hub.initial w).start start).events :=
    hevents ▸ List.mem_append_right _ (List.mem_cons_self ..)
  exact List.mem_reverse.mpr (mem_history_run (List.mem_reverse.mp hstarted) moves)

end Hub

/-- An endpoint signs what it sends on its socket, and nothing else. -/
theorem Attended.of_mem {w : World} {t : TaskId} {s : SocketId} {heard : List (Nat × String)}
    {place : Whereabouts} {items : List Incoming} {signed : List Event} {e : Event}
    (h : Attended w t s heard place items signed) (he : e ∈ signed) :
    (∃ f, e = .delivered t false s f) ∨ e = .sendFailed t false s := by
  have hdelivered {sent : List Frame} (he : e ∈ sent.map (.delivered t false s)) :
      ∃ f, e = .delivered t false s f := by
    obtain ⟨f, -, rfl⟩ := List.mem_map.mp he
    exact ⟨f, rfl⟩
  cases h with
  | fresh => cases he
  | receiving | replying | stopped | cancelled => exact .inl (hdelivered he)
  | unsent => exact (List.mem_append.mp he).imp hdelivered List.mem_singleton.mp

/-- Keep-alives are answered whatever else goes on. After every run, an endpoint that was not refused its
socket is where it should be: of what it has taken out of the inbox it has looked at all texts, one
after the other, and has sent the answers to those that have one, on its own socket and in this order,
until it stopped at something else than a text or at a send that failed, or was cancelled. All that
it has signed are these sends, so that it never asks for the lease. After its end it takes and sends
nothing more.

What has come in on the socket has been taken by some task, in this order, or is still there. If no
other endpoint attends to the socket it was taken by this one, and nothing is still there while it
waits for more and has not been woken. -/
theorem keep_alives_answered (w : World) (moves : List Move) {t : TaskId} {name : String}
    {s : SocketId} {client : Option String}
    (hserved : ∀ fault, .refused s fault ∉ own t ((Hub.initial w).run moves).events)
    (hstarted : .started t name (.endpoint s client) ∈ ((Hub.initial w).run moves).events) :
    let h := (Hub.initial w).run moves
    let items := (Hub.initial w).received t s moves
    (∃ place heard, h.IsAt t place ∧ InOrder h.clockReadings heard ∧
      Attended w t s heard place items (signedBy t h.events)) ∧
    t ∉ askOrder h.events ∧
    (∀ outcome, h.IsAt t (.finished outcome) → ∀ more,
      signedBy t (h.run more).events = signedBy t h.events ∧ h.received t s more = []) ∧
    arrivals s moves = ((Hub.initial w).receptions s moves).map Prod.snd ++ (h.socket s).inbox ∧
    ((∀ u name client, .started u name (.endpoint s client) ∈ h.events → u = t) →
      arrivals s moves = items ++ (h.socket s).inbox ∧
      (h.IsAt t (.waits (.receiving s)) → t ∉ h.ready → (h.socket s).inbox = [])) := by
  intro h items
  have hinitial : Hub.Follows w t s (.initial w) [] := .ahead (Nat.not_lt_zero t) rfl nofun
  have htracks : (Hub.initial w).Tracks w := ⟨rfl, rfl⟩
  have hfollows : Hub.Follows w t s h items := hinitial.run htracks .initial moves
  obtain ⟨-, inv⟩ := Hub.accounted_run htracks .initial moves
  have hown (name' : String) (job : Job) (hstarted' : .started t name' job ∈ h.events) :
      ∃ client, job = .endpoint s client := by
    obtain ⟨-, rfl⟩ := inv.once t name _ name' job hstarted hstarted'
    exact ⟨client, rfl⟩
  have hinbox : arrivals s moves =
      ((Hub.initial w).receptions s moves).map Prod.snd ++ (h.socket s).inbox :=
    (Hub.initial w).inbox_run s moves
  cases hfollows with
  | ahead hnext => exact absurd (inv.known _ _ _ hstarted) hnext
  | other hstarted' hjob =>
    obtain ⟨client', rfl⟩ := hown _ _ hstarted'
    exact absurd rfl (hjob client')
  | refused hrefused => exact absurd hrefused (hserved _)
  | attends heard hknown hat horder hattended =>
    refine ⟨⟨_, heard, hat, horder, hattended⟩, fun hasked => ?_, fun outcome hended more => ?_,
      hinbox, fun honly => ?_⟩
    · have hsigned : .asked t ∈ signedBy t h.events :=
        List.mem_filter.mpr ⟨mem_askOrder.mp hasked, by simp [Event.signer?]⟩
      rcases hattended.of_mem hsigned with ⟨f, hsent⟩ | hfailed
      · cases hsent
      · cases hfailed
    · exact Hub.idle_after_end hknown (fun p hp => by cases (hended.1 p).mp hp) s more
    · obtain ⟨hheeds', hreceptions⟩ :=
        Hub.Heeds.initial.run htracks .initial hinitial moves ⟨hown, honly, hserved⟩
      have hitems : items = ((Hub.initial w).receptions s moves).map Prod.snd := by
        have hall : ((Hub.initial w).receptions s moves).filter (·.1 = t) =
            (Hub.initial w).receptions s moves :=
          List.filter_eq_self.mpr fun x hx => by simpa using hreceptions x hx
        exact congrArg (List.map Prod.snd) hall
      refine ⟨hitems ▸ hinbox, fun hwaits hasleep => ?_⟩
      exact ((hheeds'.awake ((hwaits.1 _).mpr rfl)).resolve_left hasleep).1

/-- A frame waits in its send while the lease is held, another browser has taken the place of the first
one, and a keep-alive comes in from the first one. -/
def busyStream : List Move :=
  [.start ⟨"tab", .endpoint "s" none, false⟩, .tick,
    .start ⟨"plot", .lease [.send (.text "x"), .send (.text "y"), .send (.text "z")], false⟩, .tick,
    .start ⟨"new", .connect "b" none, false⟩, .tick,
    .comeIn "s" (.text "\x7b\"type\": \"ping\"\x7d"), .tick]

theorem keep_alives_answered_busy :
    let h := (Hub.initial World.stalling).run busyStream
    (.started 0 "tab" (.endpoint "s" none) ∈ h.events ∧
      ∀ fault, .refused "s" fault ∉ own 0 h.events) ∧
    (∃ place heard, h.IsAt 0 place ∧ InOrder h.clockReadings heard ∧
      Attended World.stalling 0 "s" heard place ((Hub.initial World.stalling).received 0 "s" busyStream)
        (signedBy 0 h.events)) ∧
    0 ∉ askOrder h.events ∧ h.lease.held = true ∧ h.current.map (·.socket) = some "b" ∧
    deliveries (signedBy 0 h.events) =
      [("s", .text "\x7b\"type\": \"pong\", \"timestamp\": \"\"\x7d")] := by
  intro h
  have hserved : ∀ fault, .refused "s" fault ∉ own 0 h.events := not_refused (by decide +kernel) "s"
  have hstarted : .started 0 "tab" (.endpoint "s" none) ∈ h.events :=
    Hub.started_first World.stalling ⟨"tab", .endpoint "s" none, false⟩ _
  obtain ⟨hattends, hasks, -⟩ := keep_alives_answered World.stalling busyStream hserved hstarted
  refine ⟨⟨hstarted, hserved⟩, hattends, hasks, ?_, ?_, ?_⟩
  · decide +kernel
  · decide +kernel
  · decide +kernel

end PlotStream
