import PlotStream.Proofs.Session.Exclusion

/-!
# One task at a time

What a task does on its own, whatever happens in between: `Traced` describes the events that are its
doing and where they leave it, with the current connection left open at every step. In every scene
that can be reached, the doing of each task is of this form (`Scene.Reachable.traced`), so that a
claim about a single task is proved by induction over `Traced`, without regard to the others.
-/

namespace PlotStream

/-- Where a task is: it waits, runs, or has ended. -/
inductive Whereabouts
  | waits (p : Point)
  | runs (stage : Stage)
  | finished (outcome : Except Fault TaskResult)

/-- Where a task waits after a halt, unless it ends. -/
def Halt.point? : Halt → Option Point
  | gate _ p => some p
  | queue purpose => some (.queued purpose)
  | reader s => some (.receiving s)
  | done _ => none

/-- The doing of a task so far, and where it is. -/
inductive Traced (w : World) (t : TaskId) (name : String) (job : Job) :
    List Event → Whereabouts → Prop
  | start : Traced w t name job [] (.waits (.fresh job))
  | resume {es : List Event} {p : Point} {c : Option Connection}
      (h : Traced w t name job es (.waits p)) (hqueued : p.isQueued = false) :
      Traced w t name job (es ++ [.resumed t]) (.runs (p.stage c name))
  | grant {es : List Event} {purpose : Purpose} {c : Option Connection}
      (h : Traced w t name job es (.waits (.queued purpose))) :
      Traced w t name job (es ++ [.resumed t, .granted t (c.map (·.socket))])
        (.runs (purpose.stage c))
  | giveUp {es : List Event} {p : Point} (h : Traced w t name job es (.waits p)) :
      Traced w t name job (es ++ [.resumed t]) (.runs p.cancelledStage)
  | act {es es' : List Event} {stage stage' : Stage} {c : Option Connection}
      (h : Traced w t name job es (.runs stage)) (hact : stage.Acts w t c es' stage') :
      Traced w t name job (es ++ es') (.runs stage')
  | wait {es : List Event} {how : Halt} {p : Point} (h : Traced w t name job es (.runs (.halt how)))
      (hpoint : how.point? = some p) : Traced w t name job (es ++ [.paused t]) (.waits p)
  | ends {es : List Event} {outcome : Except Fault TaskResult}
      (h : Traced w t name job es (.runs (.halt (.done outcome)))) :
      Traced w t name job (es ++ [.ended t name outcome]) (.finished outcome)

/-! ## What events tell -/

section Acts

variable {w : World} {t : TaskId} {c : Option Connection} {stage stage' : Stage} {es : List Event}

theorem inner_of_asides (h : ∀ e ∈ es, e.isAside) : ∀ e ∈ es, e.isInner :=
  fun e he => Event.isInner_of_isAside (h e he)

theorem truthful_of_asides (h : ∀ e ∈ es, e.isAside) (c : Option Connection) : Truthful c es := by
  induction es generalizing c with
  | nil => trivial
  | cons e es ih =>
    obtain ⟨he, hes⟩ := List.forall_mem_cons.mp h
    exact ⟨Event.agrees_of_isAside he c, ih hes _⟩

theorem unsigned_of_asides (h : ∀ e ∈ es, e.isAside) : ∀ e ∈ es, e.signer? = none :=
  fun e he => Event.signer?_of_isAside (h e he)

/-- A task that acts neither lets a task go on nor stops. -/
theorem Stage.Acts.inner (hact : stage.Acts w t c es stage') : ∀ e ∈ es, e.isInner := by
  cases hact with
  | connect | endpoint => exact inner_of_asides (aside_connectEvents _ _)
  | disconnect | closed => exact inner_of_asides (aside_dropEvents _ _)
  | buildStep h | buildFails h => exact inner_of_asides h.aside
  | built | malformed => exact inner_of_asides (aside_checkEvents _)
  | sendFails | keptFails | answerFails =>
    exact List.forall_mem_cons.mpr
      ⟨rfl, List.forall_mem_cons.mpr ⟨rfl, inner_of_asides (aside_dropEvents _ _)⟩⟩
  | incomingFails =>
    exact List.forall_mem_cons.mpr ⟨rfl, inner_of_asides (aside_dropEvents _ _)⟩
  | refused purpose => cases purpose <;> simp [Purpose.refusal, Event.isInner]
  | finish holder => cases holder.purpose <;> simp [Purpose.closing, Event.isInner]
  | _ => simp [Event.isInner]

/-- A task that acts tells the truth about the current socket. -/
theorem Stage.Acts.truthful (hact : stage.Acts w t c es stage') : Truthful c es := by
  cases hact with
  | connect | endpoint => exact truthful_of_asides (aside_connectEvents _ _) c
  | disconnect | closed => exact truthful_of_asides (aside_dropEvents _ _) c
  | buildStep h | buildFails h => exact truthful_of_asides h.aside c
  | built | malformed => exact truthful_of_asides (aside_checkEvents _) c
  | sendFails | keptFails | answerFails =>
    exact ⟨trivial, trivial, truthful_of_asides (aside_dropEvents _ _) _⟩
  | incomingFails => exact ⟨trivial, truthful_of_asides (aside_dropEvents _ _) _⟩
  | refused purpose => cases purpose <;> simp [Purpose.refusal, Truthful, Event.Agrees]
  | finish holder => cases holder.purpose <;> simp [Purpose.closing, Truthful, Event.Agrees]
  | plotIdle h | plot h =>
    subst h
    simp [Truthful, Event.Agrees]
  | take => exact ⟨trivial, rfl, trivial⟩
  | _ => simp [Truthful, Event.Agrees]

/-- A task that acts signs with its own name. -/
theorem Stage.Acts.signer (hact : stage.Acts w t c es stage') :
    ∀ e ∈ es, ∀ u, e.signer? = some u → u = t := by
  have hnone {es : List Event} (h : ∀ e ∈ es, e.isAside) : ∀ e ∈ es, ∀ u, e.signer? = some u → u = t :=
    fun e he u hu => by rw [unsigned_of_asides h e he] at hu; cases hu
  cases hact with
  | connect | endpoint => exact hnone (aside_connectEvents _ _)
  | disconnect | closed => exact hnone (aside_dropEvents _ _)
  | buildStep h | buildFails h => exact hnone h.aside
  | built | malformed => exact hnone (aside_checkEvents _)
  | sendFails | keptFails | answerFails =>
    refine List.forall_mem_cons.mpr
      ⟨?_, List.forall_mem_cons.mpr ⟨nofun, hnone (aside_dropEvents _ _)⟩⟩
    rintro u ⟨⟩
    rfl
  | incomingFails => exact List.forall_mem_cons.mpr ⟨nofun, hnone (aside_dropEvents _ _)⟩
  | refused purpose => cases purpose <;> simp [Purpose.refusal, Event.signer?]
  | finish holder => cases holder.purpose <;> simp [Purpose.closing, Event.signer?]
  | _ => simp [Event.signer?]

theorem OutsideEvents.aside (h : OutsideEvents w c es) : ∀ e ∈ es, e.isAside := by
  cases h with
  | nothing => simp
  | gate => simp [Event.isAside]
  | connect new hplan => exact aside_connectEvents c new
  | refuse => simp [Event.isAside]

end Acts

/-! ## Whose doing it is -/

section Doing

variable {es es' : List Event} {t u : TaskId} {r : Option TaskId}

theorem runnerFrom_append (r : Option TaskId) (es es' : List Event) :
    runnerFrom r (es ++ es') = runnerFrom (runnerFrom r es) es' := by
  simp [runnerFrom]

/-- What happens while a task runs is its doing. -/
theorem own_append_inner (hinner : ∀ e ∈ es', e.isInner) (hrunner : runnerFrom none es = r) :
    own t (es ++ es') = own t es ++ if r = some t then es' else [] := by
  rw [own, ownFrom_append, hrunner, ownFrom_of_inner hinner]
  rfl

theorem runner_append_inner (hinner : ∀ e ∈ es', e.isInner) (hrunner : runnerFrom none es = r) :
    runnerFrom none (es ++ es') = r := by
  rw [runnerFrom_append, hrunner, runnerFrom_of_inner hinner]

theorem own_append_resumed (hinner : ∀ e ∈ es', e.isInner) :
    own t (es ++ .resumed u :: es') = own t es ++ if u = t then .resumed u :: es' else [] := by
  rw [own, ownFrom_append, ownFrom]
  simp only [Event.doer, Event.runnerAfter, ownFrom_of_inner hinner, Option.some.injEq]
  split <;> rfl

theorem runner_append_resumed (hinner : ∀ e ∈ es', e.isInner) :
    runnerFrom none (es ++ .resumed u :: es') = some u := by
  rw [runnerFrom_append, runnerFrom, List.foldl_cons]
  exact runnerFrom_of_inner hinner _

/-- An event that lets nobody go on is the doing of the task that runs. -/
theorem own_append_last {e : Event} (hdoer : ∀ r, e.doer r = r) (hrunner : runnerFrom none es = r) :
    own t (es ++ [e]) = own t es ++ if r = some t then [e] else [] := by
  rw [own, ownFrom_append, hrunner, ownFrom, hdoer]
  simp only [ownFrom]
  split <;> rfl

end Doing

/-! ## Starts -/

section Starts

variable {es : List Event} {n : TaskId} {name : String} {job : Job}

theorem mem_append_started {t : TaskId} {name' : String} {job' : Job}
    (h : .started t name' job' ∈ es ++ [.started n name job]) :
    .started t name' job' ∈ es ∨ t = n ∧ name' = name ∧ job' = job := by
  simpa using h

/-- Numbers that are taken lie below the next one, also after that one is taken. -/
theorem started_lt_succ (hknown : ∀ t name job, .started t name job ∈ es → t < n) {t : TaskId}
    {name' : String} {job' : Job} (h : .started t name' job' ∈ es ++ [.started n name job]) :
    t < n + 1 := by
  rcases mem_append_started h with h | ⟨rfl, -, -⟩
  · exact Nat.lt_succ_of_lt (hknown t name' job' h)
  · exact Nat.lt_succ_self _

/-- A task that is started under a number not taken before is started once. -/
theorem started_once_append (hknown : ∀ t name job, .started t name job ∈ es → t < n)
    (honce : ∀ t name job name' job', .started t name job ∈ es → .started t name' job' ∈ es →
      name = name' ∧ job = job') {t : TaskId} {name₁ name₂ : String} {job₁ job₂ : Job}
    (h₁ : .started t name₁ job₁ ∈ es ++ [.started n name job])
    (h₂ : .started t name₂ job₂ ∈ es ++ [.started n name job]) : name₁ = name₂ ∧ job₁ = job₂ := by
  have hnew {name : String} {job : Job} : .started n name job ∉ es := fun h =>
    Nat.lt_irrefl n (hknown n name job h)
  rcases mem_append_started h₁ with hold₁ | ⟨rfl, rfl, rfl⟩
  · rcases mem_append_started h₂ with hold₂ | ⟨rfl, -, -⟩
    · exact honce t name₁ job₁ name₂ job₂ hold₁ hold₂
    · exact absurd hold₁ hnew
  · rcases mem_append_started h₂ with hold₂ | ⟨-, rfl, rfl⟩
    · exact absurd hold₂ hnew
    · exact ⟨rfl, rfl⟩

end Starts

/-! ## Every task is traced -/

namespace Scene

/-- A task of a name is somewhere. -/
inductive Has (σ : Scene) : TaskId → String → Whereabouts → Prop
  | waits {task : Task} (h : task ∈ σ.tasks) : Has σ task.id task.name (.waits task.point)
  | runs {task : Task} {stage : Stage} (h : σ.running = some (task, stage)) :
      Has σ task.id task.name (.runs stage)
  | finished {t : TaskId} {name : String} {outcome : Except Fault TaskResult}
      (h : .ended t name outcome ∈ σ.events) : Has σ t name (.finished outcome)

/-- The doing of every task is traced, from the job it was started for. -/
structure AllTraced (w : World) (σ : Scene) : Prop where
  runner : runnerFrom none σ.events = σ.running.map fun r => r.1.id
  traced : ∀ t name place, σ.Has t name place → ∃ job, .started t name job ∈ σ.events ∧
    Traced w t name job (own t σ.events) place
  ended : ∀ t name outcome, .ended t name outcome ∈ σ.events → t < σ.next ∧
    (∀ task ∈ σ.tasks, task.id ≠ t) ∧ ∀ task stage, σ.running = some (task, stage) → task.id ≠ t
  started : ∀ t name job, .started t name job ∈ σ.events → t < σ.next
  once : ∀ t name job name' job', .started t name job ∈ σ.events →
    .started t name' job' ∈ σ.events → name = name' ∧ job = job'
  unknown : ∀ t, σ.next ≤ t → own t σ.events = []

namespace AllTraced

variable {w : World} {σ σ' : Scene} {es : List Event}

theorem initial : Scene.initial.AllTraced w where
  runner := rfl
  traced t name place h := by
    cases h with
    | waits h => cases h
    | runs h => cases h
    | finished h => cases h
  ended t name outcome h := by cases h
  started t name job h := by cases h
  once t name job name' job' h := by cases h
  unknown _ _ := rfl

/-- Some events happen, which are the doing of `u` if of anyone. -/
theorem extend (inv : σ.AllTraced w) (u : Option TaskId) (hevents : σ'.events = σ.events ++ es)
    (hstarts : ∀ t name job, .started t name job ∉ es) (hnext : σ'.next = σ.next)
    (hrunner : runnerFrom none σ'.events = σ'.running.map fun r => r.1.id)
    (hknown : ∀ t, u = some t → t < σ.next)
    (hown : ∀ t, u ≠ some t → own t σ'.events = own t σ.events)
    (hothers : ∀ t name place, u ≠ some t → σ'.Has t name place → σ.Has t name place)
    (hself : ∀ t name place, u = some t → σ'.Has t name place →
      ∃ job, .started t name job ∈ σ.events ∧ Traced w t name job (own t σ'.events) place)
    (hended : ∀ t name outcome, .ended t name outcome ∈ σ'.events → t < σ.next ∧
      (∀ task ∈ σ'.tasks, task.id ≠ t) ∧
        ∀ task stage, σ'.running = some (task, stage) → task.id ≠ t) : σ'.AllTraced w := by
  have hold {t : TaskId} {name : String} {job : Job} :
      .started t name job ∈ σ'.events ↔ .started t name job ∈ σ.events := by
    rw [hevents, List.mem_append]
    exact ⟨fun h => h.resolve_right (hstarts t name job), .inl⟩
  constructor
  case runner => exact hrunner
  case traced =>
    intro t name place hhas
    by_cases ht : u = some t
    · obtain ⟨job, hstarted, htraced⟩ := hself t name place ht hhas
      exact ⟨job, hold.mpr hstarted, htraced⟩
    · obtain ⟨job, hstarted, htraced⟩ := inv.traced t name place (hothers t name place ht hhas)
      exact ⟨job, hold.mpr hstarted, hown t ht ▸ htraced⟩
  case ended =>
    intro t name outcome h
    rw [hnext]
    exact hended t name outcome h
  case started =>
    intro t name job h
    rw [hnext]
    exact inv.started t name job (hold.mp h)
  case once =>
    intro t name job name' job' h h'
    exact inv.once t name job name' job' (hold.mp h) (hold.mp h')
  case unknown =>
    intro t ht
    rw [hnext] at ht
    have hu : u ≠ some t := fun hu => absurd (hknown t hu) (Nat.not_lt.mpr ht)
    rw [hown t hu]
    exact inv.unknown t ht

theorem not_started_of_inner (hinner : ∀ e ∈ es, e.isInner) (t : TaskId) (name : String)
    (job : Job) : .started t name job ∉ es := fun h => by cases hinner _ h

theorem ended_of_inner {events : List Event} (hinner : ∀ e ∈ es, e.isInner) {t : TaskId}
    {name : String} {outcome : Except Fault TaskResult}
    (h : .ended t name outcome ∈ events ++ es) : .ended t name outcome ∈ events := by
  rcases List.mem_append.mp h with h | h
  · exact h
  · cases hinner _ h

/-- Nobody runs, and nothing happens that is anyone's doing. -/
theorem idle (inv : σ.AllTraced w) (hidle : σ.running = none) (hidle' : σ'.running = none)
    (hevents : σ'.events = σ.events ++ es) (hinner : ∀ e ∈ es, e.isInner)
    (hnext : σ'.next = σ.next) (htasks : ∀ task' ∈ σ'.tasks, ∃ task ∈ σ.tasks,
      task'.id = task.id ∧ task'.name = task.name ∧ task'.point = task.point) :
    σ'.AllTraced w := by
  have hrunner : runnerFrom none σ.events = none := by rw [inv.runner, hidle]; rfl
  refine inv.extend none hevents (not_started_of_inner hinner) hnext ?_ nofun ?_ ?_ nofun ?_
  · rw [hevents, runner_append_inner hinner hrunner, hidle']
    rfl
  · intro t _
    rw [hevents, own_append_inner hinner hrunner, if_neg nofun, List.append_nil]
  · intro t name place _ hhas
    cases hhas with
    | waits h =>
      obtain ⟨task, htask, hid, hname, hpoint⟩ := htasks _ h
      rw [hid, hname, hpoint]
      exact .waits htask
    | runs h =>
      rw [hidle'] at h
      cases h
    | finished h => exact .finished (ended_of_inner hinner (hevents ▸ h))
  · intro t name outcome h
    obtain ⟨hknown, hothers, -⟩ := inv.ended t name outcome (ended_of_inner hinner (hevents ▸ h))
    refine ⟨hknown, ?_, ?_⟩
    · intro task' htask'
      obtain ⟨task, htask, hid, -⟩ := htasks _ htask'
      exact hid ▸ hothers task htask
    · intro task stage hrun
      rw [hidle'] at hrun
      cases hrun

theorem start (inv : σ.AllTraced w) (hidle : σ.running = none) (name : String) (job : Job) :
    AllTraced w { σ with
      tasks := σ.tasks ++ [⟨σ.next, name, .fresh job, false⟩]
      ready := σ.ready ++ [σ.next]
      next := σ.next + 1
      events := σ.events ++ [.started σ.next name job] } := by
  have hrunner : runnerFrom none σ.events = none := by rw [inv.runner, hidle]; rfl
  have hown : ∀ t, own t (σ.events ++ [.started σ.next name job]) = own t σ.events := by
    intro t
    rw [own_append_last (fun _ => rfl) hrunner, if_neg nofun, List.append_nil]
  have hended {t : TaskId} {name' : String} {outcome : Except Fault TaskResult}
      (h : .ended t name' outcome ∈ σ.events ++ [.started σ.next name job]) :
      .ended t name' outcome ∈ σ.events := by
    simpa using h
  constructor
  case runner =>
    rw [runnerFrom_append, hrunner, hidle]
    rfl
  case traced =>
    intro t name' place hhas
    rw [hown]
    have hold (h : σ.Has t name' place) : ∃ job', .started t name' job' ∈
        σ.events ++ [.started σ.next name job] ∧ Traced w t name' job' (own t σ.events) place := by
      obtain ⟨job', hstarted, htraced⟩ := inv.traced t name' place h
      exact ⟨job', List.mem_append_left _ hstarted, htraced⟩
    cases hhas with
    | waits h =>
      rcases List.mem_append.mp h with h | h
      · exact hold (.waits h)
      · rw [List.mem_singleton.mp h]
        refine ⟨job, List.mem_append_right _ (List.mem_singleton_self _), ?_⟩
        rw [inv.unknown σ.next (Nat.le_refl _)]
        exact .start
    | runs h =>
      rw [hidle] at h
      cases h
    | finished h => exact hold (.finished (hended h))
  case ended =>
    intro t name' outcome h
    obtain ⟨hknown, hothers, hrun⟩ := inv.ended t name' outcome (hended h)
    refine ⟨Nat.lt_succ_of_lt hknown, ?_, hrun⟩
    intro task htask
    rcases List.mem_append.mp htask with htask | htask
    · exact hothers task htask
    · rw [List.mem_singleton.mp htask]
      exact (Nat.ne_of_lt hknown).symm
  case started => exact fun t name' job' h => started_lt_succ inv.started h
  case once =>
    exact fun t name₁ job₁ name₂ job₂ h₁ h₂ => started_once_append inv.started inv.once h₁ h₂
  case unknown =>
    intro t ht
    rw [hown]
    exact inv.unknown t (Nat.le_of_succ_le ht)

/-- A task is let go on. -/
theorem picked {task : Task} {stage : Stage} (inv : σ.AllTraced w) (seats : σ.Seated)
    (htask : task ∈ σ.tasks) (htasks : σ'.tasks = σ.tasks.filter (·.id ≠ task.id))
    (hrun : σ'.running = some (task, stage)) (hnext : σ'.next = σ.next)
    (hevents : σ'.events = σ.events ++ .resumed task.id :: es) (hinner : ∀ e ∈ es, e.isInner)
    (htrace : ∀ job es₀, Traced w task.id task.name job es₀ (.waits task.point) →
      Traced w task.id task.name job (es₀ ++ .resumed task.id :: es) (.runs stage)) :
    σ'.AllTraced w := by
  have hended {t : TaskId} {name : String} {outcome : Except Fault TaskResult}
      (h : .ended t name outcome ∈ σ'.events) : .ended t name outcome ∈ σ.events := by
    rw [hevents, List.append_cons] at h
    have h := ended_of_inner hinner h
    simpa using h
  refine inv.extend (some task.id) hevents ?_ hnext ?_ ?_ ?_ ?_ ?_ ?_
  · intro t name job h
    rcases List.mem_cons.mp h with h | h
    · cases h
    · exact not_started_of_inner hinner t name job h
  · rw [hevents, runner_append_resumed hinner, hrun]
    rfl
  · rintro t ⟨⟩
    exact seats.known task htask
  · intro t ht
    rw [hevents, own_append_resumed hinner, if_neg (fun h => ht (congrArg some h)), List.append_nil]
  · intro t name place ht hhas
    cases hhas with
    | waits h => exact .waits (List.mem_of_mem_filter (htasks ▸ h))
    | runs h =>
      obtain ⟨rfl, rfl⟩ := Prod.mk.inj (Option.some.inj (hrun.symm.trans h))
      exact absurd rfl ht
    | finished h => exact .finished (hended h)
  · rintro t name place ⟨⟩ hhas
    rw [hevents, own_append_resumed hinner, if_pos rfl]
    generalize hid : task.id = t at hhas
    cases hhas with
    | waits h =>
      rw [htasks] at h
      exact absurd hid.symm (by simpa using (List.mem_filter.mp h).2)
    | runs h =>
      obtain ⟨rfl, rfl⟩ := Prod.mk.inj (Option.some.inj (hrun.symm.trans h))
      obtain ⟨job, hstarted, htraced⟩ := inv.traced _ _ _ (.waits htask)
      exact ⟨job, hstarted, htrace job _ htraced⟩
    | finished h => exact absurd hid ((inv.ended _ _ _ (hended h)).2.1 task htask)
  · intro t name outcome h
    obtain ⟨hknown, hothers, -⟩ := inv.ended t name outcome (hended h)
    refine ⟨hknown, ?_, ?_⟩
    · intro other hother
      exact hothers other (List.mem_of_mem_filter (htasks ▸ hother))
    · intro task' stage' hrun'
      obtain ⟨rfl, rfl⟩ := Prod.mk.inj (Option.some.inj (hrun.symm.trans hrun'))
      exact hothers task htask

/-- The running task does something. -/
theorem moved {task : Task} {stage stage' : Stage} (inv : σ.AllTraced w) (seats : σ.Seated)
    (hrun : σ.running = some (task, stage)) (htasks : σ'.tasks = σ.tasks)
    (hrun' : σ'.running = some (task, stage')) (hnext : σ'.next = σ.next)
    (hevents : σ'.events = σ.events ++ es) (hact : ∃ c, stage.Acts w task.id c es stage') :
    σ'.AllTraced w := by
  obtain ⟨c, hact⟩ := hact
  obtain ⟨hknown, hothers, -⟩ := seats.runner _ _ hrun
  have hinner := hact.inner
  have hrunner : runnerFrom none σ.events = some task.id := by rw [inv.runner, hrun]; rfl
  refine inv.extend (some task.id) hevents (not_started_of_inner hinner) hnext ?_ ?_ ?_ ?_ ?_ ?_
  · rw [hevents, runner_append_inner hinner hrunner, hrun']
    rfl
  · rintro t ⟨⟩
    exact hknown
  · intro t ht
    rw [hevents, own_append_inner hinner hrunner, if_neg ht, List.append_nil]
  · intro t name place ht hhas
    cases hhas with
    | waits h => exact .waits (htasks ▸ h)
    | runs h =>
      obtain ⟨rfl, rfl⟩ := Prod.mk.inj (Option.some.inj (hrun'.symm.trans h))
      exact absurd rfl ht
    | finished h => exact .finished (ended_of_inner hinner (hevents ▸ h))
  · rintro t name place ⟨⟩ hhas
    rw [hevents, own_append_inner hinner hrunner, if_pos rfl]
    generalize hid : task.id = t at hhas
    cases hhas with
    | waits h => exact absurd hid.symm (hothers _ (htasks ▸ h))
    | runs h =>
      obtain ⟨rfl, rfl⟩ := Prod.mk.inj (Option.some.inj (hrun'.symm.trans h))
      obtain ⟨job, hstarted, htraced⟩ := inv.traced _ _ _ (.runs hrun)
      exact ⟨job, hstarted, .act htraced hact⟩
    | finished h =>
      exact absurd hid ((inv.ended _ _ _ (ended_of_inner hinner (hevents ▸ h))).2.2 _ _ hrun)
  · intro t name outcome h
    obtain ⟨hknown, hothers, hrunning⟩ := inv.ended t name outcome (ended_of_inner hinner (hevents ▸ h))
    refine ⟨hknown, htasks ▸ hothers, ?_⟩
    intro task' stage'' h
    obtain ⟨rfl, rfl⟩ := Prod.mk.inj (Option.some.inj (hrun'.symm.trans h))
    exact hrunning _ _ hrun

/-- The running task comes to wait. -/
theorem put {task : Task} {how : Halt} {p : Point} (inv : σ.AllTraced w) (seats : σ.Seated)
    (hrun : σ.running = some (task, .halt how)) (hpoint : how.point? = some p)
    (htasks : σ'.tasks = σ.tasks ++ [{ task with point := p, cancelled := false }])
    (hrun' : σ'.running = none) (hnext : σ'.next = σ.next)
    (hevents : σ'.events = σ.events ++ [.paused task.id]) : σ'.AllTraced w := by
  obtain ⟨hknown, hothers, -⟩ := seats.runner _ _ hrun
  have hrunner : runnerFrom none σ.events = some task.id := by rw [inv.runner, hrun]; rfl
  have hended {t : TaskId} {name : String} {outcome : Except Fault TaskResult}
      (h : .ended t name outcome ∈ σ'.events) : .ended t name outcome ∈ σ.events := by
    simpa [hevents] using h
  have hcases {other : Task} (h : other ∈ σ'.tasks) :
      other ∈ σ.tasks ∨ other = { task with point := p, cancelled := false } := by
    rw [htasks] at h
    simpa using h
  refine inv.extend (some task.id) hevents (by simp) hnext ?_ ?_ ?_ ?_ ?_ ?_
  · rw [hevents, runnerFrom_append, hrun']
    rfl
  · rintro t ⟨⟩
    exact hknown
  · intro t ht
    rw [hevents, own_append_last (fun _ => rfl) hrunner, if_neg ht, List.append_nil]
  · intro t name place ht hhas
    cases hhas with
    | waits h =>
      rcases hcases h with h | rfl
      · exact .waits h
      · exact absurd rfl ht
    | runs h =>
      rw [hrun'] at h
      cases h
    | finished h => exact .finished (hended h)
  · rintro t name place ⟨⟩ hhas
    rw [hevents, own_append_last (fun _ => rfl) hrunner, if_pos rfl]
    generalize hid : task.id = t at hhas
    cases hhas with
    | waits h =>
      rcases hcases h with h | rfl
      · exact absurd hid.symm (hothers _ h)
      · obtain ⟨job, hstarted, htraced⟩ := inv.traced _ _ _ (.runs hrun)
        exact ⟨job, hstarted, .wait htraced hpoint⟩
    | runs h =>
      rw [hrun'] at h
      cases h
    | finished h => exact absurd hid ((inv.ended _ _ _ (hended h)).2.2 _ _ hrun)
  · intro t name outcome h
    obtain ⟨hknown, hothers, hrunning⟩ := inv.ended t name outcome (hended h)
    refine ⟨hknown, ?_, ?_⟩
    · intro other hother
      rcases hcases hother with hother | rfl
      · exact hothers other hother
      · exact hrunning task _ hrun
    · intro task' stage' h
      rw [hrun'] at h
      cases h

/-- The running task comes to its end. -/
theorem ends {task : Task} {outcome : Except Fault TaskResult} (inv : σ.AllTraced w)
    (seats : σ.Seated) (hrun : σ.running = some (task, .halt (.done outcome))) :
    AllTraced w { σ with
      running := none
      events := σ.events ++ [.ended task.id task.name outcome] } := by
  obtain ⟨hknown, hothers, -⟩ := seats.runner _ _ hrun
  have hrunner : runnerFrom none σ.events = some task.id := by rw [inv.runner, hrun]; rfl
  have hcases {t : TaskId} {name : String} {outcome' : Except Fault TaskResult}
      (h : .ended t name outcome' ∈ σ.events ++ [.ended task.id task.name outcome]) :
      .ended t name outcome' ∈ σ.events ∨ t = task.id ∧ name = task.name ∧ outcome' = outcome := by
    simpa using h
  refine inv.extend (some task.id) rfl (by simp) rfl ?_ ?_ ?_ ?_ ?_ ?_
  · rw [runnerFrom_append]
    rfl
  · rintro t ⟨⟩
    exact hknown
  · intro t ht
    rw [own_append_last (fun _ => rfl) hrunner, if_neg ht, List.append_nil]
  · intro t name place ht hhas
    cases hhas with
    | waits h => exact .waits h
    | runs h => cases h
    | finished h =>
      rcases hcases h with h | ⟨rfl, -, -⟩
      · exact .finished h
      · exact absurd rfl ht
  · intro t name place ht hhas
    have hid : task.id = t := Option.some.inj ht
    rw [own_append_last (fun _ => rfl) hrunner, if_pos ht]
    cases hhas with
    | waits h => exact absurd hid.symm (hothers _ h)
    | runs h => cases h
    | finished h =>
      rcases hcases h with h | ⟨rfl, rfl, rfl⟩
      · exact absurd hid ((inv.ended _ _ _ h).2.2 _ _ hrun)
      · obtain ⟨job, hstarted, htraced⟩ := inv.traced _ _ _ (.runs hrun)
        exact ⟨job, hstarted, .ends htraced⟩
  · intro t name outcome' h
    refine ⟨?_, ?_, ?_⟩
    · rcases hcases h with h | ⟨rfl, -, -⟩
      · exact (inv.ended _ _ _ h).1
      · exact hknown
    · rcases hcases h with h | ⟨rfl, -, -⟩
      · exact (inv.ended _ _ _ h).2.1
      · exact hothers
    · intro task' stage' h
      cases h

theorem step (inv : σ.AllTraced w) (orderly : σ.Orderly) (hstep : Step w σ σ') :
    σ'.AllTraced w := by
  have seats := orderly.seats
  cases hstep with
  | outside hidle hes =>
    exact inv.idle hidle hidle rfl (inner_of_asides hes.aside) rfl fun task h => ⟨task, h, rfl, rfl, rfl⟩
  | start hidle name job => exact inv.start hidle name job
  | openGate hidle g =>
    exact inv.idle hidle hidle (List.append_nil _).symm (by simp) rfl
      fun task h => ⟨task, h, rfl, rfl, rfl⟩
  | cancel hidle htask =>
    refine inv.idle hidle hidle (List.append_nil _).symm (by simp) rfl ?_
    intro task' htask'
    obtain ⟨task, htask, rfl⟩ := List.mem_map.mp htask'
    exact ⟨task, htask, by split <;> exact ⟨rfl, rfl, rfl⟩⟩
  | giveBack hidle | comeIn hidle | skip hidle =>
    exact inv.idle hidle hidle (List.append_nil _).symm (by simp) rfl
      fun task h => ⟨task, h, rfl, rfl, rfl⟩
  | resume hidle hready htask hwell hqueued =>
    exact inv.picked seats htask rfl rfl rfl rfl (by simp)
      fun job es₀ h => .resume h hqueued
  | grant hidle hready htask hwell hpoint =>
    refine inv.picked seats htask rfl rfl rfl rfl (by simp [Event.isInner]) fun job es₀ h => ?_
    rw [hpoint] at h
    exact .grant h
  | giveUp hidle hready htask =>
    exact inv.picked seats htask rfl rfl rfl rfl (by simp) fun job es₀ h => .giveUp h
  | giveUpQueue hidle hready htask =>
    exact inv.picked seats htask rfl rfl rfl rfl (by simp) fun job es₀ h => .giveUp h
  | giveUpReader hidle hready htask =>
    exact inv.picked seats htask rfl rfl rfl rfl (by simp) fun job es₀ h => .giveUp h
  | act hrun hact => exact inv.moved seats hrun rfl rfl rfl rfl ⟨_, hact⟩
  | take hrun hopen => exact inv.moved seats hrun rfl rfl rfl rfl ⟨_, .take⟩
  | @queue task purpose hrun hopen =>
    have hact : ∃ c, (Stage.ask purpose).Acts w task.id c [.asked task.id] _ := ⟨none, .queue⟩
    exact inv.moved seats hrun rfl rfl rfl rfl hact
  | release hrun hact => exact inv.moved seats hrun rfl rfl rfl rfl ⟨_, hact⟩
  | lost hrun hreleases hheld =>
    rw [orderly.exclusive.held_of_releases hrun hreleases] at hheld
    cases hheld
  | waitGate hrun => exact inv.put seats hrun rfl rfl rfl rfl rfl
  | waitQueue hrun => exact inv.put seats hrun rfl rfl rfl rfl rfl
  | waitReader hrun => exact inv.put seats hrun rfl rfl rfl rfl rfl
  | ends hrun => exact inv.ends seats hrun

end AllTraced

theorem Reachable.traced {w : World} {σ : Scene} (h : Reachable w σ) : σ.AllTraced w := by
  induction h with
  | refl => exact .initial
  | tail hbefore hstep ih => exact ih.step (Reachable.orderly hbefore) hstep

end Scene

/-! ## Nobody is lost -/

namespace Scene

variable {w : World} {σ σ' : Scene}

/-- What has happened stays. -/
theorem Step.events_append (hstep : Step w σ σ') : ∃ es, σ'.events = σ.events ++ es := by
  cases hstep with
  | openGate | cancel | giveBack | comeIn | skip => exact ⟨[], (List.append_nil _).symm⟩
  | _ => exact ⟨_, rfl⟩

/-- An event that stands among others and more is one of the former or one of the latter. -/
theorem events_split {es es' before after : List Event} {e : Event}
    (h : es ++ es' = before ++ e :: after) :
    (∃ more, es = before ++ e :: more) ∨ ∃ more, before = es ++ more ∧ es' = more ++ e :: after := by
  rcases List.append_eq_append_iff.mp h with ⟨more, hbefore, hes'⟩ | ⟨more, hes, hafter⟩
  · exact .inr ⟨more, hbefore, hes'⟩
  · cases more with
    | nil => exact .inr ⟨[], by simpa using hes.symm, hafter.symm⟩
    | cons e' more =>
      obtain ⟨rfl, -⟩ := List.cons.inj hafter
      exact .inl ⟨more, hes⟩

/-- The step in which an event happens. -/
theorem Reachable.happening (h : Reachable w σ) {before after : List Event} {e : Event}
    (hsplit : σ.events = before ++ e :: after) :
    ∃ (σ₁ σ₂ : Scene) (more more' : List Event), Reachable w σ₁ ∧ Step w σ₁ σ₂ ∧
      σ₂.events = σ₁.events ++ (more ++ e :: more') ∧ before = σ₁.events ++ more ∧
        ∃ rest, after = more' ++ rest := by
  induction h generalizing after with
  | refl => simp [initial] at hsplit
  | @tail σ σ' hbefore hstep ih =>
    obtain ⟨es, hevents⟩ := hstep.events_append
    rw [hevents] at hsplit
    rcases events_split hsplit with ⟨more, hmore⟩ | ⟨more, rfl, hes⟩
    · obtain ⟨σ₁, σ₂, more₁, more₂, hreach, hstep', hevents', hbefore', rest, rfl⟩ := ih hmore
      rw [hmore, List.append_assoc, List.cons_append] at hsplit
      have hafter := (List.cons.inj (List.append_cancel_left hsplit)).2
      exact ⟨σ₁, σ₂, more₁, more₂, hreach, hstep', hevents', hbefore', rest ++ es,
        by rw [← hafter, List.append_assoc]⟩
    · refine ⟨σ, σ', more, after, hbefore, hstep, ?_, rfl, [], (List.append_nil _).symm⟩
      rw [hevents, hes]

theorem has_of_waits {task : Task} {t : TaskId} {name : String} (h : task ∈ σ.tasks)
    (hid : task.id = t) (hname : task.name = name) : ∃ place, σ.Has t name place :=
  hid ▸ hname ▸ ⟨_, .waits h⟩

/-- A task that is picked runs, and the others wait on. -/
theorem has_of_picked {task picked : Task} {stage : Stage} (seats : σ.Seated)
    (hpicked : picked ∈ σ.tasks) (htasks : σ'.tasks = σ.tasks.filter (·.id ≠ picked.id))
    (hrun : σ'.running = some (picked, stage)) (htask : task ∈ σ.tasks) :
    ∃ place, σ'.Has task.id task.name place := by
  by_cases hid : task.id = picked.id
  · obtain rfl := seats.eq_of_id htask hpicked hid
    exact ⟨_, .runs hrun⟩
  · have hkept : task ∈ σ'.tasks := by
      rw [htasks]
      exact List.mem_filter.mpr ⟨htask, by simpa using hid⟩
    exact ⟨_, .waits hkept⟩

theorem Has.step {t : TaskId} {name : String} {place : Whereabouts} (h : σ.Has t name place)
    (seats : σ.Seated) (hstep : Step w σ σ') : ∃ place', σ'.Has t name place' := by
  cases h with
  | finished h =>
    obtain ⟨es, hes⟩ := hstep.events_append
    exact ⟨_, .finished (hes ▸ List.mem_append_left es h)⟩
  | runs hruns =>
    cases hstep with
    | outside hidle | start hidle | openGate hidle | cancel hidle | giveBack hidle | comeIn hidle
    | skip hidle | resume hidle | grant hidle | giveUp hidle | giveUpQueue hidle
    | giveUpReader hidle =>
      rw [hruns] at hidle
      cases hidle
    | act hrun | take hrun | queue hrun | release hrun | lost hrun =>
      obtain ⟨rfl, -⟩ := Prod.mk.inj (Option.some.inj (hrun.symm.trans hruns))
      exact ⟨_, .runs rfl⟩
    | waitGate hrun | waitQueue hrun | waitReader hrun =>
      obtain ⟨rfl, -⟩ := Prod.mk.inj (Option.some.inj (hrun.symm.trans hruns))
      exact has_of_waits (List.mem_append_right _ (List.mem_singleton_self _)) rfl rfl
    | ends hrun =>
      obtain ⟨rfl, -⟩ := Prod.mk.inj (Option.some.inj (hrun.symm.trans hruns))
      exact ⟨_, .finished (List.mem_append_right _ (List.mem_singleton_self _))⟩
  | @waits task htask =>
    cases hstep with
    | cancel =>
      refine has_of_waits (List.mem_map_of_mem htask) ?_ ?_
      · split <;> rfl
      · split <;> rfl
    | resume hidle hready hpicked | grant hidle hready hpicked | giveUp hidle hready hpicked
    | giveUpQueue hidle hready hpicked | giveUpReader hidle hready hpicked =>
      exact has_of_picked seats hpicked rfl rfl htask
    | start | waitGate | waitQueue | waitReader => exact ⟨_, .waits (List.mem_append_left _ htask)⟩
    | _ => exact ⟨_, .waits htask⟩

/-- Every task that was started is somewhere. -/
theorem Reachable.somewhere (h : Reachable w σ) {t : TaskId} (ht : t < σ.next) :
    ∃ name place, σ.Has t name place := by
  induction h with
  | refl => cases ht
  | @tail σ σ' hbefore hstep ih =>
    by_cases hold : t < σ.next
    · obtain ⟨name, place, hhas⟩ := ih hold
      exact ⟨name, hhas.step (Reachable.orderly hbefore).seats hstep⟩
    · cases hstep with
      | start =>
        have hnew : σ.next = t := Nat.le_antisymm (Nat.not_lt.mp hold) (Nat.lt_succ_iff.mp ht)
        exact ⟨_, has_of_waits (List.mem_append_right _ (List.mem_singleton_self _)) hnew rfl⟩
      | _ => exact absurd ht hold

end Scene

namespace Scene

/-- Every task that has done something is somewhere. -/
theorem Reachable.has_of_own {w : World} {σ : Scene} (h : Reachable w σ) {t : TaskId}
    (hown : own t σ.events ≠ []) : ∃ name place, σ.Has t name place := by
  refine h.somewhere (Nat.not_le.mp fun hnew => hown ?_)
  exact h.traced.unknown t hnew

end Scene

/-! ## Events tell the truth -/

namespace Scene

/-- The events tell the truth about the current socket. -/
theorem Reachable.truthful {w : World} {σ : Scene} (h : Reachable w σ) :
    Truthful none σ.events := by
  induction h with
  | refl => trivial
  | tail _ hstep ih =>
    have hmore {es : List Event} (hes : Truthful (session _) es) := truthful_append.mpr ⟨ih, hes⟩
    cases hstep with
    | outside hidle hes => exact hmore (truthful_of_asides hes.aside _)
    | openGate | cancel | giveBack | comeIn | skip => exact ih
    | grant => exact hmore ⟨trivial, rfl, trivial⟩
    | act hrun hact | release hrun hact => exact hmore hact.truthful
    | take => exact hmore ⟨trivial, rfl, trivial⟩
    | lost => exact hmore trivial
    | _ => exact hmore ⟨trivial, trivial⟩

theorem signed_of_inner {r : Option TaskId} {es : List Event} (hinner : ∀ e ∈ es, e.isInner)
    (hsigner : ∀ e ∈ es, ∀ u, e.signer? = some u → r = some u) : Signed r es := by
  induction es with
  | nil => trivial
  | cons e es ih =>
    obtain ⟨he, hes⟩ := List.forall_mem_cons.mp hinner
    obtain ⟨hu, hus⟩ := List.forall_mem_cons.mp hsigner
    refine ⟨fun u h => ?_, ?_⟩
    · rw [Event.doer_of_isInner he]
      exact hu u h
    · rw [Event.runnerAfter_of_isInner he]
      exact ih hes hus

/-- Every event that names a task is its doing. -/
theorem Reachable.signed {w : World} {σ : Scene} (h : Reachable w σ) : Signed none σ.events := by
  induction h with
  | refl => trivial
  | @tail σ σ' hbefore hstep ih =>
    have hrunner := (Reachable.traced hbefore).runner
    have hmore {es : List Event} (hes : Signed (runnerFrom none σ.events) es) :
        Signed none (σ.events ++ es) := signed_append.mpr ⟨ih, hes⟩
    have hacts {task : Task} {stage stage' : Stage} {es : List Event}
        (hrun : σ.running = some (task, stage)) (hact : stage.Acts w task.id σ.session es stage') :
        Signed none (σ.events ++ es) := by
      refine hmore (signed_of_inner hact.inner fun e he u hu => ?_)
      rw [hrunner, hrun, hact.signer e he u hu]
      rfl
    cases hstep with
    | outside hidle hes =>
      refine hmore (signed_of_inner (inner_of_asides hes.aside) fun e he u hu => ?_)
      rw [unsigned_of_asides hes.aside e he] at hu
      cases hu
    | openGate | cancel | giveBack | comeIn | skip => exact ih
    | grant => exact hmore ⟨nofun, fun t ht => ht, trivial⟩
    | act hrun hact | release hrun hact => exact hacts hrun hact
    | take hrun => exact hacts hrun .take
    | queue hrun => exact hacts hrun .queue
    | lost => exact hmore trivial
    | _ => exact hmore ⟨nofun, trivial⟩

end Scene

end PlotStream
