import BootChain.Proofs.Matrix.Cancellation
import BootChain.Proofs.Matrix.Moves
import BootChain.Proofs.Matrix.Schedule
import BootChain.Proofs.Report.Restriction

namespace BootChain

/-- The trial of the job is under way. -/
def Phase.isRunning : Phase → Bool
  | running _ => true
  | _ => false

namespace Matrix

variable {ρ : Type} {settings : Settings} {runner : Stage → Fixture → Runner ρ}
  {world left : World ρ} {task : Task} {phase : Phase} {permitFree : Bool}

/-- A job that holds a permit has held it before, or there was one free. -/
theorem Advance.holdsPermit_or (hadvance : Advance settings runner permitFree world task phase left)
    (hholds : phase.holdsPermit = true) : task.phase.holdsPermit = true ∨ permitFree = true := by
  cases hadvance with
  | enter _ hfree => exact .inr hfree
  | begin hphase =>
    rw [hphase]
    exact .inl rfl
  | ask hphase =>
    rw [hphase]
    exact .inl rfl
  | _ => cases hholds

theorem Advance.countP_holdsPermit_le
    (hadvance : Advance settings runner permitFree world task phase left) {jobs : Nat}
    {before after : List Task}
    (hfree : permitFree = true → (before ++ task :: after).countP (·.phase.holdsPermit) < jobs)
    (hle : (before ++ task :: after).countP (·.phase.holdsPermit) ≤ jobs) :
    (before ++ { task with phase } :: after).countP (·.phase.holdsPermit) ≤ jobs := by
  have hholds := hadvance.holdsPermit_or
  rw [List.countP_append, List.countP_cons] at hfree hle ⊢
  dsimp only
  cases hphase : phase.holdsPermit with
  | false =>
    rw [if_neg Bool.false_ne_true]
    omega
  | true =>
    rw [if_pos rfl]
    rcases hholds hphase with hbefore | hpermit
    · rwa [if_pos hbefore] at hle
    · have hlt := hfree hpermit
      omega

/-- No more permits are held than there are, at any time. -/
theorem countP_holdsPermit_follow (matrix : Matrix) (runner : Stage → Fixture → Runner ρ)
    (world : World ρ) (schedule : List Action) :
    (matrix.follow runner world schedule).tasks.countP (·.phase.holdsPermit) ≤ matrix.jobs := by
  refine follow_induction
    (motive := fun run => run.tasks.countP (·.phase.holdsPermit) ≤ matrix.jobs) matrix runner world
    schedule ?_ fun run action hle => ?_
  · have hnone : (matrix.start world).tasks.countP (·.phase.holdsPermit) = 0 := by
      rw [start, List.countP_map]
      exact List.countP_eq_zero.2 fun _ _ => Bool.false_ne_true
    rw [hnone]
    exact Nat.zero_le _
  · obtain hact | hact | ⟨before, task, after, phase, left, htasks, hadvance, hact⟩ :=
      act_cases matrix runner run action
    · rwa [hact]
    · rwa [hact]
    · rw [hact]
      rw [htasks] at hle
      refine hadvance.countP_holdsPermit_le (fun hfree => ?_) hle
      rw [← htasks]
      exact of_decide_eq_true hfree

theorem countP_isRunning_le (tasks : List Task) :
    tasks.countP (·.phase.isRunning) ≤ tasks.countP (·.phase.holdsPermit) := by
  refine List.countP_mono_left fun task _ hrunning => ?_
  cases hphase : task.phase with
  | running rest => rfl
  | _ => simp [hphase, Phase.isRunning] at hrunning

variable {matrix : Matrix} {run : Run ρ} {index : Nat}

/-- What the job with some number has come to, once it is over. -/
def outcomeAt? (index : Nat) (run : Run ρ) : Option Outcome :=
  run.tasks[index]?.bind (·.phase.outcome?)

/-- True of an action by which the job with some number comes to its end. -/
def ends (matrix : Matrix) (runner : Stage → Fixture → Runner ρ) (index : Nat) (run : Run ρ)
    (action : Action) : Bool :=
  (outcomeAt? index run).isNone && (outcomeAt? index (matrix.act runner run action)).isSome

theorem Fate.outcome?_eq {exchange : Option (Exchange (World ρ))} {outcome : Outcome}
    (hfate : Fate settings runner world task phase exchange)
    (houtcome : task.phase.outcome? = some outcome) : phase.outcome? = some outcome := by
  cases hfate with
  | unmoved => exact houtcome
  | answered hphase => simp [hphase, Phase.outcome?] at houtcome
  | quiet hquiet =>
    cases hquiet with
    | join hphase => rwa [hphase] at houtcome
    | _ hphase => simp [hphase, Phase.outcome?] at houtcome

/-- What a job has come to stays as it is. -/
theorem outcomeAt?_act {outcome : Outcome} (houtcome : outcomeAt? index run = some outcome)
    (action : Action) : outcomeAt? index (matrix.act runner run action) = some outcome := by
  obtain ⟨task, hindex, hended⟩ := Option.bind_eq_some_iff.1 houtcome
  obtain ⟨phase, hafter, hfate⟩ := exists_fate matrix runner hindex action
  rw [outcomeAt?, hafter, Option.bind_some]
  exact hfate.outcome?_eq hended

theorem outcomeAt?_foldl {outcome : Outcome} (houtcome : outcomeAt? index run = some outcome)
    (schedule : List Action) :
    outcomeAt? index (schedule.foldl (matrix.act runner) run) = some outcome := by
  induction schedule generalizing run with
  | nil => exact houtcome
  | cons action rest ih => exact ih (outcomeAt?_act houtcome action)

/-- A job ends once if it comes to an end at all. -/
theorem countAlong_ends (matrix : Matrix) (runner : Stage → Fixture → Runner ρ) (index : Nat)
    (run : Run ρ) (schedule : List Action) :
    (outcomeAt? index run).isSome.toNat +
        matrix.countAlong runner (matrix.ends runner index) run schedule =
      (outcomeAt? index (schedule.foldl (matrix.act runner) run)).isSome.toNat := by
  induction schedule generalizing run with
  | nil => rfl
  | cons action rest ih =>
    rw [countAlong, List.foldl_cons, ← ih, ends]
    cases houtcome : outcomeAt? index run with
    | none =>
      cases (outcomeAt? index (matrix.act runner run action)).isSome <;> simp
    | some outcome =>
      rw [outcomeAt?_act houtcome action]
      simp

/-- What holds of a run at any point of any schedule, and of how it can go on from there. -/
structure Supervised (bound : Nat) (pairs : List (Stage × Fixture)) (matrix : Matrix)
    (runner : Stage → Fixture → Runner ρ) (world : World ρ) (schedule : List Action) : Prop where
  permits_le :
    (matrix.follow runner world schedule).tasks.countP (·.phase.holdsPermit) ≤ bound
  running_le : (matrix.follow runner world schedule).tasks.countP (·.phase.isRunning) ≤ bound
  /-- There is one job for each pair. -/
  pairs_eq : (matrix.follow runner world schedule).tasks.map
    (fun task => (task.stage, task.fixture)) = pairs
  /-- A job has ended once if it has ended, and not at all otherwise. -/
  endings_eq : ∀ index, matrix.countAlong runner (matrix.ends runner index) (matrix.start world)
    schedule = (outcomeAt? index (matrix.follow runner world schedule)).isSome.toNat
  outcome_kept : ∀ later index outcome,
    outcomeAt? index (matrix.follow runner world schedule) = some outcome →
      outcomeAt? index (matrix.follow runner world (schedule ++ later)) = some outcome
  cancelled_kept : ∀ later, (matrix.follow runner world schedule).world.cancelled = true →
    (matrix.follow runner world (schedule ++ later)).world.cancelled = true
  /-- Once the flag is raised, no trial is started. -/
  queued : ∀ later (index : Nat) (task : Task),
    (matrix.follow runner world schedule).world.cancelled = true →
    (matrix.follow runner world schedule).tasks[index]? = some task →
    task.phase.isQueued = true →
      ∃ phase, (matrix.follow runner world (schedule ++ later)).tasks[index]? =
        some { task with phase } ∧ (phase.isQueued = true ∨ phase.outcome? = some .notStarted)
  /-- Each call of a trial comes right after a look that found the flag lowered. -/
  looked : ∀ index < pairs.length, ∀ before command limitMs answer called after,
    matrix.exchanges runner index (matrix.start world) schedule =
        before ++ ⟨.call command limitMs, answer, called⟩ :: after →
      ∃ seen : World ρ, before.getLast? = some ⟨.isCancelled, false, seen⟩ ∧ seen.cancelled = false
  /-- Once a trial has seen the flag, it calls nothing any more, and it is cancelled at the step that
      it has not begun, unless it breaks down. -/
  stopped : ∀ (index : Nat) (task : Task) before seen after,
    (matrix.follow runner world schedule).tasks[index]? = some task →
    matrix.exchanges runner index (matrix.start world) schedule =
        before ++ ⟨.isCancelled, true, seen⟩ :: after →
      seen.cancelled = true ∧ Trial.attempts after = [] ∧
        ∀ outcome, task.phase.outcome? = some outcome → outcome = .brokeDown ∨
          ∃ trial planned, outcome = .completed trial ∧
            ((Trial.Pair.of matrix.settings task.stage task.fixture).plan
              matrix.settings)[(Trial.attempts before).length]? = some planned ∧
            trial.failure = some ⟨planned.step, .cancelled, planned.command.line, ""⟩ ∧
            trial.steps = Trial.recordsOf ((Trial.Pair.of matrix.settings task.stage
              task.fixture).plan matrix.settings) (Trial.attempts before)
  /-- Once the flag is raised, a job is done with at most the call that it is just making. -/
  attempts_le : ∀ later (index : Nat) (task : Task),
    (matrix.follow runner world schedule).world.cancelled = true →
    (matrix.follow runner world schedule).tasks[index]? = some task →
      (Trial.attempts (matrix.exchanges runner index (matrix.follow runner world schedule)
        later)).length ≤ task.phase.isCalling.toNat
  /-- As long as the run is not over, some job can go on. -/
  goes_on : (matrix.follow runner world schedule).isOver = false → ∃ index move,
    move ≠ .breakDown ∧
      matrix.isOpen runner (matrix.follow runner world schedule) (.move index move) = true
  /-- There are not more moves than a trial can make, each pair taken by itself. -/
  moves_le : matrix.countAlong runner (matrix.isOpen runner) (matrix.start world) schedule ≤
    pairs.length * (Trial.mostRequests + 4)
  /-- Whoever lets some job go on as long as the run is not over brings it to its end. -/
  comes_to_end : ∀ choose : Run ρ → Action,
    (∀ run, run.isOver = false → matrix.isOpen runner run (choose run) = true) →
      ((fun run => matrix.act runner run (choose run))^[pairs.length *
        (Trial.mostRequests + 4)] (matrix.follow runner world schedule)).isOver = true
  /-- In the end each job has been handed in, and was left out only if the run was cancelled. -/
  all_joined : (matrix.follow runner world schedule).isOver = true →
    ∀ task ∈ (matrix.follow runner world schedule).tasks, ∃ outcome,
      task.phase = .joined outcome ∧
        (outcome = .notStarted → (matrix.follow runner world schedule).world.cancelled = true)

/-- Each selected compiler that is there is paired with each selected fixture. -/
theorem pairs_select_eq (settings : Settings) (jobs : Nat) (chain : Chain)
    (fixtures : List Fixture) (selection : Selection) :
    (select settings jobs chain fixtures selection).pairs =
      (chain.available.filter fun stage => selection.selectsGeneration stage.generation).flatMap
        fun stage => (fixtures.filter fun fixture => selection.selects fixture.id).map
          fun fixture => (stage, fixture) := by
  rw [pairs, select, Selection.available_chain, Selection.fixturesOf]

/-- A run has a job for each selected compiler that is there and each selected fixture. It keeps to
    its permits, ends each of its jobs once, heeds its cancellation and comes to an end, whatever
    happens in whatever order. -/
theorem supervised_follow (settings : Settings) (jobs : Nat) (chain : Chain)
    (fixtures : List Fixture) (selection : Selection) (runner : Stage → Fixture → Runner ρ)
    (world : World ρ) (schedule : List Action) :
    Supervised (max jobs 1)
      ((chain.available.filter fun stage => selection.selectsGeneration stage.generation).flatMap
        fun stage => (fixtures.filter fun fixture => selection.selects fixture.id).map
          fun fixture => (stage, fixture))
      (select settings jobs chain fixtures selection) runner world schedule := by
  rw [← pairs_select_eq settings jobs]
  generalize hmatrix : select settings jobs chain fixtures selection = matrix
  have hbound : max jobs 1 = matrix.jobs := by rw [← hmatrix, select]
  have hjobs : 0 < matrix.jobs := by omega
  have hpermits := countP_holdsPermit_follow matrix runner world schedule
  have hsound := sound_follow matrix runner world schedule
  rw [hbound]
  refine ⟨hpermits, (countP_isRunning_le _).trans hpermits, hsound.pairs_eq, fun index => ?_,
    fun later index outcome houtcome => ?_, fun later hcancelled => ?_,
    fun later index task hcancelled hindex hqueued => ?_,
    fun index hindex before command limitMs answer called after heq => ?_,
    fun index task before seen after hindex heq => ⟨?_, ?_, fun outcome houtcome => ?_⟩,
    fun later index task hcancelled hindex => ?_, exists_isOpen runner hjobs,
    countAlong_isOpen_le matrix runner world schedule,
    fun choose hchoose => isOver_iterate hjobs hchoose fun later => ?_,
    fun hover task htask => ?_⟩
  · have hstart : outcomeAt? index (matrix.start world) = none := by
      rw [outcomeAt?, start, List.getElem?_map]
      cases matrix.pairs[index]? <;> rfl
    have hends := countAlong_ends matrix runner index (matrix.start world) schedule
    rwa [hstart, Option.isSome_none, Bool.toNat_false, Nat.zero_add] at hends
  · rw [follow_append]
    exact outcomeAt?_foldl houtcome later
  · rw [follow_append]
    exact cancelled_foldl hcancelled later
  · rw [follow_append]
    exact queued_of_cancelled hindex hcancelled hqueued later
  · obtain ⟨seen, hlast⟩ :=
      (heeds_follow matrix runner world schedule hindex).looked _ _ _ _ _ _ heq
    have hmem := heq ▸ List.mem_append_left _ (List.mem_of_getLast? hlast)
    exact ⟨seen, hlast, (look_eq_cancelled hmem).symm⟩
  · exact (look_eq_cancelled (heq ▸ List.mem_append_cons_self)).symm
  · have hlt := (List.getElem?_eq_some_iff.1 hindex).1
    rw [length_tasks_follow] at hlt
    exact (heeds_follow matrix runner world schedule hlt).idle _ _ _ heq
  · exact stopped_follow matrix runner world schedule hindex heq houtcome
  · exact attempts_of_cancelled matrix runner world schedule later hindex hcancelled
  · have hmoves := countAlong_isOpen_le matrix runner world (schedule ++ later)
    rw [countAlong_append] at hmoves
    exact (Nat.le_add_left _ _).trans hmoves
  · have hjoined := List.all_eq_true.1 hover task htask
    cases hphase : task.phase with
    | joined outcome =>
      refine ⟨outcome, rfl, fun hnotStarted => ?_⟩
      refine hsound.cancelled_of_notStarted task htask ?_
      rw [hphase, hnotStarted]
      rfl
    | _ => simp [hphase, Phase.joined?] at hjoined

end Matrix

end BootChain
