import BootChain.Proofs.Matrix.History

namespace BootChain

namespace Phase

/-- The trial of the job has not been started, and still may be. -/
def isQueued : Phase → Bool
  | waiting => true
  | admitted => true
  | _ => false

/-- The next thing that the job does is to call a program. -/
def isCalling : Phase → Bool
  | running (.ask (.call _ _) _) => true
  | _ => false

end Phase

namespace Matrix

variable {ρ : Type} {settings : Settings} {matrix : Matrix}
  {runner : Stage → Fixture → Runner ρ} {run : Run ρ} {index : Nat} {task : Task} {phase : Phase}

/-- Once the flag is raised, a job whose trial has not been started asks for nothing any more, and
    one whose trial has been started goes on with the request that it is about to make. -/
theorem exchanges_of_cancelled (hindex : run.tasks[index]? = some task)
    (hcancelled : run.world.cancelled = true) (schedule : List Action) :
    matrix.exchanges runner index run schedule = [] ∨
      ∃ request next answer after later, task.phase = .running (.ask request next) ∧
        matrix.exchanges runner index run schedule = ⟨request, answer, after⟩ :: later := by
  induction schedule generalizing run task with
  | nil => exact .inl rfl
  | cons action rest ih =>
    obtain ⟨phase, hafter, hfate⟩ := exists_fate matrix runner hindex action
    have hlater := ih hafter (cancelled_act hcancelled action)
    rw [exchanges]
    generalize exchange? runner index run action = exchange at hfate
    cases hfate with
    | unmoved => exact hlater
    | answered hphase => exact .inr ⟨_, _, _, _, _, hphase, rfl⟩
    | quiet hquiet =>
      refine .inl (hlater.resolve_right ?_)
      rintro ⟨request, next, answer, seen, others, hrunning, -⟩
      cases hquiet with
      | begin hphase hgoing => cases hgoing.symm.trans hcancelled
      | _ => cases hrunning

/-- Once the flag is raised, a job whose trial has not been started will not start it. -/
theorem queued_of_cancelled (hindex : run.tasks[index]? = some task)
    (hcancelled : run.world.cancelled = true) (hqueued : task.phase.isQueued = true)
    (schedule : List Action) :
    ∃ phase, (schedule.foldl (matrix.act runner) run).tasks[index]? = some { task with phase } ∧
      (phase.isQueued = true ∨ phase.outcome? = some .notStarted) := by
  obtain ⟨phase, hafter, -, hphase⟩ := foldl_act_induction
    (motive := fun run _ phase => run.world.cancelled = true ∧
      (phase.isQueued = true ∨ phase.outcome? = some .notStarted)) matrix runner schedule hindex []
    ⟨hcancelled, .inl hqueued⟩ fun run action _ before after exchange hfate hbefore => by
      obtain ⟨hraised, hbefore⟩ := hbefore
      refine ⟨cancelled_act hraised action, ?_⟩
      cases hfate with
      | unmoved => exact hbefore
      | answered hphase => simp_all [Phase.isQueued, Phase.outcome?]
      | quiet hquiet =>
        cases hquiet with
        | begin hphase hgoing => cases hgoing.symm.trans hraised
        | enter hphase => exact .inl rfl
        | giveUp hphase => exact .inr rfl
        | turnBack hphase => exact .inr rfl
        | _ hphase => simp_all [Phase.isQueued, Phase.outcome?]
  exact ⟨phase, hafter, hphase⟩

theorem heeds_of_reached {σ : Type} {stage : Stage} {fixture : Fixture}
    {found : List (Exchange σ)}
    (hreached : phase.Reached (Trial.perform settings stage fixture) found) :
    Trial.Heeds found := by
  have houtcome : ∀ outcome : Outcome,
      outcome.Reached (Trial.perform settings stage fixture) found → Trial.Heeds found := by
    intro outcome hreached
    cases outcome with
    | completed trial => exact Trial.heeds_of_yields hreached
    | notStarted =>
      cases (hreached : found = [])
      exact .of_aside Trial.aside_nil
    | brokeDown =>
      obtain ⟨rest, halong⟩ := hreached
      exact Trial.heeds_of_along halong
  cases phase with
  | running rest => exact Trial.heeds_of_along hreached
  | ended outcome => exact houtcome outcome hreached
  | joined outcome => exact houtcome outcome hreached
  | _ =>
    cases (hreached : found = [])
    exact .of_aside Trial.aside_nil

/-- Each job heeds the cancellation, however far it has come. -/
theorem heeds_follow (matrix : Matrix) (runner : Stage → Fixture → Runner ρ) (world : World ρ)
    (schedule : List Action) (hindex : index < matrix.pairs.length) :
    Trial.Heeds (matrix.exchanges runner index (matrix.start world) schedule) := by
  rw [← length_tasks_follow matrix runner world schedule] at hindex
  exact heeds_of_reached
    (reached_follow matrix runner world schedule (List.getElem?_eq_getElem hindex))

/-- Once the flag is raised, no job calls a program but the one that it is just calling. -/
theorem attempts_of_cancelled (matrix : Matrix) (runner : Stage → Fixture → Runner ρ)
    (world : World ρ) (schedule later : List Action)
    (hindex : (matrix.follow runner world schedule).tasks[index]? = some task)
    (hcancelled : (matrix.follow runner world schedule).world.cancelled = true) :
    (Trial.attempts (matrix.exchanges runner index (matrix.follow runner world schedule)
      later)).length ≤ task.phase.isCalling.toNat := by
  have hheeds : Trial.Heeds (matrix.exchanges runner index (matrix.start world)
      (schedule ++ later)) := by
    apply heeds_follow
    rw [← length_tasks_follow matrix runner world schedule]
    exact (List.getElem?_eq_some_iff.1 hindex).1
  rw [exchanges_append] at hheeds
  have hlooks : ∀ seen, ⟨.isCancelled, false, seen⟩ ∉
      matrix.exchanges runner index (matrix.follow runner world schedule) later :=
    fun seen hmem => Bool.false_ne_true (look_of_cancelled hcancelled hmem)
  obtain hnone | ⟨request, next, answer, after, others, hphase, hfound⟩ :=
    exchanges_of_cancelled hindex hcancelled later
  · rw [hnone]
    exact Nat.zero_le _
  · change Trial.Heeds (_ ++ matrix.exchanges runner index (matrix.follow runner world schedule)
      later) at hheeds
    rw [hfound] at hheeds hlooks ⊢
    -- a later call would come right after a look that did not see the flag
    have hothers : Trial.attempts others = [] := by
      by_contra hcalls
      obtain ⟨command, limitMs, called, seen, hmem⟩ := Trial.exists_call_of_attempts_ne_nil hcalls
      obtain ⟨before, rest, rfl⟩ := List.append_of_mem hmem
      obtain ⟨looked, hlast⟩ := hheeds.looked
        (matrix.exchanges runner index (matrix.start world) schedule ++
          ⟨request, answer, after⟩ :: before) command limitMs called seen rest (by simp)
      rw [List.getLast?_append_of_ne_nil _ (List.cons_ne_nil _ _)] at hlast
      have hlook := List.mem_of_getLast? hlast
      refine hlooks looked ?_
      rw [← List.cons_append]
      exact List.mem_append_left _ hlook
    rw [← List.singleton_append, Trial.attempts_append, hothers, List.append_nil, hphase]
    cases request <;> exact Nat.le_refl _

/-- A trial that has seen the flag calls nothing any more, and is cancelled at the step that it has
    not begun, unless it breaks down. -/
theorem stopped_follow (matrix : Matrix) (runner : Stage → Fixture → Runner ρ) (world : World ρ)
    (schedule : List Action) {before after : List (Exchange (World ρ))} {seen : World ρ}
    {outcome : Outcome}
    (hindex : (matrix.follow runner world schedule).tasks[index]? = some task)
    (heq : matrix.exchanges runner index (matrix.start world) schedule =
      before ++ ⟨.isCancelled, true, seen⟩ :: after)
    (houtcome : task.phase.outcome? = some outcome) :
    outcome = .brokeDown ∨ ∃ trial planned, outcome = .completed trial ∧
      ((Trial.Pair.of matrix.settings task.stage task.fixture).plan
        matrix.settings)[(Trial.attempts before).length]? = some planned ∧
      trial.failure = some ⟨planned.step, .cancelled, planned.command.line, ""⟩ ∧
      trial.steps = Trial.recordsOf ((Trial.Pair.of matrix.settings task.stage
        task.fixture).plan matrix.settings) (Trial.attempts before) := by
  have hreached := (reached_follow matrix runner world schedule hindex).outcome houtcome
  rw [heq] at hreached
  cases outcome with
  | completed trial =>
    obtain ⟨planned, hplanned, hfailure, hsteps⟩ := Trial.of_seen hreached rfl
    exact .inr ⟨trial, planned, rfl, hplanned, hfailure, hsteps⟩
  | notStarted => exact absurd hreached (by simp [Outcome.Reached])
  | brokeDown => exact .inl rfl

end Matrix

end BootChain
