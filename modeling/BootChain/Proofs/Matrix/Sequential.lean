import BootChain.Matrix.Schedule

namespace BootChain.Matrix

variable {ρ : Type} {matrix : Matrix} {runner : Stage → Fixture → Runner ρ}
  {settled later : List Task} {task : Task} {world left : World ρ} {arrivals : List Arrival}
  {phase : Phase}

theorem act_move {move : Move} (hphase : phase.joined? = none)
    (hadvance : advance? matrix.settings runner
      ((⟨settled ++ task :: later, world, arrivals⟩ : Run ρ).permitFree matrix.jobs) world task
      move = some (phase, left)) :
    matrix.act runner ⟨settled ++ task :: later, world, arrivals⟩ (.move settled.length move) =
      ⟨settled ++ { task with phase } :: later, left, arrivals⟩ := by
  simp [act, hadvance, hphase]

theorem act_enter {stage : Stage} {fixture : Fixture}
    (hfree : (⟨settled ++ ⟨stage, fixture, .waiting⟩ :: later, world, arrivals⟩ : Run ρ).permitFree
      matrix.jobs = true) :
    matrix.act runner ⟨settled ++ ⟨stage, fixture, .waiting⟩ :: later, world, arrivals⟩
        (.move settled.length .enter) =
      ⟨settled ++ ⟨stage, fixture, .admitted⟩ :: later, world, arrivals⟩ :=
  act_move rfl (by simp [advance?, hfree])

theorem act_giveUp {stage : Stage} {fixture : Fixture} (hcancelled : world.cancelled = true) :
    matrix.act runner ⟨settled ++ ⟨stage, fixture, .waiting⟩ :: later, world, arrivals⟩
        (.move settled.length .giveUp) =
      ⟨settled ++ ⟨stage, fixture, .ended .notStarted⟩ :: later, world, arrivals⟩ :=
  act_move rfl (by simp [advance?, hcancelled])

theorem act_begin {stage : Stage} {fixture : Fixture} (hgoing : world.cancelled = false) :
    matrix.act runner ⟨settled ++ ⟨stage, fixture, .admitted⟩ :: later, world, arrivals⟩
        (.move settled.length .step) =
      ⟨settled ++ ⟨stage, fixture,
          .running (Trial.perform matrix.settings stage fixture)⟩ :: later, world, arrivals⟩ :=
  act_move rfl (by simp [advance?, hgoing])

theorem act_join {outcome : Outcome} (hphase : task.phase = .ended outcome) :
    matrix.act runner ⟨settled ++ task :: later, world, arrivals⟩ (.move settled.length .join) =
      ⟨settled ++ { task with phase := .joined outcome } :: later, world,
        arrivals ++ [arrival task.stage task.fixture outcome]⟩ := by
  simp [act, advance?, hphase, Phase.joined?]

variable (matrix runner) (settled later : List Task) (world : World ρ) (arrivals : List Arrival)

/-- Left alone, a job that runs comes to the end that it comes to with nothing in between. -/
theorem exists_steps (job : Job Trial) (stage : Stage) (fixture : Fixture) :
    ∃ schedule : List Action,
      schedule.foldl (matrix.act runner)
          ⟨settled ++ ⟨stage, fixture, .running job⟩ :: later, world, arrivals⟩ =
        ⟨settled ++ ⟨stage, fixture,
            .ended (.completed (job.run (World.answer (runner stage fixture)) world).1)⟩ :: later,
          (job.run (World.answer (runner stage fixture)) world).2, arrivals⟩ := by
  induction job generalizing world with
  | done trial => exact ⟨[.move settled.length .step], act_move rfl rfl⟩
  | ask request next ih =>
    obtain ⟨schedule, hschedule⟩ := ih (World.answer (runner stage fixture) request world).1
      (World.answer (runner stage fixture) request world).2
    refine ⟨.move settled.length .step :: schedule, ?_⟩
    rw [List.foldl_cons, act_move rfl rfl]
    exact hschedule

/-- A job that nothing else competes with goes from waiting to being handed in. -/
theorem exists_schedule_performOne (stage : Stage) (fixture : Fixture)
    (hfree : (⟨settled ++ ⟨stage, fixture, .waiting⟩ :: later, world, arrivals⟩ : Run ρ).permitFree
      matrix.jobs = true) :
    ∃ schedule : List Action,
      schedule.foldl (matrix.act runner)
          ⟨settled ++ ⟨stage, fixture, .waiting⟩ :: later, world, arrivals⟩ =
        ⟨settled ++ ⟨stage, fixture,
            .joined (performOne matrix.settings runner stage fixture world).1⟩ :: later,
          (performOne matrix.settings runner stage fixture world).2,
          arrivals ++
            [arrival stage fixture (performOne matrix.settings runner stage fixture world).1]⟩ := by
  cases hcancelled : world.cancelled with
  | true =>
    refine ⟨[.move settled.length .giveUp, .move settled.length .join], ?_⟩
    rw [List.foldl_cons, act_giveUp hcancelled, List.foldl_cons, act_join rfl]
    simp [performOne, hcancelled]
  | false =>
    obtain ⟨steps, hsteps⟩ := exists_steps matrix runner settled later world arrivals
      (Trial.perform matrix.settings stage fixture) stage fixture
    refine ⟨.move settled.length .enter :: .move settled.length .step ::
      (steps ++ [.move settled.length .join]), ?_⟩
    rw [List.foldl_cons, act_enter hfree, List.foldl_cons, act_begin hcancelled, List.foldl_append,
      hsteps, List.foldl_cons, act_join rfl]
    simp [performOne, hcancelled]

theorem permitFree_of_settled (hjobs : 0 < matrix.jobs)
    (hsettled : ∀ task ∈ settled, task.phase.joined?.isSome) (stage : Stage) (fixture : Fixture)
    (rest : List (Stage × Fixture)) :
    (⟨settled ++ ⟨stage, fixture, .waiting⟩ :: rest.map Task.ofPair, world, arrivals⟩ :
      Run ρ).permitFree matrix.jobs = true := by
  have hnone : settled.countP (·.phase.holdsPermit) = 0 := by
    rw [List.countP_eq_zero]
    intro task htask
    cases hphase : task.phase with
    | joined outcome => exact Bool.false_ne_true
    | _ => simpa [hphase, Phase.joined?] using hsettled task htask
  have hrest : (rest.map Task.ofPair).countP (·.phase.holdsPermit) = 0 := by
    rw [List.countP_map]
    exact List.countP_eq_zero.2 fun _ _ => Bool.false_ne_true
  rw [Run.permitFree, decide_eq_true_iff, List.countP_append, hnone,
    List.countP_cons_of_neg (by exact Bool.false_ne_true), hrest]
  exact hjobs

/-- Performing the trials of some pairs one after the other is one of the ways in which the jobs of
    these pairs can go. -/
theorem exists_schedule_performAll (hjobs : 0 < matrix.jobs) (pairs : List (Stage × Fixture))
    (hsettled : ∀ task ∈ settled, task.phase.joined?.isSome) :
    ∃ (schedule : List Action) (tasks : List Task), (∀ task ∈ tasks, task.phase.joined?.isSome) ∧
      schedule.foldl (matrix.act runner) ⟨settled ++ pairs.map Task.ofPair, world, arrivals⟩ =
        ⟨tasks, (performAll matrix.settings runner pairs world).2,
          arrivals ++ (performAll matrix.settings runner pairs world).1⟩ := by
  -- the first pair is settled in each turn, so that the settled jobs grow with the induction
  induction pairs generalizing settled world arrivals with
  | nil => exact ⟨[], settled, hsettled, by simp [performAll]⟩
  | cons pair rest ih =>
    obtain ⟨stage, fixture⟩ := pair
    obtain ⟨first, hfirst⟩ := exists_schedule_performOne matrix runner settled
      (rest.map Task.ofPair) world arrivals stage fixture
      (permitFree_of_settled matrix settled world arrivals hjobs hsettled stage fixture rest)
    let outcome := (performOne matrix.settings runner stage fixture world).1
    have hjoined : ∀ task ∈ settled ++ [(⟨stage, fixture, .joined outcome⟩ : Task)],
        task.phase.joined?.isSome := by
      intro task htask
      rcases List.mem_append.1 htask with htask | htask
      · exact hsettled task htask
      · cases List.mem_singleton.1 htask
        rfl
    obtain ⟨others, tasks, htasks, hothers⟩ := ih (settled ++ [⟨stage, fixture, .joined outcome⟩])
      (performOne matrix.settings runner stage fixture world).2
      (arrivals ++ [arrival stage fixture outcome]) hjoined
    refine ⟨first ++ others, tasks, htasks, ?_⟩
    rw [List.append_assoc, List.singleton_append] at hothers
    rw [List.foldl_append, List.map_cons, Task.ofPair, hfirst, hothers, performAll,
      List.append_assoc, List.singleton_append]

/-- Running a matrix pair by pair is one of its schedules, and its report is the one on that run. -/
theorem exists_schedule_evaluate (hjobs : 0 < matrix.jobs) :
    ∃ schedule, (matrix.follow runner world schedule).isOver = true ∧
      matrix.evaluate runner world =
        (matrix.reportOf (matrix.follow runner world schedule),
          (matrix.follow runner world schedule).world.emit
            (closing (matrix.reportOf (matrix.follow runner world schedule)))) := by
  obtain ⟨schedule, tasks, htasks, hrun⟩ := exists_schedule_performAll matrix runner []
    (matrix.opening.foldl World.emit world) [] hjobs matrix.pairs nofun
  refine ⟨schedule, ?_⟩
  have hfollow : matrix.follow runner world schedule = _ := hrun
  rw [hfollow]
  exact ⟨List.all_eq_true.2 htasks, rfl⟩

/-- One job after the other, each of them with as many steps as a trial takes that goes through. -/
def oneByOne (count : Nat) : List Action :=
  (List.range count).flatMap fun index =>
    .move index .enter :: List.replicate 17 (.move index .step) ++ [.move index .join]

end BootChain.Matrix
