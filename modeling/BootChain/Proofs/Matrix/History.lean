import BootChain.Proofs.Matrix.Schedule
import BootChain.Proofs.Trial.Heeding

namespace BootChain

/-- What a job has been through by the time that it comes to an outcome. -/
def Outcome.Reached {σ : Type} (start : Job Trial) (exchanges : List (Exchange σ)) :
    Outcome → Prop
  | .completed trial => start.Yields exchanges trial
  | .notStarted => exchanges = []
  | .brokeDown => ∃ rest, start.Along exchanges rest

/-- What a job has been through by the time that it is in some phase. -/
def Phase.Reached {σ : Type} (start : Job Trial) (exchanges : List (Exchange σ)) : Phase → Prop
  | .waiting => exchanges = []
  | .admitted => exchanges = []
  | .running rest => start.Along exchanges rest
  | .ended outcome => outcome.Reached start exchanges
  | .joined outcome => outcome.Reached start exchanges

theorem Phase.Reached.outcome {σ : Type} {start : Job Trial} {exchanges : List (Exchange σ)}
    {phase : Phase} {outcome : Outcome} (hreached : phase.Reached start exchanges)
    (houtcome : phase.outcome? = some outcome) : outcome.Reached start exchanges := by
  cases phase with
  | ended found =>
    cases houtcome
    exact hreached
  | joined found =>
    cases houtcome
    exact hreached
  | _ => cases houtcome

namespace Matrix

variable {ρ : Type} {settings : Settings} {matrix : Matrix}
  {runner : Stage → Fixture → Runner ρ} {world : World ρ} {run : Run ρ} {index : Nat}
  {task later : Task} {first second schedule : List Action}

/-- The exchange that a job has in a move, if it has one. -/
def exchangeOf? (runner : Stage → Fixture → Runner ρ) (world : World ρ) (task : Task)
    (move : Move) : Option (Exchange (World ρ)) :=
  match task.phase, move with
  | .running (.ask request _), .step =>
    let (answer, after) := World.answer (runner task.stage task.fixture) request world
    some ⟨request, answer, after⟩
  | _, _ => none

theorem exchangeOf?_eq_none {move : Move}
    (hmove : ∀ request next, task.phase = .running (.ask request next) → move ≠ .step) :
    exchangeOf? runner world task move = none := by
  rw [exchangeOf?]
  exact hmove

/-- The exchange that the job with some number has in an action, if it has one. -/
def exchange? (runner : Stage → Fixture → Runner ρ) (index : Nat) (run : Run ρ) :
    Action → Option (Exchange (World ρ))
  | .raise => none
  | .move other move =>
    if other = index then run.tasks[index]?.bind fun task => exchangeOf? runner run.world task move
    else none

/-- What the job with some number asks of its surroundings along a schedule, with the answers. -/
def exchanges (matrix : Matrix) (runner : Stage → Fixture → Runner ρ) (index : Nat) :
    Run ρ → List Action → List (Exchange (World ρ))
  | _, [] => []
  | run, action :: rest =>
    (exchange? runner index run action).toList ++
      exchanges matrix runner index (matrix.act runner run action) rest

theorem exchanges_append : matrix.exchanges runner index run (first ++ second) =
    matrix.exchanges runner index run first ++
      matrix.exchanges runner index (first.foldl (matrix.act runner) run) second := by
  induction first generalizing run with
  | nil => rfl
  | cons action rest ih =>
    rw [List.cons_append, exchanges, exchanges, ih, List.append_assoc, List.foldl_cons]

theorem follow_append : matrix.follow runner world (first ++ second) =
    second.foldl (matrix.act runner) (matrix.follow runner world first) := by
  rw [follow, follow, List.foldl_append]

/-- The ways in which a job goes on without asking for anything. -/
inductive Quiet (settings : Settings) (world : World ρ) (task : Task) : Phase → Prop
  | enter (hphase : task.phase = .waiting) : Quiet settings world task .admitted
  | giveUp (hphase : task.phase = .waiting) (hcancelled : world.cancelled = true) :
    Quiet settings world task (.ended .notStarted)
  | turnBack (hphase : task.phase = .admitted) (hcancelled : world.cancelled = true) :
    Quiet settings world task (.ended .notStarted)
  | begin (hphase : task.phase = .admitted) (hgoing : world.cancelled = false) :
    Quiet settings world task (.running (Trial.perform settings task.stage task.fixture))
  | finish {trial : Trial} (hphase : task.phase = .running (.done trial)) :
    Quiet settings world task (.ended (.completed trial))
  | breakDown {rest : Job Trial} (hphase : task.phase = .running rest) :
    Quiet settings world task (.ended .brokeDown)
  | join {outcome : Outcome} (hphase : task.phase = .ended outcome) :
    Quiet settings world task (.joined outcome)

/-- What an action means for the job with some number: nothing, or one request of it is answered,
    or it goes on without asking for anything. -/
inductive Fate (settings : Settings) (runner : Stage → Fixture → Runner ρ) (world : World ρ)
    (task : Task) : Phase → Option (Exchange (World ρ)) → Prop
  | unmoved : Fate settings runner world task task.phase none
  | answered {request : Request} {next : request.Answer → Job Trial}
    (hphase : task.phase = .running (.ask request next)) :
    Fate settings runner world task
      (.running (next (World.answer (runner task.stage task.fixture) request world).1))
      (some ⟨request, (World.answer (runner task.stage task.fixture) request world).1,
        (World.answer (runner task.stage task.fixture) request world).2⟩)
  | quiet {phase : Phase} (hquiet : Quiet settings world task phase) :
    Fate settings runner world task phase none

/-- A move that is open to a job settles its fate. -/
theorem fate_of_advance? {permitFree : Bool} {move : Move} {phase : Phase} {left : World ρ}
    (hadvance : advance? settings runner permitFree world task move = some (phase, left)) :
    Fate settings runner world task phase (exchangeOf? runner world task move) := by
  obtain ⟨stage, fixture, before⟩ := task
  have hquiet : Quiet settings world ⟨stage, fixture, before⟩ phase →
      (∀ request next, before = .running (.ask request next) → move ≠ .step) →
      Fate settings runner world ⟨stage, fixture, before⟩ phase
        (exchangeOf? runner world ⟨stage, fixture, before⟩ move) := by
    intro hquiet hmove
    rw [exchangeOf?_eq_none hmove]
    exact .quiet hquiet
  unfold advance? at hadvance
  split at hadvance
  next hphase =>
    split at hadvance
    · cases hadvance
      exact hquiet (.enter hphase) fun _ _ _ => Move.noConfusion
    · cases hadvance
  next hphase =>
    split at hadvance
    next hcancelled =>
      cases hadvance
      exact hquiet (.giveUp hphase hcancelled) fun _ _ _ => Move.noConfusion
    · cases hadvance
  next hphase =>
    split at hadvance
    next hcancelled =>
      cases hadvance
      refine hquiet (.turnBack hphase hcancelled) fun _ _ hrunning => ?_
      cases hphase.symm.trans hrunning
    next hgoing =>
      cases hadvance
      refine hquiet (.begin hphase (Bool.eq_false_iff.2 hgoing)) fun _ _ hrunning => ?_
      cases hphase.symm.trans hrunning
  next hphase =>
    cases hadvance
    refine hquiet (.finish hphase) fun _ _ hrunning => ?_
    cases hphase.symm.trans hrunning
  next hphase =>
    cases hphase
    cases hadvance
    exact .answered rfl
  next hphase =>
    cases hadvance
    exact hquiet (.breakDown hphase) fun _ _ _ => Move.noConfusion
  next hphase =>
    cases hadvance
    exact hquiet (.join hphase) fun _ _ _ => Move.noConfusion
  next => cases hadvance

/-- A job has no exchange by a move that is not open to it. -/
theorem exchangeOf?_of_advance?_eq_none {permitFree : Bool} {move : Move}
    (hadvance : advance? settings runner permitFree world task move = none) :
    exchangeOf? runner world task move = none := by
  obtain ⟨stage, fixture, phase⟩ := task
  apply exchangeOf?_eq_none
  rintro request next hphase rfl
  cases hphase
  cases hadvance

theorem exists_fate (matrix : Matrix) (runner : Stage → Fixture → Runner ρ)
    (hindex : run.tasks[index]? = some task) (action : Action) :
    ∃ phase, (matrix.act runner run action).tasks[index]? = some { task with phase } ∧
      Fate matrix.settings runner run.world task phase
        (exchange? runner index run action) := by
  cases action with
  | raise => exact ⟨task.phase, hindex, .unmoved⟩
  | move other move =>
    by_cases hother : other = index
    · subst hother
      simp only [act, exchange?, hindex, if_true, Option.bind_some]
      split
      next hnone =>
        rw [exchangeOf?_of_advance?_eq_none hnone]
        exact ⟨task.phase, hindex, .unmoved⟩
      next phase left hadvance =>
        have hlt := (List.getElem?_eq_some_iff.1 hindex).1
        exact ⟨phase, List.getElem?_set_self hlt, fate_of_advance? hadvance⟩
    · rw [exchange?, if_neg hother]
      refine ⟨task.phase, ?_, .unmoved⟩
      simp only [act]
      split
      · exact hindex
      · split
        · exact hindex
        · rw [List.getElem?_set_ne hother]
          exact hindex

/-- The job with some number stays the job of its pair, and every action settles its fate. -/
theorem foldl_act_induction {motive : Run ρ → List (Exchange (World ρ)) → Phase → Prop}
    (matrix : Matrix) (runner : Stage → Fixture → Runner ρ) (schedule : List Action)
    (hindex : run.tasks[index]? = some task) (earlier : List (Exchange (World ρ)))
    (hstart : motive run earlier task.phase)
    (hstep : ∀ (run : Run ρ) (action : Action) (earlier : List (Exchange (World ρ)))
      (before after : Phase) (exchange : Option (Exchange (World ρ))),
      Fate matrix.settings runner run.world { task with phase := before } after exchange →
        motive run earlier before →
          motive (matrix.act runner run action) (earlier ++ exchange.toList) after) :
    ∃ phase, (schedule.foldl (matrix.act runner) run).tasks[index]? = some { task with phase } ∧
      motive (schedule.foldl (matrix.act runner) run)
        (earlier ++ matrix.exchanges runner index run schedule) phase := by
  induction schedule generalizing run task earlier with
  | nil =>
    rw [exchanges, List.append_nil]
    exact ⟨task.phase, hindex, hstart⟩
  | cons action rest ih =>
    obtain ⟨phase, hafter, hfate⟩ := exists_fate matrix runner hindex action
    have hnext := hstep run action earlier task.phase phase _ hfate hstart
    rw [List.foldl_cons, exchanges, ← List.append_assoc]
    exact ih hafter _ hnext hstep

/-- By its exchanges a job has come just as far as its phase says. -/
theorem Fate.reached {phase : Phase} {exchange : Option (Exchange (World ρ))}
    {earlier : List (Exchange (World ρ))}
    (hfate : Fate settings runner world task phase exchange)
    (hreached : task.phase.Reached (Trial.perform settings task.stage task.fixture) earlier) :
    phase.Reached (Trial.perform settings task.stage task.fixture)
      (earlier ++ exchange.toList) := by
  cases hfate with
  | unmoved =>
    rw [Option.toList_none, List.append_nil]
    exact hreached
  | answered hphase =>
    rw [hphase] at hreached
    exact Job.Along.answered hreached _ _
  | quiet hquiet =>
    rw [Option.toList_none, List.append_nil]
    cases hquiet with
    | enter hphase =>
      rw [hphase] at hreached
      exact hreached
    | giveUp hphase =>
      rw [hphase] at hreached
      exact hreached
    | turnBack hphase =>
      rw [hphase] at hreached
      exact hreached
    | begin hphase =>
      rw [hphase] at hreached
      cases (hreached : earlier = [])
      exact Job.along_nil _
    | finish hphase =>
      rw [hphase] at hreached
      have hyields := Job.Along.yields hreached ⟨rfl, rfl⟩
      rwa [List.append_nil] at hyields
    | breakDown hphase =>
      rw [hphase] at hreached
      exact ⟨_, hreached⟩
    | join hphase =>
      rw [hphase] at hreached
      exact hreached

theorem length_tasks_follow (matrix : Matrix) (runner : Stage → Fixture → Runner ρ)
    (world : World ρ) (schedule : List Action) :
    (matrix.follow runner world schedule).tasks.length = matrix.pairs.length := by
  rw [← (sound_follow matrix runner world schedule).pairs_eq, List.length_map]

theorem exists_getElem?_start (hindex : index < matrix.pairs.length) (world : World ρ) :
    ∃ first, (matrix.start world).tasks[index]? = some first ∧ first.phase = .waiting := by
  refine ⟨.ofPair matrix.pairs[index], ?_, rfl⟩
  rw [start, List.getElem?_map, List.getElem?_eq_getElem hindex]
  rfl

/-- Whatever happens to a run, each of its jobs makes the requests of its own trial in their order,
    and comes to what the answers make of it. -/
theorem reached_follow (matrix : Matrix) (runner : Stage → Fixture → Runner ρ) (world : World ρ)
    (schedule : List Action) {index : Nat} {task : Task}
    (hindex : (matrix.follow runner world schedule).tasks[index]? = some task) :
    task.phase.Reached (Trial.perform matrix.settings task.stage task.fixture)
      (matrix.exchanges runner index (matrix.start world) schedule) := by
  have hlt : index < matrix.pairs.length := by
    rw [← length_tasks_follow matrix runner world schedule]
    exact (List.getElem?_eq_some_iff.1 hindex).1
  obtain ⟨first, hfirst, hwaiting⟩ := exists_getElem?_start hlt world
  obtain ⟨phase, hlater, hreached⟩ := foldl_act_induction
    (motive := fun _ earlier phase =>
      phase.Reached (Trial.perform matrix.settings first.stage first.fixture) earlier) matrix runner
      schedule hfirst []
      (by rw [hwaiting]; rfl) fun _ _ _ _ _ _ hfate hreached => hfate.reached hreached
  cases hindex.symm.trans hlater
  exact hreached

/-- No action takes the cancellation of a run back. -/
theorem cancelled_act (hcancelled : run.world.cancelled = true) (action : Action) :
    (matrix.act runner run action).world.cancelled = true := by
  obtain hact | hact | ⟨before, task, after, phase, left, -, hadvance, hact⟩ :=
    act_cases matrix runner run action
  · rwa [hact]
  · rw [hact]
    rfl
  · rw [hact]
    exact hadvance.cancelled_mono hcancelled

theorem cancelled_foldl (hcancelled : run.world.cancelled = true) (schedule : List Action) :
    (schedule.foldl (matrix.act runner) run).world.cancelled = true := by
  induction schedule generalizing run with
  | nil => exact hcancelled
  | cons action rest ih => exact ih (cancelled_act hcancelled action)

/-- Each exchange of a job is one with the world at some point of the schedule. -/
theorem exists_answer_of_mem_exchanges {exchange : Exchange (World ρ)}
    (hmem : exchange ∈ matrix.exchanges runner index run schedule) :
    ∃ (earlier : List Action) (stage : Stage) (fixture : Fixture) (request : Request),
      let world := (earlier.foldl (matrix.act runner) run).world
      exchange = ⟨request, (World.answer (runner stage fixture) request world).1,
        (World.answer (runner stage fixture) request world).2⟩ := by
  induction schedule generalizing run with
  | nil => cases hmem
  | cons action rest ih =>
    rw [exchanges, List.mem_append, Option.mem_toList] at hmem
    rcases hmem with hhere | hlater
    · refine ⟨[], ?_⟩
      cases action with
      | raise => cases hhere
      | move other move =>
        rw [exchange?] at hhere
        split at hhere
        · obtain ⟨task, -, hhere⟩ := Option.bind_eq_some_iff.1 hhere
          unfold exchangeOf? at hhere
          split at hhere
          · cases hhere
            exact ⟨task.stage, task.fixture, _, rfl⟩
          · cases hhere
        · cases hhere
    · obtain ⟨earlier, hearlier⟩ := ih hlater
      exact ⟨action :: earlier, hearlier⟩

/-- A look at the cancellation sees the flag as it is. -/
theorem look_eq_cancelled {answer : Bool} {after : World ρ}
    (hmem : ⟨.isCancelled, answer, after⟩ ∈ matrix.exchanges runner index run schedule) :
    answer = after.cancelled := by
  obtain ⟨earlier, stage, fixture, request, heq⟩ := exists_answer_of_mem_exchanges hmem
  cases heq
  rfl

/-- Once the flag is raised, no look misses it. -/
theorem look_of_cancelled (hcancelled : run.world.cancelled = true) {answer : Bool}
    {after : World ρ}
    (hmem : ⟨.isCancelled, answer, after⟩ ∈ matrix.exchanges runner index run schedule) :
    answer = true := by
  obtain ⟨earlier, stage, fixture, request, heq⟩ := exists_answer_of_mem_exchanges hmem
  cases heq
  exact cancelled_foldl hcancelled earlier

end Matrix

end BootChain
