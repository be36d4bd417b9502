import BootChain.Proofs.Matrix.Grid
import BootChain.Proofs.Matrix.History
import BootChain.Proofs.Trial.Trace

namespace BootChain

namespace World

variable {ρ : Type}

theorem events_foldl_emit (world : World ρ) (events : List Event) :
    (events.foldl emit world).events = world.events ++ events := by
  induction events generalizing world with
  | nil => exact (List.append_nil _).symm
  | cons event rest ih =>
    rw [List.foldl_cons, ih]
    exact List.append_assoc ..

end World

/-- The pair of a job as it is known to events and reports. -/
def Task.key (task : Task) : Generation × FixtureId := (task.stage.generation, task.fixture.id)

theorem Phase.Reached.tellsOf {σ : Type} {settings : Settings} {stage : Stage} {fixture : Fixture}
    {exchanges : List (Exchange σ)} {phase : Phase} {event : Event}
    (hreached : phase.Reached (Trial.perform settings stage fixture) exchanges)
    (hevent : event ∈ emitted exchanges) : event.TellsOf (stage.generation, fixture.id) := by
  have hnothing : exchanges = [] → event.TellsOf (stage.generation, fixture.id) := by
    rintro rfl
    cases hevent
  have houtcome : ∀ outcome : Outcome,
      outcome.Reached (Trial.perform settings stage fixture) exchanges →
        event.TellsOf (stage.generation, fixture.id) := by
    intro outcome hreached
    cases outcome with
    | completed trial =>
      rw [Trial.emitted_of_yields hreached] at hevent
      exact Trial.tellsOf_of_mem_story hevent
    | notStarted => exact hnothing hreached
    | brokeDown =>
      obtain ⟨rest, halong⟩ := hreached
      exact Trial.tellsOf_of_along halong hevent
  cases phase with
  | waiting => exact hnothing hreached
  | admitted => exact hnothing hreached
  | running rest => exact Trial.tellsOf_of_along hreached hevent
  | ended outcome => exact houtcome outcome hreached
  | joined outcome => exact houtcome outcome hreached

namespace Matrix

variable {ρ : Type} {settings : Settings} {matrix : Matrix} {runner : Stage → Fixture → Runner ρ}
  {permitFree : Bool} {world left : World ρ} {task : Task} {phase : Phase} {run : Run ρ}
  {earlier later : List Event}

/-- When a job goes on, it comes further by at most one exchange, and the events grow by what that
    sends out. -/
theorem Advance.exists_exchange {exchanges : List (Exchange (World ρ))}
    (hadvance : Advance settings runner permitFree world task phase left)
    (hreached : task.phase.Reached (Trial.perform settings task.stage task.fixture) exchanges) :
    ∃ exchange : Option (Exchange (World ρ)),
      phase.Reached (Trial.perform settings task.stage task.fixture)
        (exchanges ++ exchange.toList) ∧
      left.events = world.events ++ emitted exchange.toList := by
  have hquiet : ∀ phase, Quiet settings world task phase →
      ∃ exchange : Option (Exchange (World ρ)),
        phase.Reached (Trial.perform settings task.stage task.fixture)
          (exchanges ++ exchange.toList) ∧
        world.events = world.events ++ emitted exchange.toList := by
    intro phase hquiet
    have hfate : Fate settings runner world task phase none := .quiet hquiet
    exact ⟨none, hfate.reached hreached, (List.append_nil _).symm⟩
  cases hadvance with
  | enter hphase => exact hquiet _ (.enter hphase)
  | giveUp hphase hcancelled => exact hquiet _ (.giveUp hphase hcancelled)
  | turnBack hphase hcancelled => exact hquiet _ (.turnBack hphase hcancelled)
  | begin hphase hgoing => exact hquiet _ (.begin hphase hgoing)
  | ask hphase =>
    exact ⟨some _, (Fate.answered hphase).reached hreached, World.events_answer _ _ _⟩
  | finish hphase => exact hquiet _ (.finish hphase)
  | breakDown hphase => exact hquiet _ (.breakDown hphase)
  | join hphase => exact hquiet _ (.join hphase)

/-- The events of a run after some earlier ones: each tells of a pair of the matrix, and those about
    a pair are the ones that its job has sent out by the time that it has come as far as it has. -/
structure Chronicled (matrix : Matrix) (earlier : List Event) (run : Run ρ) (later : List Event) :
    Prop where
  events_eq : run.world.events = earlier ++ later
  tellsOf : ∀ event ∈ later, ∃ stage fixture, (stage, fixture) ∈ matrix.pairs ∧
    event.TellsOf (stage.generation, fixture.id)
  filter_eq : ∀ task ∈ run.tasks, ∃ exchanges : List (Exchange (World ρ)),
    task.phase.Reached (Trial.perform matrix.settings task.stage task.fixture) exchanges ∧
      later.filter (·.pair? = some task.key) = emitted exchanges

theorem chronicled_start (matrix : Matrix) (world : World ρ) :
    matrix.Chronicled (world.events ++ matrix.opening) (matrix.start world) [] where
  events_eq := by rw [start, World.events_foldl_emit, List.append_nil]
  tellsOf := nofun
  filter_eq task htask := by
    obtain ⟨pair, -, rfl⟩ := List.mem_map.1 htask
    exact ⟨[], rfl, rfl⟩

/-- Events that tell of one pair are all there is of that pair in them, and nothing of another. -/
theorem filter_pair?_eq {events : List Event} {key other : Generation × FixtureId}
    (htells : ∀ event ∈ events, event.TellsOf key) :
    events.filter (·.pair? = some other) = if key = other then events else [] := by
  split
  next heq =>
    subst heq
    exact List.filter_eq_self.2 fun event hevent => decide_eq_true (htells event hevent).pair?_eq
  next hne =>
    rw [List.filter_eq_nil_iff]
    intro event hevent
    rw [decide_eq_true_iff, (htells event hevent).pair?_eq]
    exact fun heq => hne (Option.some.inj heq)

/-- No two jobs of a run are about one pair. -/
theorem Sound.nodup_keys (hsound : matrix.Sound run)
    (hids : (matrix.fixtures.map Fixture.id).Nodup) : (run.tasks.map Task.key).Nodup := by
  have hkeys : run.tasks.map Task.key =
      matrix.chain.available.map Stage.generation ×ˢ matrix.fixtures.map Fixture.id := by
    calc run.tasks.map Task.key
      _ = matrix.pairs.map fun pair => (pair.1.generation, pair.2.id) := by
        rw [← hsound.pairs_eq, List.map_map]
        rfl
      _ = _ := by
        simp [pairs, List.map_flatMap, List.flatMap_map, SProd.sprod, List.product,
          Function.comp_def]
  rw [hkeys]
  exact matrix.chain.nodup_available.product hids

theorem Chronicled.act (hchronicled : matrix.Chronicled earlier run later)
    (hsound : matrix.Sound run) (hids : (matrix.fixtures.map Fixture.id).Nodup)
    (action : Action) : ∃ more, matrix.Chronicled earlier (matrix.act runner run action) more := by
  obtain hact | hact | ⟨before, task, after, phase, left, htasks, hadvance, hact⟩ :=
    act_cases matrix runner run action
  · rw [hact]
    exact ⟨later, hchronicled⟩
  · rw [hact]
    exact ⟨later, hchronicled.events_eq, hchronicled.tellsOf, hchronicled.filter_eq⟩
  · have hmem : task ∈ run.tasks := htasks ▸ List.mem_append_cons_self
    have hpair : (task.stage, task.fixture) ∈ matrix.pairs :=
      hsound.pairs_eq ▸ List.mem_map_of_mem hmem
    obtain ⟨exchanges, hreached, hfilter⟩ := hchronicled.filter_eq task hmem
    obtain ⟨exchange, hfurther, hevents⟩ := hadvance.exists_exchange hreached
    have htells : ∀ event ∈ emitted exchange.toList, event.TellsOf task.key :=
      fun event hevent => hfurther.tellsOf (by
        rw [emitted_append]
        exact List.mem_append_right _ hevent)
    have hnodup := hsound.nodup_keys hids
    rw [htasks, List.map_append, List.map_cons, List.nodup_middle] at hnodup
    have hfresh := (List.nodup_cons.1 hnodup).1
    rw [hact]
    refine ⟨later ++ emitted exchange.toList, ?_, fun event hevent => ?_, fun other hother => ?_⟩
    · rw [hevents, hchronicled.events_eq, List.append_assoc]
    · rcases List.mem_append.1 hevent with hold | hnew
      · exact hchronicled.tellsOf event hold
      · exact ⟨task.stage, task.fixture, hpair, htells event hnew⟩
    · rw [List.filter_append, filter_pair?_eq htells]
      have hothers : other ∈ before ++ after → other ∈ run.tasks ∧ task.key ≠ other.key := by
        intro hother
        refine ⟨htasks ▸ ?_, fun heq => hfresh ?_⟩
        · exact (List.perm_middle.mem_iff).2 (List.mem_cons_of_mem _ hother)
        · rw [← List.map_append, heq]
          exact List.mem_map_of_mem hother
      rcases List.mem_append.1 hother with hbefore | hrest
      · obtain ⟨hin, hne⟩ := hothers (List.mem_append_left _ hbefore)
        rw [if_neg hne, List.append_nil]
        exact hchronicled.filter_eq other hin
      · rcases List.mem_cons.1 hrest with rfl | hafter
        · change ∃ exchanges : List (Exchange (World ρ)), phase.Reached _ exchanges ∧
            later.filter (·.pair? = some task.key) ++ (if task.key = task.key then _ else _) = _
          rw [if_pos rfl, hfilter, ← emitted_append]
          exact ⟨_, hfurther, rfl⟩
        · obtain ⟨hin, hne⟩ := hothers (List.mem_append_right _ hafter)
          rw [if_neg hne, List.append_nil]
          exact hchronicled.filter_eq other hin

theorem chronicled_follow (matrix : Matrix) (hids : (matrix.fixtures.map Fixture.id).Nodup)
    (runner : Stage → Fixture → Runner ρ) (world : World ρ) (schedule : List Action) :
    ∃ later, matrix.Chronicled (world.events ++ matrix.opening)
      (matrix.follow runner world schedule) later := by
  have hboth := follow_induction
    (motive := fun run => matrix.Sound run ∧
      ∃ later, matrix.Chronicled (world.events ++ matrix.opening) run later) matrix runner world
    schedule ⟨sound_start matrix world, [], chronicled_start matrix world⟩
    fun run action ⟨hsound, later, hchronicled⟩ =>
      ⟨hsound.act runner action, hchronicled.act hsound hids action⟩
  exact hboth.2

/-- Of a job that is over without having broken down the report has its trial, if it was started. -/
theorem Sound.story_eq (hsound : matrix.Sound run) (hids : (matrix.fixtures.map Fixture.id).Nodup)
    (htask : task ∈ run.tasks) {outcome : Outcome} (hphase : task.phase = .joined outcome)
    (hsafe : outcome ≠ .brokeDown) {exchanges : List (Exchange (World ρ))}
    (hreached : outcome.Reached (Trial.perform matrix.settings task.stage task.fixture) exchanges) :
    emitted exchanges =
      (((matrix.reportOf run).trial? task.fixture.id task.stage.generation).map
        (Trial.story (.of matrix.settings task.stage task.fixture))).getD [] := by
  have hunique : ∀ other ∈ run.tasks, other.key = task.key → other = task := fun other hother heq =>
    List.inj_on_of_nodup_map (hsound.nodup_keys hids) hother htask heq
  cases htrial : (matrix.reportOf run).trial? task.fixture.id task.stage.generation with
  | some trial =>
    obtain ⟨other, hother, hgeneration, hid, hcompleted⟩ := hsound.exists_task_of_trial? htrial
    cases hunique other hother (Prod.ext hgeneration hid)
    cases hphase.symm.trans hcompleted
    exact Trial.emitted_of_yields hreached
  | none =>
    cases outcome with
    | completed trial =>
      have hid : task.fixture.id ∈ matrix.fixtures.map Fixture.id := by
        have hpair : (task.stage, task.fixture) ∈ matrix.pairs :=
          hsound.pairs_eq ▸ List.mem_map_of_mem htask
        exact List.mem_map_of_mem (mem_pairs_iff.1 hpair).2
      obtain ⟨found, matchesExpected, hcell⟩ :=
        Report.evaluatedAt_cellsOf (hsound.mem_arrivals_of_joined htask hphase) rfl hid
      cases htrial.symm.trans (Report.trial?_eq_some_iff.2 ⟨matchesExpected, hcell⟩)
    | notStarted =>
      cases (hreached : exchanges = [])
      rfl
    | brokeDown => exact absurd rfl hsafe

/-- The event about a generation whose compiler is missing at some place. -/
def skipped (missing : Generation × Path) : Event where
  name := "stage_skipped"
  generation := some missing.1
  outcome := some "missing"
  detail := some missing.2.shown

/-- The counts of a summary that go into the last event, by their names. -/
def counts (tally : Tally) : List (String × Nat) :=
  [("evaluated", tally.evaluated), ("passed", tally.passed),
    ("pipeline_failures", tally.pipelineFailures), ("output_mismatches", tally.outputMismatches),
    ("not_evaluated", tally.notEvaluated), ("skipped", tally.skipped),
    ("equivalence_violations", tally.violations)]

theorem detail_closing (report : Report) : (closing report).detail =
    some (" ".intercalate ((counts report.tally).map fun (name, count) =>
      name ++ "=" ++ toString count)) := by
  refine congrArg some (String.toList_inj.1 ?_)
  simp [counts, String.intercalate_cons_cons]

/-- The missing compilers of a chain, with the places where they were looked for. -/
def missing (chain : Chain) : List (Generation × Path) :=
  chain.toList.filterMap fun (generation, slot) =>
    match slot with
    | .available _ => none
    | .missing path => some (generation, path)

theorem opening_eq (matrix : Matrix) :
    matrix.opening = matrix.started :: (missing matrix.chain).map skipped := by
  rw [opening, missing, List.map_filterMap]
  congr 2
  funext ⟨generation, slot⟩
  cases slot <;> rfl

theorem mem_missing_iff {chain : Chain} {generation : Generation} {path : Path} :
    (generation, path) ∈ missing chain ↔ chain.get? generation = some (.missing path) := by
  rw [Chain.get?, SortedMap.get?_eq_some_iff, missing, List.mem_filterMap]
  constructor
  · rintro ⟨⟨found, slot⟩, hentry, hslot⟩
    cases slot with
    | available stage => cases hslot
    | missing expected =>
      cases hslot
      exact hentry
  · exact fun hentry => ⟨_, hentry, rfl⟩

theorem ascending_missing (chain : Chain) :
    (missing chain).Pairwise fun a b => compare a.1 b.1 = .lt := by
  rw [missing, List.pairwise_filterMap]
  refine chain.slots.ascending.imp ?_
  rintro ⟨lower, lowerSlot⟩ ⟨upper, upperSlot⟩ hlt first hfirst second hsecond
  cases lowerSlot with
  | available stage => cases hfirst
  | missing path =>
    cases upperSlot with
    | available stage => cases hsecond
    | missing other =>
      cases hfirst
      cases hsecond
      exact hlt

/-- What the events of a run say, as they stand to its report. The first one says that it starts and
    how large it is. Those about a missing compiler come next and go upwards; what the jobs tell of
    their pairs is in any order, but of each pair it is the story of its trial, if that was
    completed; and the last one says how the run came to its end and what it has come to. -/
structure Traces (matrix : Matrix) (report : Report) (first : Event)
    (missing : List (Generation × Path)) (told : List Event) (last : Event) : Prop where
  first_eq : first =
    { name := "matrix_started"
      detail := some ("fixtures=" ++ toString matrix.fixtures.length ++ " generations=" ++
        toString matrix.chain.size ++ " jobs=" ++ toString matrix.jobs) }
  ascending : missing.Pairwise fun a b => compare a.1 b.1 = .lt
  mem_missing_iff : ∀ generation path,
    (generation, path) ∈ missing ↔ matrix.chain.get? generation = some (.missing path)
  tellsOf : ∀ event ∈ told, ∃ stage fixture, (stage, fixture) ∈ matrix.pairs ∧
    event.TellsOf (stage.generation, fixture.id)
  filter_eq : ∀ stage fixture, (stage, fixture) ∈ matrix.pairs →
    told.filter (·.pair? = some (stage.generation, fixture.id)) =
      ((report.trial? fixture.id stage.generation).map
        (Trial.story (.of matrix.settings stage fixture))).getD []
  finished_iff : ∀ key,
    (∃ event ∈ told, event.name = "pipeline_finished" ∧ event.pair? = some key) ↔
      Report.EvaluatedAt report.cells key
  last_name : last.name = if report.cancelled then "matrix_cancelled" else "matrix_finished"
  last_detail : last.detail = some (" ".intercalate ((counts report.tally).map
    fun (name, count) => name ++ "=" ++ toString count))

theorem evaluatedAt_iff_trial? {report : Report} {id : FixtureId} {generation : Generation} :
    Report.EvaluatedAt report.cells (generation, id) ↔
      ∃ trial, report.trial? id generation = some trial :=
  exists_congr fun _ => Report.trial?_eq_some_iff.symm

theorem finished_mem_story (pair : Trial.Pair) (trial : Trial) : ∃ event ∈ Trial.story pair trial,
    event.name = "pipeline_finished" ∧ event.pair? = some pair.key := by
  refine ⟨Trial.finished pair trial, by simp [Trial.story], ?_⟩
  unfold Trial.finished
  split <;> exact ⟨rfl, rfl⟩

/-- The pairs that are told to be over are those with a trial in the report. -/
theorem Sound.finished_iff (hsound : matrix.Sound run) {told : List Event}
    (htells : ∀ event ∈ told, ∃ stage fixture, (stage, fixture) ∈ matrix.pairs ∧
      event.TellsOf (stage.generation, fixture.id))
    (hstory : ∀ stage fixture, (stage, fixture) ∈ matrix.pairs →
      told.filter (·.pair? = some (stage.generation, fixture.id)) =
        (((matrix.reportOf run).trial? fixture.id stage.generation).map
          (Trial.story (.of matrix.settings stage fixture))).getD [])
    (key : Generation × FixtureId) :
    (∃ event ∈ told, event.name = "pipeline_finished" ∧ event.pair? = some key) ↔
      Report.EvaluatedAt (matrix.reportOf run).cells key := by
  obtain ⟨generation, id⟩ := key
  rw [evaluatedAt_iff_trial?]
  constructor
  · rintro ⟨event, hevent, -, hkey⟩
    obtain ⟨stage, fixture, hpair, htold⟩ := htells event hevent
    cases hkey.symm.trans htold.pair?_eq
    have hmem : event ∈ told.filter (·.pair? = some (stage.generation, fixture.id)) :=
      List.mem_filter.2 ⟨hevent, decide_eq_true hkey⟩
    rw [hstory stage fixture hpair] at hmem
    cases htrial : (matrix.reportOf run).trial? fixture.id stage.generation with
    | some trial => exact ⟨trial, rfl⟩
    | none =>
      rw [htrial] at hmem
      cases hmem
  · rintro ⟨trial, htrial⟩
    obtain ⟨task, htask, rfl, rfl, -⟩ := hsound.exists_task_of_trial? htrial
    have hpair : (task.stage, task.fixture) ∈ matrix.pairs :=
      hsound.pairs_eq ▸ List.mem_map_of_mem htask
    obtain ⟨event, hevent, hname, hown⟩ :=
      finished_mem_story (.of matrix.settings task.stage task.fixture) trial
    have hmem : event ∈ told.filter
        (·.pair? = some (task.stage.generation, task.fixture.id)) := by
      rw [hstory _ _ hpair, htrial]
      exact hevent
    exact ⟨event, (List.mem_filter.1 hmem).1, hname, hown⟩

/-- The log of a run from its first event to its last. -/
theorem traces_conclude (settings : Settings) (jobs : Nat) (chain : Chain)
    (fixtures : List Fixture) (selection : Selection) (hids : (fixtures.map Fixture.id).Nodup)
    (runner : Stage → Fixture → Runner ρ) (world : World ρ) (schedule : List Action) :
    let matrix := select settings jobs chain fixtures selection
    let run := matrix.follow runner world schedule
    run.isOver = true → (∀ task ∈ run.tasks, task.phase.outcome? ≠ some .brokeDown) →
      ∃ first missing told last,
        (matrix.conclude run).2.events =
          world.events ++ first :: missing.map skipped ++ told ++ [last] ∧
        matrix.Traces (matrix.conclude run).1 first missing told last := by
  intro matrix run hover hsafe
  have hselected : (matrix.fixtures.map Fixture.id).Nodup := selection.nodup_fixturesOf hids
  have hsound : matrix.Sound run := sound_follow matrix runner world schedule
  obtain ⟨told, hevents, htells, hfilter⟩ :=
    chronicled_follow matrix hselected runner world schedule
  have hstory : ∀ stage fixture, (stage, fixture) ∈ matrix.pairs →
      told.filter (·.pair? = some (stage.generation, fixture.id)) =
        (((matrix.reportOf run).trial? fixture.id stage.generation).map
          (Trial.story (.of matrix.settings stage fixture))).getD [] := by
    intro stage fixture hpair
    rw [← hsound.pairs_eq] at hpair
    obtain ⟨task, htask, hof⟩ := List.mem_map.1 hpair
    cases hof
    obtain ⟨outcome, hphase⟩ := exists_joined_of_isOver hover htask
    obtain ⟨exchanges, hreached, hown⟩ := hfilter task htask
    rw [hphase] at hreached
    refine Eq.trans hown (hsound.story_eq hselected htask hphase ?_ hreached)
    rintro rfl
    exact hsafe task htask (by rw [hphase]; rfl)
  refine ⟨matrix.started, missing matrix.chain, told, closing (matrix.reportOf run), ?_, rfl,
    ascending_missing _, fun _ _ => mem_missing_iff, htells, hstory,
    hsound.finished_iff htells hstory, rfl, detail_closing _⟩
  change run.world.events ++ [_] = _
  rw [hevents, opening_eq]

/-- Of two compilers one is not there, so that two jobs are left. -/
def halfMatrix : Matrix :=
  select { artifactDir := ⟨[]⟩ } 2 halfProbed twoSources {}

/-- Two jobs that go on in turn, and are handed in from the last to the first. -/
def inTurn : List Action :=
  [.move 0 .enter, .move 1 .enter] ++
    (List.replicate 17 [.move 0 .step, .move 1 .step]).flatten ++ [.move 1 .join, .move 0 .join]

def halfRun : Run Rehearsal.Script :=
  halfMatrix.follow (Rehearsal.runner { artifactDir := ⟨[]⟩ }) { files := {}, memory := {} } inTurn

/-- A run in which the events of two jobs alternate. -/
theorem traces_conclude_inTurn :
    (twoSources.map Fixture.id).Nodup ∧ halfRun.isOver = true ∧
      (∀ task ∈ halfRun.tasks, task.phase.outcome? ≠ some .brokeDown) ∧
      (halfRun.world.events.filterMap (·.fixture)).map (·.text) =
        ["a", "b", "a", "b", "a", "b", "a", "b"] ∧
      ∃ first missing told last,
        (halfMatrix.conclude halfRun).2.events =
          [] ++ first :: missing.map skipped ++ told ++ [last] ∧
        halfMatrix.Traces (halfMatrix.conclude halfRun).1 first missing told last := by
  have hids : (twoSources.map Fixture.id).Nodup := by decide
  have hover : halfRun.isOver = true := by decide +kernel
  have hsafe : ∀ task ∈ halfRun.tasks, task.phase.outcome? ≠ some .brokeDown := by
    decide +kernel
  have hturns : (halfRun.world.events.filterMap (·.fixture)).map (·.text) =
      ["a", "b", "a", "b", "a", "b", "a", "b"] := by decide +kernel
  refine ⟨hids, hover, hsafe, hturns, ?_⟩
  unfold halfRun halfMatrix at hover hsafe ⊢
  exact traces_conclude { artifactDir := ⟨[]⟩ } 2 halfProbed twoSources {} hids
    (Rehearsal.runner { artifactDir := ⟨[]⟩ }) { files := {}, memory := {} } inTurn hover hsafe

end Matrix

end BootChain
