import BootChain.Proofs.Matrix.Confluence
import BootChain.Proofs.Matrix.Sequential
import BootChain.Proofs.Report.Restriction

namespace BootChain

theorem Selection.selectsPair_iff {selection : Selection} {id : FixtureId}
    {generation : Generation} : selection.selectsPair id generation = true ↔
      (selection.fixtures = [] ∨ id ∈ selection.fixtures) ∧
        (selection.generations = [] ∨ generation ∈ selection.generations) := by
  simp [selectsPair, selects, selectsGeneration]

/-- A cell is in the selected part just if its fixture and its generation are selected, where an
    empty list selects everything. -/
theorem Report.cell?_restrictTo (report : Report) (selection : Selection) (id : FixtureId)
    (generation : Generation) {cell : Cell} :
    (report.restrictTo selection).cell? id generation = some cell ↔
      ((selection.fixtures = [] ∨ id ∈ selection.fixtures) ∧
        (selection.generations = [] ∨ generation ∈ selection.generations)) ∧
      report.cell? id generation = some cell := by
  rw [← Selection.selectsPair_iff, cell?, cell?, restrictTo, Selection.get?_cellsOf,
    Selection.selectsPair]
  by_cases hid : selection.selects id = true
  · cases report.cells.get? id with
    | none => simp
    | some row => simp [hid, SortedMap.get?_filterKeys]
  · simp [hid]

namespace Matrix

variable {settings : Settings} {chain : Chain} {fixtures : List Fixture} {selection : Selection}

theorem pairs_select_whole (jobs : Nat) : (select settings jobs chain fixtures {}).pairs =
    chain.available.flatMap fun stage => fixtures.map fun fixture => (stage, fixture) := by
  have hfixtures : Selection.fixturesOf {} fixtures = fixtures :=
    List.filter_eq_self.2 fun _ _ => rfl
  rw [pairs, select, hfixtures]
  rfl

/-- The selected pairs stand in the order of all pairs. -/
theorem pairs_select (jobs wholeJobs : Nat) :
    (select settings jobs chain fixtures selection).pairs =
      (select settings wholeJobs chain fixtures {}).pairs.filter fun pair =>
        selection.selectsPair pair.2.id pair.1.generation := by
  rw [pairs_select_whole, List.filter_flatMap, pairs, select, Selection.available_chain,
    flatMap_filter]
  refine List.flatMap_congr fun stage _ => ?_
  rw [List.filter_map, Selection.fixturesOf]
  by_cases hgeneration : selection.selectsGeneration stage.generation = true
  · rw [if_pos hgeneration]
    refine congrArg _ (List.filter_congr fun fixture _ => ?_)
    simp [Selection.selectsPair, hgeneration]
  · rw [if_neg hgeneration, List.filter_eq_nil_iff.2 fun fixture _ => by
      simp [Selection.selectsPair, hgeneration], List.map_nil]

/-- Handing in the selected outcomes gives the selected part of the report on all outcomes. -/
theorem sequentialReport_select (jobs wholeJobs : Nat) (outcome : Stage → Fixture → Outcome)
    (cancelled : Bool) :
    (select settings jobs chain fixtures selection).sequentialReport outcome cancelled =
      ((select settings wholeJobs chain fixtures {}).sequentialReport outcome
        cancelled).restrictTo selection := by
  have hfixtures : Selection.fixturesOf {} fixtures = fixtures :=
    List.filter_eq_self.2 fun _ _ => rfl
  have harrivals : ∀ handIn : Stage × Fixture → Arrival,
      (∀ pair, (handIn pair).fixture = pair.2.id ∧
        (handIn pair).generation = pair.1.generation) →
      (select settings jobs chain fixtures selection).pairs.map handIn =
        ((select settings wholeJobs chain fixtures {}).pairs.map handIn).filter fun found =>
          selection.selectsPair found.fixture found.generation := by
    intro handIn hkeys
    rw [pairs_select jobs wholeJobs, List.filter_map]
    refine congrArg _ (List.filter_congr fun pair _ => ?_)
    rw [Function.comp_apply, (hkeys pair).1, (hkeys pair).2]
  rw [sequentialReport, harrivals _ fun pair => ⟨rfl, rfl⟩, report, select,
    Report.assemble_restrictTo, sequentialReport, report, select, hfixtures]
  rfl

/-- A selection only leaves things out. With the outcomes of all pairs given, the report on the
    selected ones is the selected part of the report on all of them, in whatever orders the
    outcomes are handed in and whatever schedules the two runs have gone through. -/
theorem report_eq_restrictTo (settings : Settings) (chain : Chain) (fixtures : List Fixture)
    (hids : (fixtures.map Fixture.id).Nodup) (selection : Selection)
    (outcome : Stage → Fixture → Outcome) (cancelled : Bool) (jobs wholeJobs : Nat) :
    let part := select settings jobs chain fixtures selection
    let whole := select settings wholeJobs chain fixtures {}
    (∀ order wholeOrder : List (Stage × Fixture), order.Perm part.pairs →
      wholeOrder.Perm whole.pairs →
      part.report (order.map fun (stage, fixture) =>
          arrival stage fixture (outcome stage fixture)) cancelled =
        (whole.report (wholeOrder.map fun (stage, fixture) =>
          arrival stage fixture (outcome stage fixture)) cancelled).restrictTo selection) ∧
    ∀ {ρ τ : Type} (run : Run ρ) (wholeRun : Run τ),
      (∃ runner world schedule, run = part.follow runner world schedule) →
      (∃ runner world schedule, wholeRun = whole.follow runner world schedule) →
      run.isOver = true → wholeRun.isOver = true →
      run.world.cancelled = cancelled → wholeRun.world.cancelled = cancelled →
      (∀ task ∈ run.tasks, task.phase.outcome? = some (outcome task.stage task.fixture)) →
      (∀ task ∈ wholeRun.tasks, task.phase.outcome? = some (outcome task.stage task.fixture)) →
      part.reportOf run = (whole.reportOf wholeRun).restrictTo selection := by
  intro part whole
  have hpartIds : (part.fixtures.map Fixture.id).Nodup := selection.nodup_fixturesOf hids
  have hwholeIds : (whole.fixtures.map Fixture.id).Nodup := Selection.nodup_fixturesOf hids {}
  have hsequential : part.sequentialReport outcome cancelled =
      (whole.sequentialReport outcome cancelled).restrictTo selection :=
    sequentialReport_select jobs wholeJobs outcome cancelled
  constructor
  · intro order wholeOrder horder hwholeOrder
    rw [report_eq_sequentialReport hpartIds outcome cancelled (horder.map _),
      report_eq_sequentialReport hwholeIds outcome cancelled (hwholeOrder.map _), hsequential]
  · intro ρ τ run wholeRun hrun hwholeRun hover hwholeOver hcancelled hwholeCancelled houtcome
      hwholeOutcome
    obtain ⟨runner, world, schedule, rfl⟩ := hrun
    obtain ⟨other, mirror, wholeSchedule, rfl⟩ := hwholeRun
    have hperm := (sound_follow part runner world schedule).arrivals_perm_of_isOver hover houtcome
    have hwholePerm := (sound_follow whole other mirror
      wholeSchedule).arrivals_perm_of_isOver hwholeOver hwholeOutcome
    rw [reportOf, reportOf, hcancelled, hwholeCancelled,
      report_eq_sequentialReport hpartIds outcome cancelled hperm,
      report_eq_sequentialReport hwholeIds outcome cancelled hwholePerm, hsequential]

/-- Three compilers in a row. -/
def threeCompilers : Chain := twoCompilers.addAvailable ⟨⟨3, by decide, by decide⟩, .ofText "c3"⟩

/-- Leaves out one fixture and the compiler in the middle, and names a fixture that is not there. -/
def outerOnly : Selection where
  fixtures := [⟨"b"⟩, ⟨"z"⟩]
  generations := [.first, ⟨3, by decide, by decide⟩]

/-- What becomes of a trial when no program can be found. -/
def unstarted (stage : Stage) (fixture : Fixture) : Outcome :=
  .completed ((Trial.perform { artifactDir := ⟨[]⟩ } stage fixture).run
    (World.answer (noProgram stage fixture)) { files := {}, memory := () }).1

def outerRun : Run Unit :=
  (select { artifactDir := ⟨[]⟩ } 2 threeCompilers twoSources outerOnly).follow noProgram
    { files := {}, memory := () } (oneByOne 2)

def wholeRun : Run Unit :=
  (select { artifactDir := ⟨[]⟩ } 1 threeCompilers twoSources {}).follow noProgram
    { files := {}, memory := () } (oneByOne 6)

/-- Without the compiler in the middle nothing is compared, and two of the six failures stay. -/
theorem report_eq_restrictTo_outerOnly :
    let part := select { artifactDir := ⟨[]⟩ } 2 threeCompilers twoSources outerOnly
    let whole := select { artifactDir := ⟨[]⟩ } 1 threeCompilers twoSources {}
    (twoSources.map Fixture.id).Nodup ∧ outerRun.isOver = true ∧ wholeRun.isOver = true ∧
      part.reportOf outerRun = (whole.reportOf wholeRun).restrictTo outerOnly ∧
      (part.reportOf outerRun).comparisons.length = 0 ∧
      (part.reportOf outerRun).tally.pipelineFailures = 2 := by
  intro part whole
  have hids : (twoSources.map Fixture.id).Nodup := by decide
  obtain ⟨hover, hgoing, houtcome⟩ : outerRun.isOver = true ∧ outerRun.world.cancelled = false ∧
      ∀ task ∈ outerRun.tasks,
        task.phase.outcome? = some (unstarted task.stage task.fixture) := by decide +kernel
  obtain ⟨hwholeOver, hwholeGoing, hwholeOutcome⟩ : wholeRun.isOver = true ∧
      wholeRun.world.cancelled = false ∧ ∀ task ∈ wholeRun.tasks,
        task.phase.outcome? = some (unstarted task.stage task.fixture) := by decide +kernel
  have hpart := (report_eq_restrictTo { artifactDir := ⟨[]⟩ } threeCompilers twoSources hids
    outerOnly unstarted false 2 1).2 outerRun wholeRun ⟨_, _, _, rfl⟩ ⟨_, _, _, rfl⟩ hover
    hwholeOver hgoing hwholeGoing houtcome hwholeOutcome
  exact ⟨hids, hover, hwholeOver, hpart, by decide +kernel, by decide +kernel⟩

end Matrix

end BootChain
