import BootChain.Proofs.Matrix.Confluence
import BootChain.Proofs.Matrix.Coverage
import BootChain.Proofs.Matrix.Schedule
import BootChain.Proofs.Report.Cells
import BootChain.Proofs.Trial.Completed
import Mathlib.Data.List.Induction

namespace BootChain

/-- Whatever a job still comes to, or has come to, its trial meets a condition. -/
def Phase.Ensures (condition : Trial → Prop) : Phase → Prop
  | .waiting => True
  | .admitted => True
  | .running rest => rest.Ensures condition
  | .ended outcome => ∀ trial, outcome = .completed trial → condition trial
  | .joined outcome => ∀ trial, outcome = .completed trial → condition trial

/-- The trial of a job is a complete one of the job's own pair. -/
def Task.Faithful (task : Task) : Prop :=
  task.phase.Ensures (Trial.Completed task.stage.generation task.fixture.id)

namespace Matrix

variable {ρ : Type} {settings : Settings} {runner : Stage → Fixture → Runner ρ}
  {permitFree : Bool} {world left : World ρ} {task : Task} {phase : Phase} {matrix : Matrix}
  {run : Run ρ} {found : Arrival}

theorem Advance.faithful (hadvance : Advance settings runner permitFree world task phase left)
    (hfaithful : task.Faithful) : Task.Faithful { task with phase } := by
  rw [Task.Faithful] at hfaithful
  cases hadvance with
  | enter => trivial
  | giveUp => exact nofun
  | turnBack => exact nofun
  | begin => exact Trial.perform_ensures settings task.stage task.fixture
  | ask hphase =>
    rw [hphase] at hfaithful
    exact Job.Ensures.next hfaithful _
  | finish hphase =>
    rw [hphase] at hfaithful
    intro trial htrial
    cases htrial
    exact Job.Ensures.of_done hfaithful
  | breakDown => exact nofun
  | join hphase =>
    rw [hphase] at hfaithful
    exact hfaithful

theorem faithful_act (hfaithful : ∀ task ∈ run.tasks, task.Faithful) (action : Action) :
    ∀ task ∈ (matrix.act runner run action).tasks, task.Faithful := by
  obtain hact | hact | ⟨before, task, after, phase, left, htasks, hadvance, hact⟩ :=
    act_cases matrix runner run action
  · rwa [hact]
  · rwa [hact]
  · rw [hact]
    rw [htasks] at hfaithful
    intro other hother
    rcases List.mem_append.1 hother with hbefore | hrest
    · exact hfaithful other (List.mem_append_left _ hbefore)
    · rcases List.mem_cons.1 hrest with rfl | hafter
      · exact hadvance.faithful (hfaithful task (by simp))
      · exact hfaithful other (by simp [hafter])

/-- No job of a run ever comes to the trial of another pair, or to an incomplete one. -/
theorem faithful_follow (matrix : Matrix) (runner : Stage → Fixture → Runner ρ) (world : World ρ)
    (schedule : List Action) :
    ∀ task ∈ (matrix.follow runner world schedule).tasks, task.Faithful := by
  have hstart : ∀ task ∈ (matrix.start world).tasks, task.Faithful := by
    intro task htask
    obtain ⟨pair, -, rfl⟩ := List.mem_map.1 htask
    trivial
  exact follow_induction (motive := fun run => ∀ task ∈ run.tasks, task.Faithful) matrix runner
    world schedule hstart fun _ action hfaithful => faithful_act hfaithful action

theorem Sound.exists_task_of_mem_arrivals (hsound : matrix.Sound run)
    (hmem : found ∈ run.arrivals) : ∃ task ∈ run.tasks, ∃ outcome,
      task.phase = .joined outcome ∧ found = arrival task.stage task.fixture outcome := by
  rw [hsound.arrivals_perm.mem_iff, List.mem_filterMap] at hmem
  obtain ⟨task, htask, hfound⟩ := hmem
  obtain ⟨outcome, hjoined, rfl⟩ := Option.map_eq_some_iff.1 hfound
  refine ⟨task, htask, outcome, ?_, rfl⟩
  cases hphase : task.phase with
  | joined other =>
    rw [hphase] at hjoined
    cases hjoined
    rfl
  | _ =>
    rw [hphase] at hjoined
    cases hjoined

/-- What is handed in comes from pairs of the matrix, and each completed trial is a complete one of
    its own pair. -/
structure Genuine (matrix : Matrix) (arrivals : List Arrival) : Prop where
  exists_pair : ∀ found ∈ arrivals, ∃ stage fixture outcome,
    (stage, fixture) ∈ matrix.pairs ∧ found = arrival stage fixture outcome
  completed : ∀ found ∈ arrivals, ∀ trial, found.outcome = .completed trial →
    Trial.Completed found.generation found.fixture trial

theorem genuine_follow (matrix : Matrix) (runner : Stage → Fixture → Runner ρ) (world : World ρ)
    (schedule : List Action) : matrix.Genuine (matrix.follow runner world schedule).arrivals := by
  have hsound := sound_follow matrix runner world schedule
  have hfaithful := faithful_follow matrix runner world schedule
  constructor
  · intro found hmem
    obtain ⟨task, htask, outcome, -, rfl⟩ := hsound.exists_task_of_mem_arrivals hmem
    exact ⟨_, _, outcome, hsound.pairs_eq ▸ List.mem_map_of_mem htask, rfl⟩
  · intro found hmem trial htrial
    obtain ⟨task, htask, outcome, hphase, rfl⟩ := hsound.exists_task_of_mem_arrivals hmem
    have hensures := hfaithful task htask
    rw [Task.Faithful, hphase] at hensures
    exact hensures trial htrial

end Matrix

namespace Report

variable {chain : Chain} {fixtures : List Fixture} {cells : SortedMap FixtureId Row}
  {arrival : Arrival} {arrivals : List Arrival} {id : FixtureId} {generation : Generation}
  {cell : Cell}

theorem cellsOf_append_singleton : cellsOf chain fixtures (arrivals ++ [arrival]) =
    place fixtures (cellsOf chain fixtures arrivals) arrival := by
  rw [cellsOf, List.foldl_append]
  rfl

/-- A cell is as it was before anything was handed in, or it holds a trial that was handed in for
    its own pair. -/
theorem cellAt?_cellsOf_cases
    (hcell : cellAt? (cellsOf chain fixtures arrivals) id generation = some cell) :
    cellAt? (openCells chain fixtures) id generation = some cell ∨
      ∃ found ∈ arrivals, ∃ trial, found.key = (generation, id) ∧
        found.outcome = .completed trial ∧ cell = .evaluated trial (isMatch fixtures id trial) := by
  induction arrivals using List.reverseRecOn with
  | nil => exact .inl hcell
  | append_singleton earlier last ih =>
    have hearlier : cellAt? (cellsOf chain fixtures earlier) id generation = some cell →
        cellAt? (openCells chain fixtures) id generation = some cell ∨
          ∃ found ∈ earlier ++ [last], ∃ trial, found.key = (generation, id) ∧
            found.outcome = .completed trial ∧
            cell = .evaluated trial (isMatch fixtures id trial) := by
      intro hold
      obtain hopen | ⟨found, hfound, htrial⟩ := ih hold
      · exact .inl hopen
      · exact .inr ⟨found, List.mem_append_left _ hfound, htrial⟩
    rw [cellsOf_append_singleton] at hcell
    by_cases hcompleted : ∃ trial, last.outcome = .completed trial
    · obtain ⟨trial, htrial⟩ := hcompleted
      rw [cellAt?_place htrial] at hcell
      split at hcell
      next hkey =>
        obtain ⟨row, -, hevaluated⟩ := Option.map_eq_some_iff.1 hcell
        exact .inr ⟨last, by simp, trial, hkey, htrial, hevaluated.symm⟩
      next => exact hearlier hcell
    · rw [place_of_not_completed hcompleted] at hcell
      exact hearlier hcell

theorem isSome_get?_cellsOf :
    ((cellsOf chain fixtures arrivals).get? id).isSome = true ↔ id ∈ fixtures.map Fixture.id := by
  have hrows : ((cellsOf chain fixtures arrivals).get? id).isSome =
      ((openCells chain fixtures).get? id).isSome :=
    foldl_place_induction
      (motive := fun cells => (cells.get? id).isSome = ((openCells chain fixtures).get? id).isSome)
      (fun cells other hcells => by rw [isSome_get?_place, hcells]) rfl arrivals
  rw [hrows, get?_openCells]
  split <;> simp_all

theorem isSome_cellAt?_place (hsome : (cellAt? cells id generation).isSome = true) :
    (cellAt? (place fixtures cells arrival) id generation).isSome = true := by
  by_cases hcompleted : ∃ trial, arrival.outcome = .completed trial
  · obtain ⟨trial, htrial⟩ := hcompleted
    rw [cellAt?_place htrial]
    split
    · obtain ⟨cell, hcell⟩ := Option.isSome_iff_exists.1 hsome
      obtain ⟨row, hrow, -⟩ := Option.bind_eq_some_iff.1 hcell
      rw [hrow]
      rfl
    · exact hsome
  · rwa [place_of_not_completed hcompleted]

/-- There is a cell for each fixture under each generation of the chain, and no other, as long as
    nothing is handed in for a generation outside it. -/
theorem isSome_cellAt?_cellsOf
    (hchain : ∀ found ∈ arrivals, (chain.get? found.generation).isSome = true) :
    (cellAt? (cellsOf chain fixtures arrivals) id generation).isSome = true ↔
      id ∈ fixtures.map Fixture.id ∧ (chain.get? generation).isSome = true := by
  constructor
  · intro hsome
    obtain ⟨cell, hcell⟩ := Option.isSome_iff_exists.1 hsome
    obtain ⟨row, hrow, -⟩ := Option.bind_eq_some_iff.1 hcell
    refine ⟨isSome_get?_cellsOf.1 (Option.isSome_iff_exists.2 ⟨row, hrow⟩), ?_⟩
    obtain hopen | ⟨found, hfound, trial, hkey, -⟩ := cellAt?_cellsOf_cases hcell
    · rw [cellAt?_openCells] at hopen
      split at hopen
      · obtain ⟨slot, hslot, -⟩ := Option.map_eq_some_iff.1 hopen
        rw [hslot]
        rfl
      · cases hopen
    · cases hkey
      exact hchain found hfound
  · rintro ⟨hid, hgeneration⟩
    refine foldl_place_induction
      (motive := fun cells => (cellAt? cells id generation).isSome = true)
      (fun cells other hcells => isSome_cellAt?_place hcells) ?_ arrivals
    rw [cellAt?_openCells, if_pos hid, Option.isSome_map]
    exact hgeneration

/-- Where no two fixtures share an id, an id stands for the fixture that has it. -/
theorem fixtureOf?_of_mem (hids : (fixtures.map Fixture.id).Nodup) {fixture : Fixture}
    (hmem : fixture ∈ fixtures) : fixtureOf? fixtures fixture.id = some fixture := by
  obtain ⟨found, hfound⟩ : ∃ found, fixtureOf? fixtures fixture.id = some found :=
    Option.isSome_iff_exists.1
      (List.find?_isSome.2 ⟨fixture, List.mem_reverse.2 hmem, decide_eq_true rfl⟩)
  have hid : found.id = fixture.id := by simpa using List.find?_some hfound
  have hin : found ∈ fixtures := List.mem_reverse.1 (List.mem_of_find?_eq_some hfound)
  rw [hfound, List.inj_on_of_nodup_map hids hin hmem hid]

theorem trial?_eq_some_iff {report : Report} {trial : Trial} :
    report.trial? id generation = some trial ↔
      ∃ matchesExpected, report.cell? id generation = some (.evaluated trial matchesExpected) := by
  rw [trial?]
  cases report.cell? id generation with
  | none => simp
  | some cell => cases cell <;> simp [Cell.trial?]

end Report

namespace Matrix

variable {ρ : Type} {matrix : Matrix} {run : Run ρ} {arrivals : List Arrival} {cancelled : Bool}

/-- How the cells of a report lie over a chain and some fixtures: a row for each fixture, and in it a
    cell for each generation of the chain. What was looked for in vain is not evaluated, and what is
    there is skipped or evaluated; an evaluated cell holds the trial of its own pair, and says
    whether the trial printed, octet for octet, what the fixture has to print. -/
structure Grid (chain : Chain) (fixtures : List Fixture) (report : Report) : Prop where
  rows_perm : report.cells.keys.Perm (fixtures.map Fixture.id)
  columns_eq : ∀ id row, report.cells.get? id = some row → row.keys = chain.slots.keys
  notEvaluated_iff : ∀ fixture ∈ fixtures, ∀ generation path,
    report.cell? fixture.id generation = some (.notEvaluated path) ↔
      chain.get? generation = some (.missing path)
  skipped_or_evaluated : ∀ fixture ∈ fixtures, ∀ generation stage,
    chain.get? generation = some (.available stage) →
      report.cell? fixture.id generation = some .skipped ∨ ∃ trial matchesExpected,
        report.cell? fixture.id generation = some (.evaluated trial matchesExpected)
  evaluated : ∀ fixture ∈ fixtures, ∀ generation trial matchesExpected,
    report.cell? fixture.id generation = some (.evaluated trial matchesExpected) →
      trial.generation = generation ∧ trial.fixture = fixture.id ∧
        (matchesExpected = true ↔
          trial.succeeded = true ∧ trial.output? = some fixture.expected)

theorem rows_perm_report (hids : (matrix.fixtures.map Fixture.id).Nodup) :
    (matrix.report arrivals cancelled).cells.keys.Perm (matrix.fixtures.map Fixture.id) := by
  rw [List.perm_ext_iff_of_nodup (SortedMap.nodup_keys _) hids]
  intro id
  rw [SortedMap.mem_keys_iff]
  exact Report.isSome_get?_cellsOf

namespace Genuine

variable (hgenuine : matrix.Genuine arrivals)
include hgenuine

/-- Outcomes are handed in only for compilers that are there. -/
theorem exists_available {found : Arrival} (hfound : found ∈ arrivals) :
    ∃ stage, matrix.chain.get? found.generation = some (.available stage) := by
  obtain ⟨stage, fixture, outcome, hpair, rfl⟩ := hgenuine.exists_pair found hfound
  exact ⟨stage, Chain.mem_available_iff.1 (mem_pairs_iff.1 hpair).1⟩

theorem isSome_cell? (cancelled : Bool) (id : FixtureId) (generation : Generation) :
    ((matrix.report arrivals cancelled).cell? id generation).isSome = true ↔
      id ∈ matrix.fixtures.map Fixture.id ∧ (matrix.chain.get? generation).isSome = true := by
  refine Report.isSome_cellAt?_cellsOf fun found hfound => ?_
  obtain ⟨stage, hstage⟩ := hgenuine.exists_available hfound
  rw [hstage]
  rfl

/-- What a cell of the report can be: open as its slot has it, or the evaluation of a trial that is
    complete and about the cell's own pair. -/
theorem cell_cases {id : FixtureId} {generation : Generation} {cell : Cell}
    (hcell : (matrix.report arrivals cancelled).cell? id generation = some cell) :
    (∃ slot, matrix.chain.get? generation = some slot ∧ cell = Report.openCell slot) ∨
      ∃ stage trial, matrix.chain.get? generation = some (.available stage) ∧
        Trial.Completed generation id trial ∧
        cell = .evaluated trial (Report.isMatch matrix.fixtures id trial) := by
  obtain hopen | ⟨found, hfound, trial, hkey, htrial, hevaluated⟩ :=
    Report.cellAt?_cellsOf_cases hcell
  · rw [Report.cellAt?_openCells] at hopen
    split at hopen
    · obtain ⟨slot, hslot, hcell⟩ := Option.map_eq_some_iff.1 hopen
      exact .inl ⟨slot, hslot, hcell.symm⟩
    · cases hopen
  · have hcompleted := hgenuine.completed found hfound trial htrial
    obtain ⟨stage, hstage⟩ := hgenuine.exists_available hfound
    cases hkey
    exact .inr ⟨stage, trial, hstage, hcompleted, hevaluated⟩

theorem columns_eq {id : FixtureId} {row : Row}
    (hrow : (matrix.report arrivals cancelled).cells.get? id = some row) :
    row.keys = matrix.chain.slots.keys := by
  have hid : id ∈ matrix.fixtures.map Fixture.id :=
    Report.isSome_get?_cellsOf.1 (Option.isSome_iff_exists.2 ⟨row, hrow⟩)
  apply SortedMap.keys_eq_of_mem_iff
  intro generation
  have hcell : (matrix.report arrivals cancelled).cell? id generation = row.get? generation := by
    rw [Report.cell?, hrow]
    rfl
  have hsome := hgenuine.isSome_cell? cancelled id generation
  rw [hcell] at hsome
  rw [SortedMap.mem_keys_iff, SortedMap.mem_keys_iff, hsome]
  exact and_iff_right hid

theorem grid (hids : (matrix.fixtures.map Fixture.id).Nodup) :
    Grid matrix.chain matrix.fixtures (matrix.report arrivals cancelled) where
  rows_perm := rows_perm_report hids
  columns_eq _ _ hrow := hgenuine.columns_eq hrow
  notEvaluated_iff fixture hfixture generation path := by
    constructor
    · intro hcell
      obtain ⟨slot, hslot, hopen⟩ | ⟨stage, trial, -, -, hevaluated⟩ := hgenuine.cell_cases hcell
      · cases slot with
        | missing expected =>
          cases hopen
          exact hslot
        | available stage => cases hopen
      · cases hevaluated
    · intro hmissing
      have hsome := (hgenuine.isSome_cell? cancelled fixture.id generation).2
        ⟨List.mem_map_of_mem hfixture, by rw [hmissing]; rfl⟩
      obtain ⟨cell, hcell⟩ := Option.isSome_iff_exists.1 hsome
      obtain ⟨slot, hslot, rfl⟩ | ⟨stage, trial, hstage, -, -⟩ := hgenuine.cell_cases hcell
      · cases hmissing.symm.trans hslot
        exact hcell
      · cases hmissing.symm.trans hstage
  skipped_or_evaluated fixture hfixture generation stage hstage := by
    have hsome := (hgenuine.isSome_cell? cancelled fixture.id generation).2
      ⟨List.mem_map_of_mem hfixture, by rw [hstage]; rfl⟩
    obtain ⟨cell, hcell⟩ := Option.isSome_iff_exists.1 hsome
    obtain ⟨slot, hslot, rfl⟩ | ⟨_, trial, -, -, rfl⟩ := hgenuine.cell_cases hcell
    · cases hstage.symm.trans hslot
      exact .inl hcell
    · exact .inr ⟨trial, _, hcell⟩
  evaluated fixture hfixture generation trial matchesExpected hcell := by
    obtain ⟨slot, -, hopen⟩ | ⟨stage, found, -, hcompleted, hevaluated⟩ :=
      hgenuine.cell_cases hcell
    · cases slot <;> cases hopen
    · cases hevaluated
      refine ⟨hcompleted.generation_eq, hcompleted.fixture_eq, ?_⟩
      rw [Report.isMatch_iff, Report.fixtureOf?_of_mem hids hfixture]
      simp

end Genuine

/-- In a run that is over and was never cancelled, each pair whose job did not break down is
    evaluated. -/
theorem Sound.evaluatedAt_of_pair (hsound : matrix.Sound run) (hover : run.isOver = true)
    (hgoing : run.world.cancelled = false)
    (hsafe : ∀ task ∈ run.tasks, task.phase.outcome? ≠ some .brokeDown)
    {stage : Stage} {fixture : Fixture} (hpair : (stage, fixture) ∈ matrix.pairs) :
    Report.EvaluatedAt (matrix.reportOf run).cells (stage.generation, fixture.id) := by
  have hid : fixture.id ∈ matrix.fixtures.map Fixture.id :=
    List.mem_map_of_mem (mem_pairs_iff.1 hpair).2
  rw [← hsound.pairs_eq] at hpair
  obtain ⟨task, htask, hof⟩ := List.mem_map.1 hpair
  cases hof
  obtain ⟨outcome, hphase⟩ := exists_joined_of_isOver hover htask
  cases outcome with
  | completed trial =>
    exact Report.evaluatedAt_cellsOf (hsound.mem_arrivals_of_joined htask hphase) rfl hid
  | notStarted =>
    have hcancelled := hsound.cancelled_of_notStarted task htask (by rw [hphase]; rfl)
    cases hcancelled.symm.trans hgoing
  | brokeDown => exact absurd (by rw [hphase]; rfl) (hsafe task htask)

/-- A trial in a report is what the job of its pair has come to. -/
theorem Sound.exists_task_of_trial? (hsound : matrix.Sound run) {id : FixtureId}
    {generation : Generation} {trial : Trial}
    (htrial : (matrix.reportOf run).trial? id generation = some trial) :
    ∃ task ∈ run.tasks, task.stage.generation = generation ∧ task.fixture.id = id ∧
      task.phase = .joined (.completed trial) := by
  obtain ⟨matchesExpected, hcell⟩ := Report.trial?_eq_some_iff.1 htrial
  obtain hopen | ⟨found, hfound, held, hkey, hheld, hevaluated⟩ :=
    Report.cellAt?_cellsOf_cases hcell
  · rw [Report.cellAt?_openCells] at hopen
    split at hopen
    · obtain ⟨slot, -, hslot⟩ := Option.map_eq_some_iff.1 hopen
      cases slot <;> cases hslot
    · cases hopen
  · cases hevaluated
    obtain ⟨task, htask, outcome, hphase, rfl⟩ := hsound.exists_task_of_mem_arrivals hfound
    cases (hheld : outcome = .completed trial)
    cases hkey
    exact ⟨task, htask, rfl, rfl, hphase⟩

/-- The cells of the report on any run lie over the selected part of the matrix, whatever happened
    in the run, in whatever order and with however many jobs at a time. Once all jobs have come to
    an end without a cancellation or a breakdown, none of the cells is skipped. -/
theorem grid_report (settings : Settings) (jobs : Nat) (chain : Chain) (fixtures : List Fixture)
    (selection : Selection) (hids : (fixtures.map Fixture.id).Nodup)
    (runner : Stage → Fixture → Runner ρ) (world : World ρ) (schedule : List Action) :
    let matrix := select settings jobs chain fixtures selection
    let run := matrix.follow runner world schedule
    Grid (selection.chain chain) (fixtures.filter fun fixture => selection.selects fixture.id)
        (matrix.reportOf run) ∧
      (run.isOver = true → run.world.cancelled = false →
        (∀ task ∈ run.tasks, task.phase.outcome? ≠ some .brokeDown) →
        ∀ id generation, (matrix.reportOf run).cell? id generation ≠ some .skipped) := by
  intro matrix run
  have hgenuine : matrix.Genuine run.arrivals := genuine_follow matrix runner world schedule
  have hsound : matrix.Sound run := sound_follow matrix runner world schedule
  have hselected : (matrix.fixtures.map Fixture.id).Nodup := selection.nodup_fixturesOf hids
  refine ⟨hgenuine.grid hselected, ?_⟩
  intro hover hgoing hsafe id generation hskipped
  have hsome := Option.isSome_iff_exists.2 ⟨_, hskipped⟩
  obtain ⟨hid, -⟩ := (hgenuine.isSome_cell? _ id generation).1 hsome
  obtain ⟨fixture, hfixture, rfl⟩ := List.mem_map.1 hid
  obtain ⟨slot, hslot, hopen⟩ | ⟨_, _, -, -, hevaluated⟩ := hgenuine.cell_cases hskipped
  · cases slot with
    | missing path => cases hopen
    | available stage =>
      have hgeneration := matrix.chain.keyed _ (SortedMap.get?_eq_some_iff.1 hslot) stage rfl
      cases hgeneration
      have hpair : (stage, fixture) ∈ matrix.pairs :=
        mem_pairs_iff.2 ⟨Chain.mem_available_iff.2 hslot, hfixture⟩
      obtain ⟨trial, matchesExpected, hcell⟩ :=
        hsound.evaluatedAt_of_pair hover hgoing hsafe hpair
      cases hskipped.symm.trans hcell
  · cases hevaluated

/-- One compiler that is there, and one that is not. -/
def halfProbed : Chain :=
  (Chain.empty.addAvailable ⟨.first, .ofText "c"⟩).addMissing (Generation.first.next?.getD .first)
    (.ofText "c.stage2")

/-- One of two fixtures is selected. -/
def onlyFirst : Matrix :=
  select { artifactDir := ⟨[]⟩ } 1 halfProbed twoSources { fixtures := [⟨"a"⟩] }

/-- A run of the one job that there is to its end. -/
def onlyRun : Run Rehearsal.Script :=
  onlyFirst.follow (Rehearsal.runner { artifactDir := ⟨[]⟩ }) { files := {}, memory := {} }
    ([.move 0 .enter] ++ List.replicate 17 (.move 0 .step) ++ [.move 0 .join])

theorem grid_report_onlyRun :
    (twoSources.map Fixture.id).Nodup ∧ onlyRun.isOver = true ∧
      onlyRun.world.cancelled = false ∧
      (∀ task ∈ onlyRun.tasks, task.phase.outcome? ≠ some .brokeDown) ∧
      Grid halfProbed [⟨⟨"a"⟩, .ofText "a.c", []⟩] (onlyFirst.reportOf onlyRun) ∧
      (onlyFirst.reportOf onlyRun).cell? ⟨"a"⟩ .first ≠ some .skipped := by
  have hids : (twoSources.map Fixture.id).Nodup := by decide
  have hover : onlyRun.isOver = true := by decide +kernel
  have hgoing : onlyRun.world.cancelled = false := by decide +kernel
  have hsafe : ∀ task ∈ onlyRun.tasks, task.phase.outcome? ≠ some .brokeDown := by
    decide +kernel
  refine ⟨hids, hover, hgoing, hsafe, ?_⟩
  obtain ⟨hgrid, hdone⟩ := grid_report { artifactDir := ⟨[]⟩ } 1 halfProbed twoSources
    { fixtures := [⟨"a"⟩] } hids (Rehearsal.runner { artifactDir := ⟨[]⟩ })
    { files := {}, memory := {} }
    ([.move 0 .enter] ++ List.replicate 17 (.move 0 .step) ++ [.move 0 .join])
  unfold onlyRun onlyFirst at hover hgoing hsafe ⊢
  exact ⟨hgrid, hdone hover hgoing hsafe _ _⟩

end Matrix

end BootChain
