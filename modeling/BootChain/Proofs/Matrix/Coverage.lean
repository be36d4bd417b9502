import BootChain.Proofs.Matrix.Schedule
import BootChain.Proofs.Report.Status
import BootChain.Rehearsal

namespace BootChain.Matrix

variable {ρ : Type} {matrix : Matrix} {run : Run ρ}

/-- The cell of a pair holds a trial that printed what the fixture of the pair has to print. -/
def Covers (matrix : Matrix) (report : Report) (pair : Stage × Fixture) : Prop :=
  ∃ trial fixture, report.cell? pair.2.id pair.1.generation = some (.evaluated trial true) ∧
    Report.fixtureOf? matrix.fixtures pair.2.id = some fixture ∧
    trial.output? = some fixture.expected

/-- The job of a pair broke down in a run. -/
def BrokeDown (run : Run ρ) (pair : Stage × Fixture) : Prop :=
  ∃ task ∈ run.tasks, (task.stage, task.fixture) = pair ∧
    task.phase.outcome? = some .brokeDown

theorem exists_joined_of_isOver (hover : run.isOver = true) {task : Task}
    (htask : task ∈ run.tasks) : ∃ outcome, task.phase = .joined outcome := by
  have hjoined := List.all_eq_true.1 hover task htask
  cases hphase : task.phase with
  | joined outcome => exact ⟨outcome, rfl⟩
  | _ =>
    rw [hphase] at hjoined
    cases hjoined

theorem Sound.mem_arrivals_of_joined (hsound : matrix.Sound run) {task : Task}
    (htask : task ∈ run.tasks) {outcome : Outcome} (hphase : task.phase = .joined outcome) :
    arrival task.stage task.fixture outcome ∈ run.arrivals := by
  rw [hsound.arrivals_perm.mem_iff, List.mem_filterMap]
  refine ⟨task, htask, ?_⟩
  rw [Task.arrival?, hphase]
  rfl

/-- A completed job of a run whose trials all met their expectations covers its pair. -/
theorem Sound.covers_of_completed (hsound : matrix.Sound run)
    (hmatch : (matrix.reportOf run).AllMatch) {task : Task} (htask : task ∈ run.tasks)
    {trial : Trial} (hphase : task.phase = .joined (.completed trial)) :
    matrix.Covers (matrix.reportOf run) (task.stage, task.fixture) := by
  have hpair : (task.stage, task.fixture) ∈ matrix.pairs :=
    hsound.pairs_eq ▸ List.mem_map_of_mem htask
  have hid : task.fixture.id ∈ matrix.fixtures.map Fixture.id :=
    List.mem_map_of_mem (mem_pairs_iff.1 hpair).2
  obtain ⟨found, matchesExpected, hcell⟩ :=
    Report.evaluatedAt_cellsOf (hsound.mem_arrivals_of_joined htask hphase) rfl hid
  have hflag : matchesExpected = true := hmatch _ _ _ _ hcell
  subst hflag
  obtain ⟨-, fixture, hfixture, houtput⟩ :=
    Report.isMatch_iff.1 (Report.judged_cellsOf run.arrivals _ _ _ _ hcell).symm
  exact ⟨found, fixture, hcell, hfixture, houtput⟩

/-- A run that exits with code zero covers each of its pairs, except those whose own job broke
    down. -/
theorem covers_of_exitCode_eq_zero (matrix : Matrix) (runner : Stage → Fixture → Runner ρ)
    (world : World ρ) (schedule : List Action)
    (hover : (matrix.follow runner world schedule).isOver = true)
    (hpass : (matrix.reportOf (matrix.follow runner world schedule)).status.exitCode = 0) :
    ∀ pair ∈ matrix.pairs,
      matrix.Covers (matrix.reportOf (matrix.follow runner world schedule)) pair ∨
      BrokeDown (matrix.follow runner world schedule) pair := by
  have hsound := sound_follow matrix runner world schedule
  generalize matrix.follow runner world schedule = run at hover hpass hsound
  obtain ⟨hgoing, -, hclean⟩ :=
    Report.status_eq_pass_iff.1 ((Status.exitCode_inj (b := .pass)).1 hpass)
  intro pair hpair
  rw [← hsound.pairs_eq] at hpair
  obtain ⟨task, htask, rfl⟩ := List.mem_map.1 hpair
  obtain ⟨outcome, hphase⟩ := exists_joined_of_isOver hover htask
  cases outcome with
  | completed trial =>
    have hmatch := Report.findings_assemble_eq_nil_iff.1 hclean
    exact .inl (hsound.covers_of_completed hmatch htask hphase)
  | notStarted =>
    have hcancelled := hsound.cancelled_of_notStarted task htask (by rw [hphase]; rfl)
    cases hcancelled.symm.trans hgoing
  | brokeDown => exact .inr ⟨task, htask, rfl, by rw [hphase]; rfl⟩

/-- Two fixtures under the first compiler, one job at a time. -/
def twoFixtures : Matrix where
  settings := { artifactDir := ⟨[]⟩ }
  chain := Chain.empty.addAvailable ⟨.first, .ofText "c"⟩
  fixtures := [⟨⟨"a"⟩, .ofText "a.c", []⟩, ⟨⟨"b"⟩, .ofText "b.c", []⟩]
  jobs := 1

/-- The first job goes through to its end, and the second breaks down once it runs. -/
def secondBreaksDown : List Action :=
  [.move 0 .enter] ++ List.replicate 17 (.move 0 .step) ++ [.move 0 .join] ++
    [.move 1 .enter, .move 1 .step, .move 1 .breakDown, .move 1 .join]

/-- A run in which the programs do what is expected of them. -/
def brokenRun : Run Rehearsal.Script :=
  twoFixtures.follow (Rehearsal.runner twoFixtures.settings) { files := {}, memory := {} }
    secondBreaksDown

/-- Next to the job that broke down, the other pair is covered. -/
theorem covers_first_of_brokenRun :
    brokenRun.isOver = true ∧ (twoFixtures.reportOf brokenRun).status.exitCode = 0 ∧
      (⟨.first, .ofText "c"⟩, ⟨⟨"a"⟩, .ofText "a.c", []⟩) ∈ twoFixtures.pairs ∧
      twoFixtures.Covers (twoFixtures.reportOf brokenRun)
        (⟨.first, .ofText "c"⟩, ⟨⟨"a"⟩, .ofText "a.c", []⟩) := by
  have hover : brokenRun.isOver = true := by decide +kernel
  have hpass : (twoFixtures.reportOf brokenRun).status.exitCode = 0 := by decide +kernel
  have hpair : (⟨.first, .ofText "c"⟩, ⟨⟨"a"⟩, .ofText "a.c", []⟩) ∈ twoFixtures.pairs := by
    decide +kernel
  have hfirst : ¬ BrokeDown brokenRun (⟨.first, .ofText "c"⟩, ⟨⟨"a"⟩, .ofText "a.c", []⟩) := by
    unfold BrokeDown
    decide +kernel
  have hcovers := covers_of_exitCode_eq_zero twoFixtures (Rehearsal.runner twoFixtures.settings)
    { files := {}, memory := {} } secondBreaksDown hover hpass _ hpair
  exact ⟨hover, hpass, hpair, hcovers.resolve_right hfirst⟩

/-- A run can exit with code zero though the cell of a pair was skipped, whose compiler is there. -/
theorem exitCode_eq_zero_of_skipped_pair :
    brokenRun.isOver = true ∧ (twoFixtures.reportOf brokenRun).status.exitCode = 0 ∧
      (⟨.first, .ofText "c"⟩, ⟨⟨"b"⟩, .ofText "b.c", []⟩) ∈ twoFixtures.pairs ∧
      (twoFixtures.reportOf brokenRun).cell? ⟨"b"⟩ .first = some .skipped := by
  refine ⟨?_, ?_, ?_, ?_⟩ <;> decide +kernel

end BootChain.Matrix
