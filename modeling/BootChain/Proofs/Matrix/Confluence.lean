import BootChain.Proofs.Chain
import BootChain.Proofs.Matrix.Schedule
import BootChain.Proofs.Report.Cells
import BootChain.Report.Markdown
import Mathlib.Data.List.Nodup

namespace BootChain

theorem Selection.nodup_fixturesOf {fixtures : List Fixture}
    (hids : (fixtures.map Fixture.id).Nodup) (selection : Selection) :
    ((selection.fixturesOf fixtures).map Fixture.id).Nodup :=
  hids.sublist (List.filter_sublist.map Fixture.id)

namespace Matrix

variable {matrix : Matrix}

/-- Where no two fixtures share an id, no two pairs share a place in the report. -/
theorem arrival_inj (hids : (matrix.fixtures.map Fixture.id).Nodup)
    (outcome : Stage → Fixture → Outcome) {first second : Arrival}
    (hfirst : first ∈ matrix.pairs.map fun (stage, fixture) =>
      arrival stage fixture (outcome stage fixture))
    (hsecond : second ∈ matrix.pairs.map fun (stage, fixture) =>
      arrival stage fixture (outcome stage fixture))
    (hkey : first.key = second.key) : first = second := by
  obtain ⟨⟨stage, fixture⟩, hpair, rfl⟩ := List.mem_map.1 hfirst
  obtain ⟨⟨otherStage, otherFixture⟩, hother, rfl⟩ := List.mem_map.1 hsecond
  obtain ⟨hstage, hfixture⟩ := mem_pairs_iff.1 hpair
  obtain ⟨hotherStage, hotherFixture⟩ := mem_pairs_iff.1 hother
  obtain ⟨hgeneration, hid⟩ := Prod.mk.inj hkey
  cases List.inj_on_of_nodup_map matrix.chain.nodup_available hstage hotherStage hgeneration
  cases List.inj_on_of_nodup_map hids hfixture hotherFixture hid
  rfl

/-- The report of the outcomes of all pairs, handed in generation by generation. -/
def sequentialReport (matrix : Matrix) (outcome : Stage → Fixture → Outcome) (cancelled : Bool) :
    Report :=
  matrix.report
    (matrix.pairs.map fun (stage, fixture) => arrival stage fixture (outcome stage fixture))
    cancelled

/-- A report does not depend on the order in which the outcomes of the pairs are handed in. -/
theorem report_eq_sequentialReport (hids : (matrix.fixtures.map Fixture.id).Nodup)
    (outcome : Stage → Fixture → Outcome) (cancelled : Bool) {arrivals : List Arrival}
    (hperm : arrivals.Perm (matrix.pairs.map fun (stage, fixture) =>
      arrival stage fixture (outcome stage fixture))) :
    matrix.report arrivals cancelled = matrix.sequentialReport outcome cancelled := by
  refine (Report.assemble_perm hperm.symm ?_ cancelled).symm
  exact fun first hfirst second hsecond hkey => arrival_inj hids outcome hfirst hsecond hkey

end Matrix

/-- Two reports say the same in each of their parts and in both of their texts. -/
structure Report.Alike (report other : Report) : Prop where
  cells_eq : report.cells = other.cells
  comparisons_eq : report.comparisons = other.comparisons
  findings_eq : report.findings = other.findings
  tally_eq : report.tally = other.tally
  plainText_eq : ∀ chain, Report.plainText chain report = Report.plainText chain other
  markdown_eq : ∀ chain, Report.markdown chain report = Report.markdown chain other

theorem Report.Alike.of_eq {report other : Report} (heq : report = other) : report.Alike other := by
  subst heq
  exact ⟨rfl, rfl, rfl, rfl, fun _ => rfl, fun _ => rfl⟩

namespace Matrix

/-- With the outcomes of all pairs given, the report is that of handing them in generation by
    generation, in whatever order they come, whatever the bound on the jobs that run at a time and
    whatever schedule the run has gone through. -/
theorem report_alike_sequential (settings : Settings) (chain : Chain) (fixtures : List Fixture)
    (selection : Selection) (hids : (fixtures.map Fixture.id).Nodup)
    (outcome : Stage → Fixture → Outcome) (cancelled : Bool) (jobs : Nat) :
    let matrix := select settings jobs chain fixtures selection
    let sequential :=
      (select settings 1 chain fixtures selection).sequentialReport outcome cancelled
    (∀ order : List (Stage × Fixture), order.Perm matrix.pairs →
      (matrix.report (order.map fun (stage, fixture) =>
        arrival stage fixture (outcome stage fixture)) cancelled).Alike sequential) ∧
    ∀ {ρ : Type} (runner : Stage → Fixture → Runner ρ) (world : World ρ) (schedule : List Action),
      (matrix.follow runner world schedule).isOver = true →
      (matrix.follow runner world schedule).world.cancelled = cancelled →
      (∀ task ∈ (matrix.follow runner world schedule).tasks,
        task.phase.outcome? = some (outcome task.stage task.fixture)) →
      (matrix.reportOf (matrix.follow runner world schedule)).Alike sequential := by
  intro matrix sequential
  have hselected : (matrix.fixtures.map Fixture.id).Nodup := selection.nodup_fixturesOf hids
  refine ⟨fun order horder => ?_, fun runner world schedule hover hcancelled houtcome => ?_⟩
  · exact .of_eq (report_eq_sequentialReport hselected outcome cancelled (horder.map _))
  · have hperm := (sound_follow matrix runner world schedule).arrivals_perm_of_isOver hover houtcome
    rw [reportOf, hcancelled]
    exact .of_eq (report_eq_sequentialReport hselected outcome cancelled hperm)

/-- Two compilers in a row. -/
def twoCompilers : Chain :=
  (Chain.empty.addAvailable ⟨.first, .ofText "c"⟩).addAvailable
    ⟨⟨2, by decide, by decide⟩, .ofText "c2"⟩

/-- What the first of them builds. -/
def secondGeneration : Generation := ⟨2, by decide, by decide⟩

def twoSources : List Fixture := [⟨⟨"a"⟩, .ofText "a.c", []⟩, ⟨⟨"b"⟩, .ofText "b.c", []⟩]

/-- No program can be found. -/
def noProgram : Stage → Fixture → Runner Unit :=
  fun _ _ command _ world => (.error (.start command.line .notFound "no such file"), world)

/-- The trials of one fixture fail, and the jobs of the other break down. -/
def failing (stage : Stage) (fixture : Fixture) : Outcome :=
  if fixture.id = ⟨"b"⟩ then .brokeDown
  else .completed ((Trial.perform { artifactDir := ⟨[]⟩ } stage fixture).run
    (World.answer (noProgram stage fixture)) { files := {}, memory := () }).1

/-- Two jobs at a time, which are handed in from the last to the first. -/
def crossed : List Action :=
  [.move 3 .enter, .move 2 .enter, .move 3 .step, .move 2 .step, .move 3 .breakDown,
    .move 0 .enter] ++
    List.replicate 8 (.move 2 .step) ++ [.move 1 .enter, .move 1 .step, .move 1 .breakDown] ++
    List.replicate 9 (.move 0 .step) ++
    [.move 3 .join, .move 2 .join, .move 1 .join, .move 0 .join]

def twoByTwo (jobs : Nat) : Matrix :=
  select { artifactDir := ⟨[]⟩ } jobs twoCompilers twoSources {}

/-- A run of four jobs that are handed in from the last to the first. -/
def crossedRun : Run Unit :=
  (twoByTwo 2).follow noProgram { files := {}, memory := () } crossed

/-- Two orders in which the same outcomes are handed in, one of them by a run. -/
theorem report_alike_sequential_crossed :
    (twoSources.map Fixture.id).Nodup ∧ (twoByTwo 2).pairs.reverse.Perm (twoByTwo 2).pairs ∧
      crossedRun.isOver = true ∧
      ((twoByTwo 2).report ((twoByTwo 2).pairs.reverse.map fun (stage, fixture) =>
        arrival stage fixture (failing stage fixture)) false).Alike
          ((twoByTwo 1).sequentialReport failing false) ∧
      ((twoByTwo 2).reportOf crossedRun).Alike ((twoByTwo 1).sequentialReport failing false) := by
  have hids : (twoSources.map Fixture.id).Nodup := by decide
  have hreverse : (twoByTwo 2).pairs.reverse.Perm (twoByTwo 2).pairs := List.reverse_perm _
  have hover : crossedRun.isOver = true := by decide +kernel
  have hcancelled : crossedRun.world.cancelled = false := by decide +kernel
  have houtcome : ∀ task ∈ crossedRun.tasks,
      task.phase.outcome? = some (failing task.stage task.fixture) := by decide +kernel
  obtain ⟨horder, hschedule⟩ := report_alike_sequential { artifactDir := ⟨[]⟩ } twoCompilers
    twoSources {} hids failing false 2
  have halike : ((twoByTwo 2).reportOf crossedRun).Alike
      ((twoByTwo 1).sequentialReport failing false) := by
    unfold crossedRun twoByTwo at hover hcancelled houtcome ⊢
    exact hschedule noProgram _ crossed hover hcancelled houtcome
  exact ⟨hids, hreverse, hover, horder _ hreverse, halike⟩

end Matrix

end BootChain
