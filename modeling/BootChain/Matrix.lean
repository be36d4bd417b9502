import BootChain.Report.Assembly
import BootChain.Trial.Perform
import BootChain.World

namespace BootChain

/-- Which part of the matrix to run. An empty list selects everything. -/
structure Selection where
  fixtures : List FixtureId := []
  generations : List Generation := []
  deriving DecidableEq, Repr

namespace Selection

def selects (selection : Selection) (id : FixtureId) : Bool :=
  selection.fixtures.isEmpty || selection.fixtures.contains id

/-- The part of a chain that is selected. -/
def chain (selection : Selection) (whole : Chain) : Chain :=
  if selection.generations.isEmpty then whole else whole.restrictTo selection.generations

/-- The part of a fixture list that is selected. -/
def fixturesOf (selection : Selection) (whole : List Fixture) : List Fixture :=
  whole.filter fun fixture => selection.selects fixture.id

end Selection

/-- A matrix to be run: each fixture under each compiler of the chain that is there, with at most
    `jobs` trials at a time. -/
structure Matrix where
  settings : Settings
  chain : Chain
  fixtures : List Fixture
  jobs : Nat

namespace Matrix

/-- The selected part of a matrix; at least one trial may run at a time. -/
def select (settings : Settings) (jobs : Nat) (chain : Chain) (fixtures : List Fixture)
    (selection : Selection) : Matrix where
  settings := settings
  chain := selection.chain chain
  fixtures := selection.fixturesOf fixtures
  jobs := max jobs 1

/-- The pairs to be tried, generation by generation. -/
def pairs (matrix : Matrix) : List (Stage × Fixture) :=
  matrix.chain.available.flatMap fun stage => matrix.fixtures.map fun fixture => (stage, fixture)

def started (matrix : Matrix) : Event where
  name := "matrix_started"
  detail := some ("fixtures=" ++ toString matrix.fixtures.length ++ " generations=" ++
    toString matrix.chain.size ++ " jobs=" ++ toString matrix.jobs)

/-- The event about a generation whose compiler is missing. -/
def stageSkipped? (generation : Generation) : Slot → Option Event
  | .available _ => none
  | .missing path =>
    some { name := "stage_skipped", generation := some generation, outcome := some "missing"
           detail := some path.shown }

/-- The events before the first trial. -/
def opening (matrix : Matrix) : List Event :=
  matrix.started ::
    matrix.chain.toList.filterMap fun (generation, slot) => stageSkipped? generation slot

/-- The event after the last trial. -/
def closing (report : Report) : Event :=
  let tally := report.tally
  { name := if report.cancelled then "matrix_cancelled" else "matrix_finished"
    outcome := some (if report.isClean then "clean" else "findings")
    detail := some ("evaluated=" ++ toString tally.evaluated ++ " passed=" ++
      toString tally.passed ++ " pipeline_failures=" ++ toString tally.pipelineFailures ++
      " output_mismatches=" ++ toString tally.outputMismatches ++ " not_evaluated=" ++
      toString tally.notEvaluated ++ " skipped=" ++ toString tally.skipped ++
      " equivalence_violations=" ++ toString tally.violations) }

/-- The outcome of the job of a pair, as it is handed in. -/
def arrival (stage : Stage) (fixture : Fixture) (outcome : Outcome) : Arrival :=
  ⟨stage.generation, fixture.id, outcome⟩

/-- The report on the outcomes of all jobs, in the order in which they were handed in. -/
def report (matrix : Matrix) (arrivals : List Arrival) (cancelled : Bool) : Report :=
  .assemble matrix.chain matrix.fixtures arrivals cancelled

variable {ρ : Type}

/-- Performs the trial of one pair with nothing in between, unless the run is cancelled. -/
def performOne (settings : Settings) (runner : Stage → Fixture → Runner ρ) (stage : Stage)
    (fixture : Fixture) (world : World ρ) : Outcome × World ρ :=
  if world.cancelled then (.notStarted, world)
  else
    let (trial, world) :=
      (Trial.perform settings stage fixture).run (World.answer (runner stage fixture)) world
    (.completed trial, world)

/-- Performs the trials of some pairs one after the other, and starts none once the run is
    cancelled. -/
def performAll (settings : Settings) (runner : Stage → Fixture → Runner ρ) :
    List (Stage × Fixture) → World ρ → List Arrival × World ρ
  | [], world => ([], world)
  | (stage, fixture) :: rest, world =>
    let (outcome, world) := performOne settings runner stage fixture world
    let (arrivals, world) := performAll settings runner rest world
    (arrival stage fixture outcome :: arrivals, world)

/-- Runs a matrix and gives its report. -/
def evaluate (matrix : Matrix) (runner : Stage → Fixture → Runner ρ) (world : World ρ) :
    Report × World ρ :=
  let world := matrix.opening.foldl World.emit world
  let (arrivals, world) := performAll matrix.settings runner matrix.pairs world
  let report := matrix.report arrivals world.cancelled
  (report, world.emit (closing report))

end Matrix

end BootChain
