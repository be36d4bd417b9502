import BootChain.Chain
import BootChain.Report
import BootChain.Text.Lines

namespace BootChain

/-- The first line of a text that is not blank, without the blanks around it. -/
def Text.firstLine? (text : String) : Option String :=
  ((lines text).find? fun line => !isBlankText line).map trim

/-- What has become of the job of one pair. A job breaks down when its runner does. -/
inductive Outcome where
  | completed (trial : Trial)
  | notStarted
  | brokeDown
  deriving DecidableEq, Repr

/-- The outcome of the job of one pair, as it is handed in. -/
structure Arrival where
  generation : Generation
  fixture : FixtureId
  outcome : Outcome
  deriving DecidableEq, Repr

namespace Report

/-- The fixture that an id stands for; of several with one id the last counts. -/
def fixtureOf? (fixtures : List Fixture) (id : FixtureId) : Option Fixture :=
  fixtures.reverse.find? (·.id = id)

/-- True of a trial under an id that succeeded and printed what the fixture expects. -/
def isMatch (fixtures : List Fixture) (id : FixtureId) (trial : Trial) : Bool :=
  trial.succeeded && (fixtureOf? fixtures id).any fun fixture => trial.output?.any fixture.accepts

/-- The cell of a pair whose trial has not been completed. -/
def openCell : Slot → Cell
  | .missing path => .notEvaluated path
  | .available _ => .skipped

/-- A row for each fixture, with an open cell for each slot of the chain. -/
def openCells (chain : Chain) (fixtures : List Fixture) : SortedMap FixtureId Row :=
  .ofList (fixtures.map fun fixture =>
    (fixture.id, chain.slots.mapWithKey fun _ slot => openCell slot))

/-- Puts the trial of an arrival into the cell of its pair. Where no trial was completed, the cell
    stays as it is. -/
def place (fixtures : List Fixture) (cells : SortedMap FixtureId Row) (arrival : Arrival) :
    SortedMap FixtureId Row :=
  match arrival.outcome with
  | .completed trial =>
    cells.adjust arrival.fixture fun row =>
      row.insert arrival.generation (.evaluated trial (isMatch fixtures arrival.fixture trial))
  | .notStarted => cells
  | .brokeDown => cells

/-- The cells after some arrivals, the first of which came first. -/
def cellsOf (chain : Chain) (fixtures : List Fixture) (arrivals : List Arrival) :
    SortedMap FixtureId Row :=
  arrivals.foldl (place fixtures) (openCells chain fixtures)

/-- What a failure says in a finding: its own message, and the first line of its error output. -/
def failureMessage (failure : Failure) : String :=
  match Text.firstLine? failure.stderr with
  | some line => failure.message ++ ": " ++ line
  | none => failure.message

def mismatchMessage (expected actual : String) : String :=
  "expected `" ++ Text.shown expected ++ "` but got `" ++ Text.shown actual ++ "`"

/-- The finding of one cell, if there is any. -/
def cellFinding? (fixtures : List Fixture) (id : FixtureId) (generation : Generation) :
    Cell → Option Finding
  | .evaluated trial matchesExpected =>
    match trial.failure with
    | some failure => some ⟨.pipelineFailure, id, generation, failureMessage failure⟩
    | none =>
      if matchesExpected then none
      else
        let expected := ((fixtureOf? fixtures id).map fun f => Utf8.lossy f.expected).getD ""
        some ⟨.outputMismatch, id, generation, mismatchMessage expected (trial.stdout.getD "")⟩
  | _ => none

/-- The findings of all cells, row by row. -/
def cellFindings (fixtures : List Fixture) (cells : SortedMap FixtureId Row) : List Finding :=
  cells.entries.flatMap fun (id, row) =>
    row.entries.filterMap fun (generation, cell) => cellFinding? fixtures id generation cell

/-- Why one side of a comparison cannot be compared, if it cannot. -/
def incompleteReason? (generation : Generation) : Option Trial → Option String
  | none => some (generation.label ++ " was not run")
  | some trial =>
    if trial.succeeded then none else some (generation.label ++ " did not complete its pipeline")

/-- Compares the outputs of a pair of generations, octet for octet. The lower side is the first
    to be named as incomplete. -/
def compareTrials (lower upper : Generation) (lowerTrial upperTrial : Option Trial) : Verdict :=
  match incompleteReason? lower lowerTrial, incompleteReason? upper upperTrial with
  | some reason, _ => .inconclusive reason
  | none, some reason => .inconclusive reason
  | none, none =>
    if lowerTrial.bind Trial.output? = upperTrial.bind Trial.output? then .equivalent
    else
      .diverged ((lowerTrial.bind Trial.stdout).getD "") ((upperTrial.bind Trial.stdout).getD "")

/-- A comparison for each link of the chain and each row, link by link. -/
def comparisonsOf (chain : Chain) (cells : SortedMap FixtureId Row) : List Comparison :=
  let trial? (row : Row) (generation : Generation) := (row.get? generation).bind Cell.trial?
  chain.links.flatMap fun (lower, upper) =>
    cells.entries.map fun (id, row) =>
      ⟨id, lower, upper, compareTrials lower upper (trial? row lower) (trial? row upper)⟩

/-- The finding of a comparison, if its two outputs differ. -/
def violation? (comparison : Comparison) : Option Finding :=
  match comparison.verdict with
  | .diverged lower upper =>
    some ⟨.equivalenceViolation, comparison.fixture, comparison.upper,
      comparison.lower.label ++ " printed `" ++ Text.shown lower ++ "` but " ++
        comparison.upper.label ++ " printed `" ++ Text.shown upper ++ "`"⟩
  | _ => none

/-- The report of a run over a chain and its fixtures, from its arrivals in the order in which they
    came. -/
def assemble (chain : Chain) (fixtures : List Fixture) (arrivals : List Arrival)
    (cancelled : Bool) : Report :=
  let cells := cellsOf chain fixtures arrivals
  let comparisons := comparisonsOf chain cells
  let findings := cellFindings fixtures cells ++ comparisons.filterMap violation?
  { cells, comparisons, cancelled
    findings := findings.mergeSort fun a b => (Finding.order a b).isLE }

end Report

end BootChain
