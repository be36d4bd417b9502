import BootChain.SortedMap
import BootChain.Trial

namespace BootChain

/-- What a report says about one fixture under one generation. -/
inductive Cell where
  | notEvaluated (expectedPath : Path)
  | skipped
  | evaluated (trial : Trial) (matchesExpected : Bool)
  deriving DecidableEq, Repr

namespace Cell

def trial? : Cell → Option Trial
  | evaluated trial _ => some trial
  | _ => none

def isNotEvaluated : Cell → Bool
  | notEvaluated _ => true
  | _ => false

/-- The word for a cell: what was not run, what passed, or what went wrong. -/
def label : Cell → String
  | notEvaluated _ => "not_evaluated"
  | skipped => "skipped"
  | evaluated trial matchesExpected =>
    match trial.failure with
    | some failure => failure.cause.label
    | none => if matchesExpected then "pass" else "mismatch"

def json : Cell → Except EncodeError Json
  | notEvaluated path => do
    return .obj [("status", .str "not_evaluated"), ("expected_path", ← path.json)]
  | skipped => return .obj [("status", .str "skipped")]
  | evaluated trial matchesExpected => do
    return .obj [("status", .str "evaluated"), ("result", ← trial.json),
      ("matches_expected", .bool matchesExpected)]

end Cell

/-- How the outputs of two neighbouring generations compare. -/
inductive Verdict where
  | equivalent
  | diverged (lowerOutput upperOutput : String)
  | inconclusive (reason : String)
  deriving DecidableEq, Repr

namespace Verdict

def isDiverged : Verdict → Bool
  | diverged _ _ => true
  | _ => false

def json : Verdict → Json
  | equivalent => .obj [("status", .str "equivalent")]
  | diverged lower upper =>
    .obj [("status", .str "diverged"), ("lower_stdout", .str lower), ("upper_stdout", .str upper)]
  | inconclusive reason => .obj [("status", .str "inconclusive"), ("reason", .str reason)]

end Verdict

/-- The comparison of one fixture between a generation and the one that it builds. -/
structure Comparison where
  fixture : FixtureId
  lower : Generation
  upper : Generation
  verdict : Verdict
  deriving DecidableEq, Repr

def Comparison.json (comparison : Comparison) : Json :=
  .obj [("fixture", .str comparison.fixture.text), ("lower", .nat comparison.lower.number),
    ("upper", .nat comparison.upper.number), ("status", comparison.verdict.json)]

/-- The kinds of defect, gravest first. -/
inductive Defect where
  | equivalenceViolation
  | pipelineFailure
  | outputMismatch
  deriving DecidableEq, Repr

namespace Defect

def all : List Defect := [equivalenceViolation, pipelineFailure, outputMismatch]

def rank : Defect → Nat
  | equivalenceViolation => 0
  | pipelineFailure => 1
  | outputMismatch => 2

def label : Defect → String
  | equivalenceViolation => "equivalence_violation"
  | pipelineFailure => "pipeline_failure"
  | outputMismatch => "output_mismatch"

end Defect

/-- A defect of one pair. A violation of equivalence stands at the upper generation. -/
structure Finding where
  defect : Defect
  fixture : FixtureId
  generation : Generation
  message : String
  deriving DecidableEq, Repr

namespace Finding

/-- Findings stand by defect, then by fixture, then by generation. -/
def order (a b : Finding) : Ordering :=
  (compare a.defect.rank b.defect.rank).then
    ((compare a.fixture b.fixture).then (compare a.generation b.generation))

def json (finding : Finding) : Json :=
  .obj [("class", .str finding.defect.label), ("fixture", .str finding.fixture.text),
    ("generation", .nat finding.generation.number), ("message", .str finding.message)]

end Finding

/-- How many cells and comparisons of a report are of each kind. -/
structure Tally where
  fixtures : Nat
  generations : Nat
  evaluated : Nat
  passed : Nat
  pipelineFailures : Nat
  outputMismatches : Nat
  notEvaluated : Nat
  skipped : Nat
  comparisons : Nat
  violations : Nat
  deriving DecidableEq, Repr

def Tally.json (tally : Tally) : Json :=
  .obj [("fixtures", .nat tally.fixtures), ("generations", .nat tally.generations),
    ("evaluated", .nat tally.evaluated), ("passed", .nat tally.passed),
    ("pipeline_failures", .nat tally.pipelineFailures),
    ("output_mismatches", .nat tally.outputMismatches),
    ("not_evaluated", .nat tally.notEvaluated), ("skipped", .nat tally.skipped),
    ("equivalence_checks", .nat tally.comparisons),
    ("equivalence_violations", .nat tally.violations)]

/-- The cells of one fixture, by generation. -/
abbrev Row := SortedMap Generation Cell

/-- The outcome of a run: a cell for each pair, the comparisons between neighbouring generations,
    and the findings, gravest first. -/
structure Report where
  cells : SortedMap FixtureId Row := .empty
  comparisons : List Comparison := []
  findings : List Finding := []
  cancelled : Bool := false

namespace Report

def cell? (report : Report) (fixture : FixtureId) (generation : Generation) : Option Cell :=
  (report.cells.get? fixture).bind (·.get? generation)

def trial? (report : Report) (fixture : FixtureId) (generation : Generation) : Option Trial :=
  (report.cell? fixture generation).bind Cell.trial?

/-- The findings of one kind. -/
def findingsOf (report : Report) (defect : Defect) : List Finding :=
  report.findings.filter (·.defect = defect)

/-- True of a run that was completed without any finding. -/
def isClean (report : Report) : Bool :=
  !report.cancelled && report.findings.isEmpty

/-- All cells, row by row. -/
def allCells (report : Report) : List Cell :=
  report.cells.values.flatMap SortedMap.values

def tally (report : Report) : Tally :=
  let cells := report.allCells
  { fixtures := report.cells.size
    generations := (report.cells.values.map SortedMap.size).foldl max 0
    evaluated := cells.countP fun cell => cell.trial?.isSome
    passed := cells.countP fun
      | .evaluated trial matchesExpected => trial.succeeded && matchesExpected
      | _ => false
    pipelineFailures := cells.countP fun
      | .evaluated trial _ => !trial.succeeded
      | _ => false
    outputMismatches := cells.countP fun
      | .evaluated trial matchesExpected => trial.succeeded && !matchesExpected
      | _ => false
    notEvaluated := cells.countP Cell.isNotEvaluated
    skipped := cells.countP (· = .skipped)
    comparisons := report.comparisons.length
    violations := report.comparisons.countP (·.verdict.isDiverged) }

def json (report : Report) : Except EncodeError Json := do
  let rows ← report.cells.entries.mapM fun (id, row) => do
    let cells ← row.entries.mapM fun (generation, cell) => do
      return (toString generation.number, ← cell.json)
    return (id.text, Json.obj cells)
  return .obj [("cells", .obj rows), ("equivalence", .arr (report.comparisons.map Comparison.json)),
    ("findings", .arr (report.findings.map Finding.json)), ("cancelled", .bool report.cancelled)]

end Report

end BootChain
