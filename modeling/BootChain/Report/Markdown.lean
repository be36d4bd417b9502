import BootChain.Report.Text

namespace BootChain.Report

namespace Markdown

def statusSection (report : Report) : String :=
  let tally := report.tally
  let item (name value : String) := "- " ++ name ++ ": " ++ value ++ "\n"
  "# Bootstrap Check Report\n\n## Status\n\n" ++ item "Result" report.status.label ++
    (if report.isEmptyRun then item "Warning" emptyRunWarning else "") ++
    item "Fixtures" (toString tally.fixtures) ++
    item "Evaluated" (toString tally.evaluated) ++
    item "Passed" (toString tally.passed) ++
    item "Pipeline failures" (toString tally.pipelineFailures) ++
    item "Output mismatches" (toString tally.outputMismatches) ++
    item "Not evaluated" (toString tally.notEvaluated) ++
    item "Skipped" (toString tally.skipped) ++
    item "Equivalence violations"
      (toString tally.violations ++ " of " ++ toString tally.comparisons ++ " checks")

def slotRow (generation : Generation) (slot : Slot) : String :=
  "| " ++ generation.label ++ " | " ++ slot.label ++ " | `" ++ slot.path.shown ++ "` |\n"

def chainSection (chain : Chain) : String :=
  "\n## Stages\n\n| Generation | Status | Path |\n|---|---|---|\n" ++
    String.join (chain.toList.map fun (generation, slot) => slotRow generation slot)

def matrixHeader (generations : List Generation) : String :=
  "| Fixture |" ++ String.join (generations.map fun g => " " ++ g.label ++ " |") ++ "\n|---|" ++
    String.join (generations.map fun _ => "---|") ++ "\n"

def matrixRow (generations : List Generation) (id : FixtureId) (row : Row) : String :=
  "| `" ++ id.text ++ "` |" ++ String.join (generations.map fun g => " " ++ cellWord row g ++ " |")
    ++ "\n"

def matrixSection (report : Report) : String :=
  let generations := report.generations
  if generations.isEmpty then ""
  else
    "\n## Matrix\n\n" ++ matrixHeader generations ++
      String.join (report.cells.entries.map fun (id, row) => matrixRow generations id row)

def findingItem (finding : Finding) : String :=
  "- **" ++ finding.defect.label ++ "** `" ++ finding.fixture.text ++ "` @ " ++
    finding.generation.label ++ ": " ++ finding.message ++ "\n"

def findingsSection (report : Report) : String :=
  "\n## Findings\n\n" ++
    (if report.findings.isEmpty then "- None\n"
      else String.join (report.findings.map findingItem))

def comparisonItem (comparison : Comparison) : String :=
  "- `" ++ comparison.fixture.text ++ "` " ++ comparison.lower.label ++ " -> " ++
    comparison.upper.label ++ ": " ++ comparison.verdict.label ++ "\n"

def comparisonsSection (report : Report) : String :=
  "\n## Equivalence\n\n" ++
    (if report.comparisons.isEmpty then "- None\n"
      else String.join (report.comparisons.map comparisonItem))

end Markdown

/-- The report as a Markdown document, with the whole chain. -/
def markdown (chain : Chain) (report : Report) : String :=
  Markdown.statusSection report ++ Markdown.chainSection chain ++ Markdown.matrixSection report ++
    Markdown.findingsSection report ++ Markdown.comparisonsSection report

end BootChain.Report
