import BootChain.Report.Status
import BootChain.Text.Lines

namespace BootChain

namespace Text

/-- A text filled up with spaces to a width. -/
def padRight (width : Nat) (text : String) : String :=
  text ++ String.ofList (List.replicate (width - text.length) ' ')

/-- Texts joined with another between each two. -/
def joinWith (separator : String) (texts : List String) : String :=
  separator.intercalate texts

end Text

def Slot.label : Slot → String
  | available _ => "available"
  | missing _ => "missing"

def Verdict.label : Verdict → String
  | equivalent => "equivalent"
  | diverged .. => "diverged"
  | inconclusive _ => "inconclusive"

namespace Chain

/-- The line of a slot in a listing. -/
def slotLine (generation : Generation) (slot : Slot) : String :=
  Text.padRight 8 generation.label ++ " " ++ Text.padRight 10 slot.label ++ " " ++ slot.path.shown
    ++ "\n"

/-- The listing of a chain, one slot after the other. -/
def listing (chain : Chain) : String :=
  String.join (chain.toList.map fun (generation, slot) => slotLine generation slot)

end Chain

namespace Report

/-- The generations that some row has a cell for, in ascending order. -/
def generations (report : Report) : List Generation :=
  let numbered := report.cells.values.flatMap fun row => row.keys.map fun g => (g, ())
  (SortedMap.ofList numbered).keys

/-- The word for a pair in the matrix; a dash where the row has no cell. -/
def cellWord (row : Row) (generation : Generation) : String :=
  ((row.get? generation).map Cell.label).getD "-"

def emptyRunWarning : String :=
  "no (fixture, generation) pair was evaluated; check the build directory and filters"

namespace PlainText

def chainSection (chain : Chain) : String :=
  "stages:\n" ++ String.join ((Text.lines chain.listing).map fun line => "  " ++ line ++ "\n")

def rowLine (generations : List Generation) (id : FixtureId) (row : Row) : String :=
  let words := generations.map fun g => g.label ++ "=" ++ cellWord row g
  "  " ++ id.text ++ ": " ++ Text.joinWith " " words ++ "\n"

def matrixSection (report : Report) : String :=
  let generations := report.generations
  if generations.isEmpty then ""
  else
    "matrix:\n" ++
      String.join (report.cells.entries.map fun (id, row) => rowLine generations id row)

def findingLine (finding : Finding) : String :=
  "  [" ++ finding.defect.label ++ "] " ++ finding.fixture.text ++ " @ " ++
    finding.generation.label ++ ": " ++ finding.message ++ "\n"

def findingsSection (report : Report) : String :=
  if report.findings.isEmpty then ""
  else
    "findings (" ++ toString report.findings.length ++ "):\n" ++
      String.join (report.findings.map findingLine)

def tallySection (tally : Tally) : String :=
  "summary: " ++ toString tally.fixtures ++ " fixtures, " ++ toString tally.evaluated ++
    " evaluated, " ++ toString tally.passed ++ " passed, " ++ toString tally.pipelineFailures ++
    " pipeline failures, " ++ toString tally.outputMismatches ++ " output mismatches, " ++
    toString tally.notEvaluated ++ " not evaluated, " ++ toString tally.skipped ++ " skipped\n" ++
    "equivalence: " ++ toString tally.comparisons ++ " checks, " ++ toString tally.violations ++
    " violations\n"

def resultSection (report : Report) : String :=
  (if report.isEmptyRun then "warning: " ++ emptyRunWarning ++ "\n" else "") ++
    "result: " ++ report.status.label ++ "\n"

end PlainText

/-- The report as plain text, under a listing of the whole chain. -/
def plainText (chain : Chain) (report : Report) : String :=
  PlainText.chainSection chain ++ PlainText.matrixSection report ++
    PlainText.findingsSection report ++ PlainText.tallySection report.tally ++
    PlainText.resultSection report

end Report

end BootChain
