import BootChain.Chain
import BootChain.Report

namespace BootChain

/-- The verdict on a whole run. -/
inductive Status where
  | cancelled
  | empty
  | pass
  | fail
  deriving DecidableEq, Repr

namespace Status

def label : Status → String
  | cancelled => "cancelled"
  | empty => "empty"
  | pass => "pass"
  | fail => "fail"

/-- The exit code that tells the verdict. -/
def exitCode : Status → Nat
  | cancelled => 130
  | empty => 2
  | pass => 0
  | fail => 1

end Status

namespace Report

/-- True of a run that went through to its end without evaluating a single pair. -/
def isEmptyRun (report : Report) : Bool :=
  !report.cancelled && report.tally.evaluated = 0

def status (report : Report) : Status :=
  if report.cancelled then .cancelled
  else if report.isEmptyRun then .empty
  else if report.findings.isEmpty then .pass
  else .fail

/-- The document of a run: its verdict, its counts, the whole chain and the report. -/
def document (chain : Chain) (report : Report) : Except EncodeError Json := do
  return .obj [("status", .str report.status.label), ("summary", report.tally.json),
    ("stages", ← chain.json), ("report", ← report.json)]

/-- The canonical text of a run's document. -/
def canonicalText (chain : Chain) (report : Report) : Except EncodeError String := do
  return (← document chain report).canonical

end Report

end BootChain
