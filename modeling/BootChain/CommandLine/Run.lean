import BootChain.CommandLine.Outcome
import BootChain.CommandLine.Plan
import BootChain.CommandLine.ReportFiles
import BootChain.EventLog
import BootChain.Host
import BootChain.Report.Markdown
import BootChain.Report.Status

namespace BootChain.CommandLine

/-- The file that events go to, if they go to a file. -/
def eventLog? (events : Config.Events) : Except Problem (Option Path) :=
  match events.sink, events.path with
  | .file, none => .error .noEventPath
  | .file, some path => .ok (some path)
  | _, _ => .ok none

/-- Opens the log that events go to, if there is one. -/
def openLog (log : Option Path) : Work Unit :=
  match log with
  | none => return ()
  | some path => Work.update (EventLog.openAt · path) (.noEventLog path)

/-- Writes events into the log, if there is one. A log that cannot be written is let be. -/
def writeLog (log : Option Path) (events : List (Event × Nat)) (files : FileSystem) :
    FileSystem :=
  match log with
  | none => files
  | some path =>
    match EventLog.record files path events with
    | .ok files => files
    | .error _ => files

/-- A run that was planned, and the log that is open for it. -/
structure Prepared where
  plan : Plan
  log : Option Path

/-- Plans a run and opens its log. -/
def RunOptions.prepare (options : RunOptions) (around : Surroundings) : Work Prepared := do
  let plan ← ExceptT.mk (pure (options.plan around))
  let log ← ExceptT.mk (pure (eventLog? plan.config.events))
  openLog log
  return { plan, log }

/-- A run that was carried out: its report, what it says on standard error, and the files after
    it. -/
structure Evaluated where
  report : Report
  stderr : String
  files : FileSystem

/-- Carries a run out. -/
def Prepared.evaluate (prepared : Prepared) (momentMs : Nat) (files : FileSystem) : Evaluated :=
  let plan := prepared.plan
  let (report, world) := plan.matrix.evaluate (fun _ _ => Host.runner) { files, memory := () }
  let events := EventLog.stamped momentMs world.events
  { report
    stderr := if plan.config.events.sink = .stderr then EventLog.text events else ""
    files := writeLog prepared.log events world.files }

/-- The report of a run in the form that is asked for. -/
def reportText (format : Format) (chain : Chain) (report : Report) : Except Problem String :=
  match format with
  | .text => .ok (report.plainText chain)
  | .json => ((report.canonicalText chain).mapError .reportNotEncoded).map (· ++ "\n")

/-- Writes the report to the files that are asked for, and gives what is to be printed of it. -/
def RunOptions.deliver (options : RunOptions) (chain : Chain) (report : Report) : Work String := do
  match options.report with
  | none => pure ()
  | some path => ReportFiles.save path (report.canonicalText chain) (report.markdown chain)
  ExceptT.mk (pure (reportText options.format chain report))

/-- Plans a run, carries it out and delivers its report. The exit code tells the verdict. -/
def RunOptions.outcome (options : RunOptions) (around : Surroundings) : Outcome :=
  match (options.prepare around).run around.files with
  | (.error problem, files) => .failed files "" problem
  | (.ok prepared, files) =>
    let evaluated := prepared.evaluate around.momentMs files
    match (options.deliver prepared.plan.chain evaluated.report).run evaluated.files with
    | (.error problem, files) => .failed files evaluated.stderr problem
    | (.ok stdout, files) =>
      { exitCode := evaluated.report.status.exitCode, stdout, stderr := evaluated.stderr, files }

end BootChain.CommandLine
