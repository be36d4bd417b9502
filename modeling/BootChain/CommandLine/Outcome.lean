import BootChain.CommandLine.Help
import BootChain.CommandLine.Problem

namespace BootChain.CommandLine

/-- What a command leaves behind. -/
structure Outcome where
  exitCode : Nat
  stdout : String := ""
  stderr : String := ""
  files : FileSystem

/-- The line about a problem. -/
def Problem.line (problem : Problem) : String :=
  programName ++ ": " ++ problem.message ++ "\n"

namespace Outcome

/-- The exit code of what was no request, and of what could not be carried out. -/
def usageCode : Nat := 2

/-- The outcome of a command that ends in a problem, after what it has written until then. -/
def failed (files : FileSystem) (stderr : String) (problem : Problem) : Outcome where
  exitCode := usageCode
  stderr := stderr ++ problem.line
  files := files

/-- The outcome of a command that only prints. -/
def ofText (files : FileSystem) (text : Except Problem String) : Outcome :=
  match text with
  | .ok text => { exitCode := 0, stdout := text, files }
  | .error problem => failed files "" problem

/-- The outcome of arguments that are no request. -/
def ofStop (files : FileSystem) : Stop → Outcome
  | .misuse cause => { exitCode := usageCode, stderr := cause.report, files }
  | .help topic => { exitCode := 0, stdout := topic.help, files }
  | .version => { exitCode := 0, stdout := versionText, files }

end Outcome

end BootChain.CommandLine
