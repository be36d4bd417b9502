import BootChain.Event
import BootChain.FileSystem

namespace BootChain.EventLog

/-- Opens a log at a path: creates the file if there is none, and keeps what it holds. -/
def openAt (files : FileSystem) (log : Path) : Except IoError FileSystem :=
  files.append log []

/-- The lines of some events, each with its moment. -/
def text (events : List (Event × Nat)) : String :=
  String.join (events.map fun (event, moment) => event.line moment)

/-- Adds the lines of some events, each with its moment, at the end of a log. -/
def record (files : FileSystem) (log : Path) (events : List (Event × Nat)) :
    Except IoError FileSystem :=
  files.append log (events.flatMap fun (event, moment) => Utf8.encode (event.line moment))

/-- Gives events their moments. Time passes only in the steps, which say how long they took. -/
def stamped : Nat → List Event → List (Event × Nat)
  | _, [] => []
  | momentMs, event :: rest =>
    let taken := if event.name = "step_finished" then event.elapsedMs.getD 0 else 0
    (event, momentMs + taken) :: stamped (momentMs + taken) rest

end BootChain.EventLog
