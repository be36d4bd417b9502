import BootChain.Command
import BootChain.Json

namespace BootChain

/-- How a started program came to an end. An exit without a code was caused by a signal. -/
inductive Ending where
  | exited (code : Option Int)
  | timedOut (limitMs : Nat)
  | cancelled
  deriving DecidableEq, Repr

/-- True of an exit with code zero. -/
def Ending.isSuccess : Ending → Bool
  | .exited (some 0) => true
  | _ => false

def Ending.json : Ending → Json
  | .exited code => .obj [("kind", .str "exited"), ("code", .opt .int code)]
  | .timedOut limit => .obj [("kind", .str "timed_out"), ("limit_ms", .nat limit)]
  | .cancelled => .obj [("kind", .str "cancelled")]

/-- What is known of a program that was run. -/
structure Capture where
  line : String
  ending : Ending
  stdout : Bytes
  stderr : Bytes
  elapsedMs : Nat
  deriving DecidableEq, Repr

namespace Capture

def stdoutText (capture : Capture) : String := Utf8.lossy capture.stdout

def stderrText (capture : Capture) : String := Utf8.lossy capture.stderr

def json (capture : Capture) : Json :=
  .obj [("command_line", .str capture.line), ("outcome", capture.ending.json),
    ("stdout", .str capture.stdoutText), ("stderr", .str capture.stderrText),
    ("duration_ms", .nat capture.elapsedMs)]

end Capture

/-- Why a program could not be started. -/
inductive StartCause where
  | notFound
  | permissionDenied
  | other
  deriving DecidableEq, Repr

def StartCause.label : StartCause → String
  | .notFound => "not_found"
  | .permissionDenied => "permission_denied"
  | .other => "other"

/-- Why a call of a program yields no capture. -/
inductive CallError where
  | start (line : String) (cause : StartCause) (message : String)
  | lost (line : String) (message : String)
  deriving DecidableEq, Repr

def CallError.message : CallError → String
  | .start line cause message =>
    "failed to start `" ++ line ++ "` (" ++ cause.label ++ "): " ++ message
  | .lost line message => "i/o error while running `" ++ line ++ "`: " ++ message

end BootChain
