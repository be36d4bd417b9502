import BootChain.Capture
import BootChain.Fixture
import BootChain.Generation
import BootChain.Json.OfPath

namespace BootChain

/-- The three steps of a trial. -/
inductive Step where
  | compile
  | link
  | execute
  deriving DecidableEq, Repr

namespace Step

/-- The steps in the order in which they are taken. -/
def all : List Step := [compile, link, execute]

def index : Step → Nat
  | compile => 0
  | link => 1
  | execute => 2

def label : Step → String
  | compile => "compile"
  | link => "link"
  | execute => "execute"

end Step

/-- A step that was taken, and what its program did. -/
structure StepRecord where
  step : Step
  capture : Capture
  deriving DecidableEq, Repr

def StepRecord.json (record : StepRecord) : Json :=
  .obj [("step", .str record.step.label), ("result", record.capture.json)]

/-- Why a trial stopped short. -/
inductive Cause where
  | notStarted (reason message : String)
  | failedExit (code : Option Int)
  | timedOut (limitMs : Nat)
  | cancelled
  | notWritten (path : Path)
  | lostProgram (message : String)
  | artifactTrouble (message : String)
  deriving DecidableEq, Repr

namespace Cause

def label : Cause → String
  | notStarted .. => "spawn_failed"
  | failedExit _ => "exited_non_zero"
  | timedOut _ => "timed_out"
  | cancelled => "cancelled"
  | notWritten _ => "missing_artifact"
  | lostProgram _ => "runner_io"
  | artifactTrouble _ => "artifact_io"

def message : Cause → String
  | notStarted reason message => "failed to start (" ++ reason ++ "): " ++ message
  | failedExit (some code) => "exited with code " ++ toString code
  | failedExit none => "terminated by signal"
  | timedOut limit => "timed out after " ++ toString limit ++ " ms"
  | cancelled => "cancelled"
  | notWritten path => "exited 0 but did not write " ++ path.shown
  | lostProgram message => "runner i/o error: " ++ message
  | artifactTrouble message => "artifact i/o error: " ++ message

def json (cause : Cause) : Except EncodeError Json := do
  let fields ← match cause with
    | notStarted reason message => pure [("reason", Json.str reason), ("message", .str message)]
    | failedExit code => pure [("code", Json.opt .int code)]
    | timedOut limit => pure [("limit_ms", Json.nat limit)]
    | cancelled => pure []
    | notWritten path => pure [("path", ← path.json)]
    | lostProgram message => pure [("message", Json.str message)]
    | artifactTrouble message => pure [("message", Json.str message)]
  return .obj (("kind", .str cause.label) :: fields)

end Cause

/-- The step at which a trial stopped short, and why. -/
structure Failure where
  step : Step
  cause : Cause
  line : String
  stderr : String
  deriving DecidableEq, Repr

namespace Failure

def message (failure : Failure) : String :=
  failure.step.label ++ " step " ++ failure.cause.message ++ ": `" ++ failure.line ++ "`"

def json (failure : Failure) : Except EncodeError Json := do
  return .obj [("step", .str failure.step.label), ("kind", ← failure.cause.json),
    ("command_line", .str failure.line), ("stderr", .str failure.stderr)]

end Failure

/-- What became of one fixture under one generation: the steps that were taken, the failure that
    ended them, and the program's output if nothing failed. -/
structure Trial where
  generation : Generation
  fixture : FixtureId
  steps : List StepRecord
  failure : Option Failure
  stdout : Option String
  deriving DecidableEq, Repr

namespace Trial

def succeeded (trial : Trial) : Bool :=
  trial.failure.isNone && trial.stdout.isSome

/-- The record of a step, if it was taken. -/
def record? (trial : Trial) (step : Step) : Option StepRecord :=
  trial.steps.find? fun record => record.step = step

/-- The octets that the program printed, if the trial succeeded. -/
def output? (trial : Trial) : Option Bytes :=
  if trial.succeeded then (trial.record? .execute).map (·.capture.stdout) else none

def json (trial : Trial) : Except EncodeError Json := do
  let failure ← match trial.failure with
    | none => pure Json.null
    | some failure => failure.json
  return .obj [("generation", .nat trial.generation.number), ("fixture", .str trial.fixture.text),
    ("steps", .arr (trial.steps.map StepRecord.json)), ("failure", failure),
    ("stdout", .opt .str trial.stdout)]

end Trial

end BootChain
