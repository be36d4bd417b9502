import BootChain.Artifacts
import BootChain.Chain
import BootChain.Job
import BootChain.Trial.Settings

namespace BootChain.Trial

/-- A step that is to be taken: its command, and the file that it has to write. -/
structure Planned where
  step : Step
  command : Command
  product : Option Path

/-- The pair that a trial is about, with its artifacts. -/
structure Pair where
  stage : Stage
  fixture : Fixture
  artifacts : Artifacts

namespace Pair

def of (settings : Settings) (stage : Stage) (fixture : Fixture) : Pair where
  stage := stage
  fixture := fixture
  artifacts := .under settings.artifactDir stage.generation fixture.id

/-- The paths that templates are filled in with. -/
def templatePaths (pair : Pair) : TemplatePaths :=
  ⟨pair.fixture.source, pair.artifacts.object, pair.artifacts.executable⟩

def compileCommand (settings : Settings) (pair : Pair) : Command :=
  ⟨pair.stage.binary, settings.compileArgs.render pair.templatePaths⟩

def linkCommand (settings : Settings) (pair : Pair) : Command :=
  ⟨settings.toolchain, settings.linkArgs.render pair.templatePaths⟩

def executeCommand (pair : Pair) : Command := ⟨pair.artifacts.executable, []⟩

/-- The three steps in order. -/
def plan (settings : Settings) (pair : Pair) : List Planned :=
  [⟨.compile, pair.compileCommand settings, some pair.artifacts.object⟩,
    ⟨.link, pair.linkCommand settings, some pair.artifacts.executable⟩,
    ⟨.execute, pair.executeCommand, none⟩]

/-- An event about the pair. -/
def event (pair : Pair) (name : String) (outcome : String) : Event where
  name := name
  generation := some pair.stage.generation
  fixture := some pair.fixture.id
  outcome := some outcome

/-- The event that closes a step. The time is known only of a program that was captured. -/
def stepFinished (pair : Pair) (step : Step) (outcome : String) (elapsedMs : Option Nat) : Event :=
  { pair.event "step_finished" outcome with step := some step, elapsedMs }

end Pair

/-- The failure of a step whose program could not be started, or was lost. -/
def failureOfCallError (step : Step) : CallError → Failure
  | .start line cause message => ⟨step, .notStarted cause.label message, line, ""⟩
  | .lost line message => ⟨step, .lostProgram message, line, ""⟩

/-- The cause of failure in how a program ended, unless it exited with code zero. -/
def causeOfEnding : Ending → Option Cause
  | .exited (some 0) => none
  | .exited code => some (.failedExit code)
  | .timedOut limitMs => some (.timedOut limitMs)
  | .cancelled => some .cancelled

/-- Checks that a step has written its product. -/
def checkProduct (planned : Planned) (capture : Capture) : Job (Option Failure) :=
  match planned.product with
  | none => return none
  | some product => do
    if ← Job.request (.isFile product) then return none
    else return some ⟨planned.step, .notWritten product, planned.command.line, capture.stderrText⟩

/-- The failure of a step whose program was captured, if there is one. -/
def judge (planned : Planned) (capture : Capture) : Job (Option Failure) :=
  match causeOfEnding capture.ending with
  | some cause => return some ⟨planned.step, cause, capture.line, capture.stderrText⟩
  | none => checkProduct planned capture

/-- Takes a step, unless the run is cancelled: gives its record, if its program was captured, and
    its failure, if it failed. -/
def takeStep (settings : Settings) (pair : Pair) (planned : Planned) :
    Job (Option StepRecord × Option Failure) := do
  if ← Job.request .isCancelled then
    return (none, some ⟨planned.step, .cancelled, planned.command.line, ""⟩)
  match ← Job.request (.call planned.command settings.limitMs) with
  | .error e =>
    let failure := failureOfCallError planned.step e
    Job.request (.emit (pair.stepFinished planned.step failure.cause.label none))
    return (none, some failure)
  | .ok capture =>
    let failure ← judge planned capture
    let outcome := (failure.map (·.cause.label)).getD "ok"
    Job.request (.emit (pair.stepFinished planned.step outcome (some capture.elapsedMs)))
    return (some ⟨planned.step, capture⟩, failure)

/-- Takes steps in order up to the first that fails. -/
def takeSteps (settings : Settings) (pair : Pair) :
    List Planned → Job (List StepRecord × Option Failure)
  | [] => return ([], none)
  | planned :: rest => do
    let (record, failure) ← takeStep settings pair planned
    match failure with
    | some failure => return (record.toList, some failure)
    | none =>
      let (records, failure) ← takeSteps settings pair rest
      return (record.toList ++ records, failure)

/-- Removes files, and is content with those that are not there. -/
def removeStale : List Path → Job (Except IoError Unit)
  | [] => return .ok ()
  | file :: rest => do
    match ← Job.request (.removeFile file) with
    | .ok () => removeStale rest
    | .error .notFound => removeStale rest
    | .error e => return .error e

/-- Makes the artifact directory, and removes what an earlier trial left in the place of the
    artifacts. -/
def prepare (settings : Settings) (pair : Pair) : Job (Except IoError Unit) := do
  match ← Job.request (.createDirs settings.artifactDir) with
  | .ok () => removeStale pair.artifacts.paths
  | .error e => return .error e

/-- Prepares the artifacts and takes the steps. -/
def drive (settings : Settings) (pair : Pair) : Job (List StepRecord × Option Failure) := do
  match ← prepare settings pair with
  | .error e =>
    let line := (pair.compileCommand settings).line
    return ([], some ⟨.compile, .artifactTrouble e.message, line, ""⟩)
  | .ok () => takeSteps settings pair (pair.plan settings)

/-- Removes files whatever comes of it. -/
def discard : List Path → Job Unit
  | [] => return ()
  | file :: rest => do
    let _ ← Job.request (.removeFile file)
    discard rest

/-- The trial that some records and perhaps a failure amount to. -/
def finish (pair : Pair) (steps : List StepRecord) (failure : Option Failure) : Trial where
  generation := pair.stage.generation
  fixture := pair.fixture.id
  steps := steps
  failure := failure
  stdout :=
    if failure.isSome then none
    else (steps.find? fun record => record.step = .execute).map (·.capture.stdoutText)

/-- How long the steps of a trial took together. -/
def totalMs (steps : List StepRecord) : Nat :=
  steps.foldr (fun record total => record.capture.elapsedMs + total) 0

/-- The event that closes a trial. -/
def finished (pair : Pair) (trial : Trial) : Event :=
  let total := totalMs trial.steps
  match trial.failure with
  | none => { pair.event "pipeline_finished" "ok" with elapsedMs := some total }
  | some failure =>
    { pair.event "pipeline_finished" failure.cause.label with
      elapsedMs := some total, step := some failure.step, detail := some failure.line }

/-- Performs the trial of one fixture under one compiler. -/
def perform (settings : Settings) (stage : Stage) (fixture : Fixture) : Job Trial := do
  let pair := Pair.of settings stage fixture
  let (steps, failure) ← drive settings pair
  if !settings.keepArtifacts then discard pair.artifacts.paths
  let trial := finish pair steps failure
  Job.request (.emit (finished pair trial))
  return trial

end BootChain.Trial
