import BootChain.Matrix

namespace BootChain

/-- How far the job of a pair has come. It holds a permit while it is admitted or running. -/
inductive Phase where
  | waiting
  | admitted
  | running (rest : Job Trial)
  | ended (outcome : Outcome)
  | joined (outcome : Outcome)

namespace Phase

def holdsPermit : Phase → Bool
  | admitted => true
  | running _ => true
  | _ => false

/-- The outcome of a job that is over. -/
def outcome? : Phase → Option Outcome
  | ended outcome => some outcome
  | joined outcome => some outcome
  | _ => none

/-- The outcome of a job that has been handed in. -/
def joined? : Phase → Option Outcome
  | joined outcome => some outcome
  | _ => none

end Phase

/-- The job of one pair. -/
structure Task where
  stage : Stage
  fixture : Fixture
  phase : Phase

/-- The job of a pair before anything has happened to it. -/
def Task.ofPair (pair : Stage × Fixture) : Task := ⟨pair.1, pair.2, .waiting⟩

/-- What can happen to a job: it gets a permit, it sees the cancellation instead, it goes on by one
    request, it breaks down, or its outcome is handed in. -/
inductive Move where
  | enter
  | giveUp
  | step
  | breakDown
  | join
  deriving DecidableEq, Repr

/-- A run of a matrix between two moves. -/
structure Run (ρ : Type) where
  tasks : List Task
  world : World ρ
  arrivals : List Arrival := []

/-- What happens next in a run: it is cancelled from outside, or something happens to the job with
    some number. -/
inductive Action where
  | raise
  | move (index : Nat) (move : Move)
  deriving DecidableEq, Repr

namespace Run

variable {ρ : Type}

/-- True when fewer than `jobs` permits are held. -/
def permitFree (run : Run ρ) (jobs : Nat) : Bool :=
  run.tasks.countP (·.phase.holdsPermit) < jobs

/-- True of a run in which all outcomes have been handed in. -/
def isOver (run : Run ρ) : Bool :=
  run.tasks.all (·.phase.joined?.isSome)

end Run

namespace Matrix

variable {ρ : Type}

/-- The phase of a job after a move and the world that it leaves, if the move is open to it. -/
def advance? (settings : Settings) (runner : Stage → Fixture → Runner ρ) (permitFree : Bool)
    (world : World ρ) (task : Task) (move : Move) : Option (Phase × World ρ) :=
  match task.phase, move with
  | .waiting, .enter => if permitFree then some (.admitted, world) else none
  | .waiting, .giveUp => if world.cancelled then some (.ended .notStarted, world) else none
  | .admitted, .step =>
    if world.cancelled then some (.ended .notStarted, world)
    else some (.running (Trial.perform settings task.stage task.fixture), world)
  | .running (.done trial), .step => some (.ended (.completed trial), world)
  | .running (.ask request next), .step =>
    let (answer, world) := World.answer (runner task.stage task.fixture) request world
    some (.running (next answer), world)
  | .running _, .breakDown => some (.ended .brokeDown, world)
  | .ended outcome, .join => some (.joined outcome, world)
  | _, _ => none

/-- The run before its first action. -/
def start (matrix : Matrix) (world : World ρ) : Run ρ where
  tasks := matrix.pairs.map Task.ofPair
  world := matrix.opening.foldl World.emit world

/-- Lets something happen in a run. What is not possible changes nothing. -/
def act (matrix : Matrix) (runner : Stage → Fixture → Runner ρ) (run : Run ρ) : Action → Run ρ
  | .raise => { run with world := run.world.raise }
  | .move index move =>
    match run.tasks[index]? with
    | none => run
    | some task =>
      match advance? matrix.settings runner (run.permitFree matrix.jobs) run.world task move with
      | none => run
      | some (phase, world) =>
        { tasks := run.tasks.set index { task with phase }
          world := world
          arrivals := run.arrivals ++
            (phase.joined?.map (arrival task.stage task.fixture)).toList }

/-- The run after a schedule, which says what happens in which order. -/
def follow (matrix : Matrix) (runner : Stage → Fixture → Runner ρ) (world : World ρ)
    (schedule : List Action) : Run ρ :=
  schedule.foldl (matrix.act runner) (matrix.start world)

/-- The report on a run whose outcomes have been handed in. -/
def reportOf (matrix : Matrix) (run : Run ρ) : Report :=
  matrix.report run.arrivals run.world.cancelled

/-- The report on a run, and the world once the event after the last trial has been emitted. -/
def conclude (matrix : Matrix) (run : Run ρ) : Report × World ρ :=
  (matrix.reportOf run, run.world.emit (closing (matrix.reportOf run)))

end Matrix

end BootChain
