import BootChain.Job

namespace BootChain

/-- The surroundings of a run: its files, its cancellation flag, the events so far, and whatever
    the runner of programs remembers. -/
structure World (ρ : Type) where
  files : FileSystem
  cancelled : Bool := false
  events : List Event := []
  memory : ρ

/-- Runs a command within a time limit. It may change files and raise the cancellation flag. -/
abbrev Runner (ρ : Type) := Command → Nat → World ρ → Except CallError Capture × World ρ

namespace World

variable {ρ : Type}

def emit (world : World ρ) (event : Event) : World ρ :=
  { world with events := world.events ++ [event] }

/-- The world once the run has been cancelled. -/
def raise (world : World ρ) : World ρ := { world with cancelled := true }

/-- The outcome of an operation on files. One that fails leaves them as they were. -/
def update (world : World ρ) (result : Except IoError FileSystem) :
    Except IoError Unit × World ρ :=
  match result with
  | .ok files => (.ok (), { world with files })
  | .error e => (.error e, world)

/-- The world after a call, given what the runner left of it. A runner has no hand in the events,
    and it may raise the cancellation flag but not lower it. -/
def absorb (world left : World ρ) : World ρ :=
  { left with cancelled := world.cancelled || left.cancelled, events := world.events }

/-- Answers the requests of a job, with a runner for its calls. -/
def answer (runner : Runner ρ) : Job.Handler (World ρ)
  | .createDirs directory, world =>
    let (result, files) := world.files.createDirs directory
    (result, { world with files })
  | .removeFile file, world => world.update (world.files.removeFile file)
  | .isCancelled, world => (world.cancelled, world)
  | .call command limitMs, world =>
    let (result, left) := runner command limitMs world
    (result, world.absorb left)
  | .isFile file, world => (world.files.isFile file, world)
  | .emit event, world => ((), world.emit event)

end World

end BootChain
