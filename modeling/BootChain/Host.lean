import BootChain.Shell.Evaluate
import BootChain.World

namespace BootChain

/-- The kind of an error at the start of a program. -/
def StartCause.ofIoError : IoError → StartCause
  | .notFound => .notFound
  | .permissionDenied => .permissionDenied
  | _ => .other

namespace Host

/-- How deep the commands of a program may be nested. -/
def fuel : Nat := 20000

/-- How many commands a program may run before it counts as one that never ends. -/
def budget : Nat := 300000

/-- When a program is stopped, in milliseconds after its start: at its limit, or when the run is
    cancelled. -/
structure Deadline where
  limitMs : Nat
  cancelledAtMs : Option Nat := none

def Deadline.ms (deadline : Deadline) : Nat :=
  min deadline.limitMs (deadline.cancelledAtMs.getD deadline.limitMs)

/-- How a program ends whose time is over. -/
def Deadline.ending (deadline : Deadline) : Ending :=
  match deadline.cancelledAtMs with
  | some ms => if ms ≤ deadline.limitMs then .cancelled else .timedOut deadline.limitMs
  | none => .timedOut deadline.limitMs

/-- How a program ended that was not stopped. -/
def endingOf : Shell.Ending → Ending
  | .killed _ => .exited none
  | .exited status => .exited (some status)

/-- How long the jobs that a program leaves behind may still print, in milliseconds. -/
def graceMs : Nat := 500

/-- The process of a program, whose descriptors are the first streams of the machine: no input, and
    its two outputs. -/
def process (files : FileSystem) : Shell.Process :=
  { bindings := [("PATH".toList, { value := some Shell.standardPath, exported := true })]
    descriptors := [(0, 0), (1, 1), (2, 2)]
    directory := Shell.charsOf files.workingPath.bytes
    place := files.workingDirectory }

def machine (files : FileSystem) (deadlineMs : Nat) : Shell.Machine :=
  { files, streams := [.device .null, .sink [], .sink []], deadlineMs, budget }

/-- Runs a program to its end, and then the jobs that it leaves behind. Nothing that it printed is
    kept if it was stopped. -/
def run (files : FileSystem) (line : String) (deadline : Deadline) (image : Shell.Image) :
    Capture × FileSystem :=
  let start : Shell.State :=
    ⟨machine files deadline.ms, (process files).becoming image.called []⟩
  let act := if deadline.ms = 0 then throw .expired else Shell.runImage fuel image
  let (result, state) := Shell.Act.from' act start
  match Shell.Ending.ofStop? state.process result with
  | none => (⟨line, deadline.ending, [], [], deadline.ms⟩, state.machine.files)
  | some ending =>
    let elapsedMs := state.machine.clockMs
    let left := { state with
      machine := { state.machine with deadlineMs := elapsedMs + graceMs, budget } }
    let (_, state) := Shell.Act.from' (Shell.runJobs fuel) left
    let output (n : Nat) : Bytes := Shell.bytesOf (state.machine.collected n)
    (⟨line, endingOf ending, output 1, output 2, elapsedMs⟩, state.machine.files)

/-- How many octets a word of a command may have. -/
def maxWordLength : Nat := 131071

/-- Finds the program of a command. No word of it may hold a NUL, or be too long. -/
def image (files : FileSystem) (command : Command) : Except IoError Shell.Image :=
  if command.words.any fun word => word.contains 0 then .error .nulInArgument
  else if command.args.any fun word => word.length > maxWordLength then .error .argumentsTooLong
  else
    Shell.imageOf files (Shell.directoriesIn Shell.standardPath)
      (Shell.charsOf command.program.bytes) (command.args.map Shell.charsOf)

/-- Starts the program of a command and runs it to its end, or until its time is over. -/
def call (files : FileSystem) (command : Command) (deadline : Deadline) :
    Except CallError Capture × FileSystem :=
  match image files command with
  | .error e => (.error (.start command.line (.ofIoError e) e.message), files)
  | .ok image =>
    let (capture, ended) := run files command.line deadline image
    (.ok capture, { ended with workingDirectory := files.workingDirectory })

/-- Runs commands on the files of a world. -/
def runner : Runner Unit := fun command limitMs world =>
  let deadline : Deadline := ⟨limitMs, if world.cancelled then some 0 else none⟩
  let (result, files) := call world.files command deadline
  (result, { world with files })

end Host

end BootChain
