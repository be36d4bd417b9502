import BootChain.Trial.Perform
import BootChain.World

namespace BootChain

/-- One of the two artifacts of a pair. -/
inductive Artifact where
  | object
  | executable
  deriving DecidableEq, Repr

def Artifacts.at (artifacts : Artifacts) : Artifact → Path
  | .object => artifacts.object
  | .executable => artifacts.executable

namespace Rehearsal

/-- What a rehearsed program does in the end. Its output may be left open. -/
inductive Reply where
  | startError (cause : StartCause) (message : String)
  | lost (message : String)
  | ended (ending : Ending) (stdout : Option Bytes) (stderr : Bytes) (elapsedMs : Nat)
      (silent : Bool)

/-- What happens at one call, in this order: files go, directories come, the run is cancelled, and
    the program replies. -/
structure Cue where
  remove : List Artifact := []
  makeDir : List Artifact := []
  cancel : Bool := false
  reply : Reply := .ended (.exited (some 0)) none [] 0 false
  line : Option String := none

/-- A call that was made. -/
structure Call where
  generation : Generation
  fixture : FixtureId
  line : String
  limitMs : Nat

/-- The part of one pair: how many calls it has made, and the cues that are left. A missing cue
    leaves the program to do what is expected of it. -/
structure Part where
  generation : Generation
  fixture : FixtureId
  taken : Nat := 0
  cues : List (Option Cue) := []

/-- A script for all pairs, and the calls that were made. -/
structure Script where
  parts : List Part := []
  calls : List Call := []

def Part.isFor (part : Part) (generation : Generation) (id : FixtureId) : Bool :=
  part.generation = generation && part.fixture = id

/-- The next cue of a pair, with the number of calls before it. -/
def Script.next (script : Script) (generation : Generation) (id : FixtureId) :
    Nat × Option Cue × Script :=
  let part := (script.parts.find? (·.isFor generation id)).getD ⟨generation, id, 0, []⟩
  let later := { part with taken := part.taken + 1, cues := part.cues.tail }
  let others := script.parts.filter fun part => !part.isFor generation id
  (part.taken, part.cues.head?.join, { script with parts := later :: others })

/-- Files after an operation that may have failed. -/
def attempt (files : FileSystem) (result : Except IoError FileSystem) : FileSystem :=
  match result with
  | .ok files => files
  | .error _ => files

/-- What a program writes as its product. -/
def productContent : Bytes := Utf8.encode "artifact"

/-- The artifact that the call after `taken` others has to write. -/
def product? (taken : Nat) : Option Artifact :=
  if taken % 3 = 0 then some .object
  else if taken % 3 = 1 then some .executable
  else none

/-- Runs the commands of a pair by a script instead of starting programs. -/
def runner (settings : Settings) (stage : Stage) (fixture : Fixture) : Runner Script :=
  fun command limitMs world =>
    let artifacts := (Trial.Pair.of settings stage fixture).artifacts
    let (taken, scripted, script) := world.memory.next stage.generation fixture.id
    let call : Call := ⟨stage.generation, fixture.id, command.line, limitMs⟩
    let cue := scripted.getD {}
    let files := cue.remove.foldl (fun files a => attempt files (files.removeFile (artifacts.at a)))
      world.files
    let files := cue.makeDir.foldl (fun files a => attempt files (files.createDir (artifacts.at a)))
      files
    let line := cue.line.getD command.line
    let world := { world with
      files, cancelled := world.cancelled || cue.cancel
      memory := { script with calls := script.calls ++ [call] } }
    match cue.reply with
    | .startError cause message => (.error (.start line cause message), world)
    | .lost message => (.error (.lost line message), world)
    | .ended ending stdout stderr elapsedMs silent =>
      let expected := if scripted.isNone && taken % 3 = 2 then fixture.expected else []
      let capture : Capture := ⟨line, ending, stdout.getD expected, stderr, elapsedMs⟩
      match product? taken with
      | some artifact =>
        if ending.isSuccess && !silent then
          let written := world.files.write (artifacts.at artifact) productContent
          let files := attempt world.files written
          (.ok capture, { world with files })
        else (.ok capture, world)
      | none => (.ok capture, world)

end Rehearsal

end BootChain
