import BootChain.Shell.Program
import BootChain.Shell.State

/-!
Redirections: which streams the descriptors of a process stand for.
-/

namespace BootChain.Shell.Act

/-- Refuses a file that cannot be opened. -/
def refuseFile {α : Type} (reading : Bool) (word : Chars) (e : IoError) : Act α :=
  let cause :=
    if e = .notFound ∨ e = .notADirectory then
      if reading then "No such file" else "Directory nonexistent"
    else reason e
  fail ((if reading then "cannot open ".toList else "cannot create ".toList) ++ word ++
    (": " ++ cause).toList)

/-- Opens a file that is there. -/
def openExisting (reading : Bool) (word : Chars) (appends : Bool) : Act Stream := do
  match (← machine).files.stat (pathOf word) with
  | .ok (place, .file _ _) => return .file place 0 appends
  | .ok (_, .device device) => return .device device
  | .ok _ => return .directory
  | .error e => refuseFile reading word e

/-- Opens a file for writing, and creates it if there is none. -/
def openForWriting (word : Chars) (update : Bytes → Bytes) (appends : Bool) : Act Stream := do
  match (← machine).files.modify (pathOf word) update with
  | .error e => refuseFile false word e
  | .ok files =>
    changeMachine ({ · with files })
    openExisting false word appends

/-- Gives a descriptor a new stream. -/
def setStream (descriptor : Nat) (stream : Stream) : Act Unit := do
  let n ← openStream stream
  changeProcess (·.withDescriptor descriptor n)

/-- Lets a descriptor stand for the stream of another one. -/
def duplicate (descriptor : Nat) (word : Chars) : Act Unit := do
  if word = ['-'] then changeProcess (·.withoutDescriptor descriptor)
  else if word ≠ [] ∧ word.all Char.isDigit then
    match (← process).stream? (numberAt word).1 with
    | some n => changeProcess (·.withDescriptor descriptor n)
    | none => fail (word ++ ": Bad file descriptor".toList)
  else fail "Syntax error: Bad fd number".toList

/-- Carries out a redirection. -/
def redirect (descriptor : Nat) (direction : Direction) (word : Chars) : Act Unit := do
  match direction with
  | .read => setStream descriptor (← openExisting true word false)
  | .write =>
    if (← process).has .noclobber ∧ (← machine).files.isFile (pathOf word) then
      refuseFile false word .alreadyExists
    setStream descriptor (← openForWriting word (fun _ => []) false)
  | .overwrite => setStream descriptor (← openForWriting word (fun _ => []) false)
  | .append => setStream descriptor (← openForWriting word id true)
  | .both => setStream descriptor (← openForWriting word id false)
  | .duplicate => duplicate descriptor word
  | .here => setStream descriptor (.source word false)

/-- Does something with redirections, of which none lasts. Tells whether they could be carried
    out. -/
def redirecting (redirections : List (Nat × Direction × Chars)) (act : Act Unit) : Act Bool := do
  let descriptors := (← process).descriptors
  let restore : Act Unit := changeProcess ({ · with descriptors })
  match ← attempt (redirections.forM fun (descriptor, direction, word) =>
      redirect descriptor direction word) with
  | .error .failed =>
    restore
    return false
  | .error stop =>
    restore
    throw stop
  | .ok () =>
    let result ← attempt act
    restore
    match result with
    | .ok () => return true
    | .error stop => throw stop

end BootChain.Shell.Act
