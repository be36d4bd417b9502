import BootChain.Shell.Arithmetic
import BootChain.Shell.Builtin
import BootChain.Shell.Redirect

/-!
What happens around the commands of a script: loops, complaints, time, and the processes that
commands run in.
-/

namespace BootChain.Shell

/-- How a command stands to those around it. -/
structure Mode where
  /-- Its status is asked for, so that it may fail. -/
  tested : Bool := false
  /-- The process has nothing more to do after it. -/
  last : Bool := false
  deriving DecidableEq, Repr

/-- The milliseconds that a duration stands for: seconds with a fraction, or with a unit. -/
def duration? (word : Chars) : Option Nat :=
  let (whole, rest) := word.span Char.isDigit
  let (fraction, rest) := match rest with
    | '.' :: rest => rest.span Char.isDigit
    | rest => ([], rest)
  let scale := match String.ofList rest with
    | "" => some 1
    | "s" => some 1
    | "m" => some 60
    | "h" => some 3600
    | "d" => some 86400
    | _ => none
  if word = "infinity".toList then some 1000000000000
  else if whole = [] ∧ fraction = [] then none
  else
    let thousandths := (numberAt ((fraction ++ ['0', '0', '0']).take 3)).1
    scale.map fun n => ((numberAt whole).1 * 1000 + thousandths) * n

/-- A text without the line feeds at its end. -/
def withoutLineFeeds (text : Chars) : Chars := (text.reverse.dropWhile (· = '\n')).reverse

/-- A process that runs another program from now on. -/
def Process.becoming (process : Process) (called : Chars) (assigned : List (Chars × Chars)) :
    Process :=
  let process := assigned.foldl
    (fun (process : Process) (name, value) =>
      process.bind name { value := some value, exported := true })
    process
  { pid := process.pid
    shellPid := process.pid
    ancestors := process.ancestors
    name := called
    bindings := process.bindings.filter fun entry => entry.2.exported && entry.2.value.isSome
    descriptors := process.descriptors
    directory := process.directory
    place := process.place
    traps := process.traps.filter fun trap => trap.2 = [] }

/-- A process that runs a part of a script on its own. Signals are dealt with in the usual way, but
    for those that are ignored. -/
def Process.forked (process : Process) : Process :=
  { process with traps := process.traps.filter fun trap => trap.2 = [], endStatus := none }

/-- The program that is called by a name, as a process finds it. -/
def imageFor (files : FileSystem) (process : Process) (word : Chars) (args : List Chars) :
    Except IoError Image :=
  imageOf files (Builtin.searchPath process) word args

/-- The status after a program could not be executed. -/
def refusalStatus (e : IoError) : Nat :=
  if [.notFound, .notADirectory, .tooManyLinks, .nameTooLong].contains e then 127 else 126

/-- The status of a program that could not execute another one. -/
def launchStatus (e : IoError) : Nat := if e = .notFound ∨ e = .notADirectory then 127 else 126

/-- Why a program could not be executed. -/
def refusal (e : IoError) : String :=
  if e = .notFound ∨ e = .notADirectory then "not found" else reason e

/-- The first piece of a word with a home directory in the place of a tilde. -/
def withHome (process : Process) (pieces : List Piece) : List Piece :=
  match pieces, process.valueOf? "HOME".toList with
  | .text false ('~' :: rest) :: others, some home =>
    if rest.head? = some '/' ∨ (rest = [] ∧ others.isEmpty) then
      .text true home :: .text false rest :: others
    else pieces
  | pieces, _ => pieces

/-- The words of the command that takes assignments as arguments. -/
def takesAssignments : List Piece → Bool
  | [.text false name] => (["export", "readonly", "local"].map String.toList).contains name
  | _ => false

/-- True of a word that has the form of an assignment. -/
def isAssignment : List Piece → Bool
  | .text false chars :: _ => (assignmentStart? chars).isSome
  | _ => false

/-- What a shell is called with: the letters of its options and the names of others, each with
    whether it is on, and the words after them. -/
structure Invocation where
  letters : List (Bool × Char) := []
  names : List (Bool × Chars) := []
  rest : List Chars := []

namespace Invocation

def isOn (word : Chars) : Bool := word.head? = some '-'

/-- True of a word of options. -/
def isOptions (word : Chars) : Bool := isOn word || word.head? = some '+'

/-- Takes the letters of a word. -/
def add (invocation : Invocation) (word : Chars) : Invocation :=
  { invocation with
    letters := invocation.letters ++ (word.drop 1).map fun letter => (isOn word, letter) }

def read (invocation : Invocation) : List Chars → Invocation
  | [] => invocation
  | word :: rest =>
    if word = ['-'] ∨ word = ['-', '-'] then { invocation with rest }
    else if isOptions word then
      match rest with
      | name :: rest =>
        if word.contains 'o' then
          let named := { invocation with names := invocation.names ++ [(isOn word, name)] }
          (named.add word).read rest
        else (invocation.add word).read (name :: rest)
      | [] => invocation.add word
    else { invocation with rest := word :: rest }

def has (invocation : Invocation) (letter : Char) : Bool := invocation.letters.contains (true, letter)

/-- The letters that are settings of the shell. -/
def settings (invocation : Invocation) : List (Bool × Char) :=
  invocation.letters.filter fun entry => !(['c', 'l', 's', 'i', 'o'].contains entry.2)

end Invocation

namespace Act

/-- Counts a command. -/
def spend : Act Unit := do
  let machine ← machine
  match machine.budget with
  | 0 => throw .expired
  | budget + 1 => changeMachine ({ · with budget })

/-- Lets time pass, unless it is over before. -/
def pass (ms : Nat) : Act Unit := do
  let machine ← machine
  let clockMs := machine.clockMs + ms
  if clockMs ≥ machine.deadlineMs then
    changeMachine ({ · with clockMs := machine.deadlineMs })
    throw .expired
  changeMachine ({ · with clockMs })

/-- Ends a script whose commands may not fail, if one has failed. -/
def checkStatus (mode : Mode) : Act Unit := do
  let process ← process
  if process.status ≠ 0 ∧ process.has .errexit ∧ !mode.tested then throw .exited

/-- Takes part in a loop. Tells whether the loop goes on. -/
def round (act : Act Unit) : Act Bool := do
  match ← attempt act with
  | .ok () => return true
  | .error (.again 1) => return true
  | .error (.leave 1) => return false
  | .error (.again (n + 2)) => throw (.again (n + 1))
  | .error (.leave (n + 2)) => throw (.leave (n + 1))
  | .error stop => throw stop

/-- Runs a body as long as a condition succeeds, or fails. The status is that of the last round. -/
def rounds (succeeds : Bool) (condition body : Act Unit) : Nat → Nat → Act Unit
  | 0, _ => throw .expired
  | n + 1, status => do
    if ← round condition then
      if ((← process).status = 0) = succeeds then
        if ← round body then rounds succeeds condition body n (← process).status
      else setStatus status

/-- The most rounds that a loop may have. -/
def maxRounds : Nat := 10000000

/-- Runs a body for each of some words. -/
def forWords (name : Chars) (body : Act Unit) : List Chars → Act Unit
  | [] => pure ()
  | word :: words => do
    assign name word
    if ← round body then forWords name body words

/-- Does something within a loop. -/
def inLoop (act : Act Unit) : Act Unit := do
  changeProcess fun process => { process with loops := process.loops + 1 }
  let result ← attempt act
  changeProcess fun process => { process with loops := process.loops - 1 }
  match result with
  | .ok () => return ()
  | .error stop => throw stop

/-- Tells of a process that a signal has ended. -/
def report (ending : Ending) : Act Unit := do
  match ending with
  | .exited _ => return ()
  | .killed signal =>
    if let some text := Signal.descriptions.lookup signal then say 2 (text ++ "\n").toList

/-- The ending of a process that this one has waited for. -/
def endingOf (result : Except Stop Unit) (child : Process) : Act Ending := do
  match Ending.ofStop? child result with
  | none => throw .expired
  | some ending =>
    report ending
    return ending

/-- Runs a command of the language under its name. A complaint that it makes ends the script only
    if it is special. -/
def calling (name : Chars) (special : Bool) (act : Act Nat) : Act Unit := do
  let outer := (← process).command
  changeProcess ({ · with command := some name })
  let result ← attempt act
  changeProcess ({ · with command := outer })
  match result with
  | .ok status => setStatus status
  | .error .failed => if special then throw .failed else setStatus 2
  | .error stop => throw stop

/-- Complains of a text that is no script. -/
def refuseText {α : Type} (error : SyntaxError) : Act α := do
  changeProcess ({ · with line := error.line })
  fail ("Syntax error: " ++ error.message).toList

/-- The value of an arithmetic expression. What it assigns is assigned. -/
def calculate (expression : Chars) : Act Chars := do
  let process ← process
  match Arithmetic.evaluate process.valueOf expression with
  | .error fault => fail (fault.message expression)
  | .ok (value, assigned) =>
    for (name, value) in assigned.reverse do
      assign name (toString value).toList
    return (toString value).toList

/-- The value of a parameter, as a part of a word. -/
def valueAtoms (quoted : Bool) (name : Chars) : Act (List Atom) := do
  let process ← process
  if name = ['@'] ∨ (name = ['*'] ∧ !quoted) then return Atom.ofValues quoted process.params
  else if name = ['*'] then
    return Atom.ofValue true ((process.separators.take 1).intercalate process.params)
  else return Atom.ofValue quoted (process.valueOf name)

/-- Refuses a parameter without a value, if that is wanted. -/
def checkSet (name : Chars) : Act Unit := do
  let process ← process
  if process.has .nounset ∧ (process.valueOf? name).isNone ∧ name ≠ ['@'] ∧ name ≠ ['*'] then
    fail (name ++ ": parameter not set".toList)

/-- Shows a command before it is run, if that is wanted. -/
def trace (stderr : Option Nat) (assigned : List (Chars × Chars)) (words : List Chars) :
    Act Unit := do
  let process ← process
  if process.has .xtrace then
    let mark := (process.valueOf? "PS4".toList).getD "+ ".toList
    let parts := (assigned.map fun (name, value) => name ++ '=' :: value) ++ words
    if let some n := stderr then
      if let .ok machine := (← machine).write n (mark ++ [' '].intercalate parts ++ ['\n']) then
        changeMachine fun _ => machine

end Act

end BootChain.Shell
