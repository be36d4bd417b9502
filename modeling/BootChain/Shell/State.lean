import BootChain.FileSystem
import BootChain.Shell.Numeral
import BootChain.Shell.Signal

namespace BootChain.Shell

/-- What a descriptor reads from or writes to. -/
inductive Stream where
  /-- The reading end of a pipe. There is no end of an endless one. -/
  | source (rest : Chars) (endless : Bool)
  /-- The writing end of a pipe, with what was written to it, last first. -/
  | sink (written : Chars)
  /-- A file that is open at an offset. -/
  | file (place : Location) (offset : Nat) (appends : Bool)
  | device (device : Device)
  | directory

/-- What a name stands for. -/
structure Binding where
  value : Option Chars := none
  exported : Bool := false
  readOnly : Bool := false

/-- What a script may ask of its shell. -/
inductive Setting where
  | errexit
  | noglob
  | ignoreeof
  | interactive
  | monitor
  | noexec
  | stdin
  | xtrace
  | verbose
  | vi
  | emacs
  | noclobber
  | allexport
  | notify
  | nounset
  deriving DecidableEq, Repr

namespace Setting

/-- The settings with their names and letters. -/
def all : List (Setting × String × Char) :=
  [(errexit, "errexit", 'e'), (noglob, "noglob", 'f'), (ignoreeof, "ignoreeof", 'I'),
    (interactive, "interactive", 'i'), (monitor, "monitor", 'm'), (noexec, "noexec", 'n'),
    (stdin, "stdin", 's'), (xtrace, "xtrace", 'x'), (verbose, "verbose", 'v'), (vi, "vi", 'V'),
    (emacs, "emacs", 'E'), (noclobber, "noclobber", 'C'), (allexport, "allexport", 'a'),
    (notify, "notify", 'b'), (nounset, "nounset", 'u')]

def ofLetter? (letter : Char) : Option Setting :=
  (all.find? fun entry => entry.2.2 = letter).map Prod.fst

def ofName? (name : Chars) : Option Setting :=
  (all.find? fun entry => entry.2.1.toList = name).map Prod.fst

end Setting

/-- What is of one process alone. -/
structure Process where
  pid : Nat := 1000
  /-- The process whose script this one runs a part of. -/
  shellPid : Nat := 1000
  /-- The processes that wait for this one. -/
  ancestors : List Nat := []
  /-- The name that complaints start with. -/
  name : Chars := []
  /-- The command of the language that is under way. -/
  command : Option Chars := none
  line : Nat := 0
  params : List Chars := []
  bindings : List (Chars × Binding) := []
  functions : List (Chars × Script) := []
  settings : List Setting := []
  status : Nat := 0
  /-- The status of the last command whose output was taken for a value. -/
  outputStatus : Nat := 0
  descriptors : List (Nat × Nat) := []
  /-- The working directory as the script came to it. -/
  directory : Chars := []
  place : Location := []
  /-- What is done about signals: a text to run, which is empty if the signal is ignored. -/
  traps : List (Nat × Chars) := []
  /-- The status to end with, while a trap is under way. -/
  endStatus : Option Nat := none
  /-- How many loops are under way around the command. -/
  loops : Nat := 0
  /-- For each function under way, what its local names stood for before. -/
  scopes : List (List (Chars × Option Binding)) := []
  lastJob : Option Nat := none
  jobs : List Nat := []
  /-- How much of a word of options has been taken. -/
  optionOffset : Nat := 0

/-- A script that runs in the background, and has not been waited for. -/
structure Job where
  process : Process
  script : Script
  startedMs : Nat

/-- How a process ended. -/
inductive Ending where
  | exited (status : Nat)
  | killed (signal : Nat)
  deriving DecidableEq, Repr

/-- What all processes share. -/
structure Machine where
  files : FileSystem
  streams : List Stream := []
  /-- The time since the first process was started, in milliseconds. -/
  clockMs : Nat := 0
  /-- When all processes are stopped. -/
  deadlineMs : Nat := 0
  nextPid : Nat := 1001
  /-- Signals on their way, each with the process that it is sent to. -/
  signals : List (Nat × Nat) := []
  jobs : List Job := []
  /-- The endings of jobs that were not asked for yet, each with its time. -/
  endings : List (Nat × Ending × Nat) := []
  /-- How many commands may still be run before all processes count as never ending. -/
  budget : Nat := 0

/-- A process under way, and all that is around it. -/
structure State where
  machine : Machine
  process : Process

/-- Why the commands that follow are not run. -/
inductive Stop where
  /-- Some loops are left. -/
  | leave (loops : Nat)
  /-- Some loops but one are left, and that one goes on. -/
  | again (loops : Nat)
  | returned
  | exited
  /-- A complaint has been made that ends a script. -/
  | failed
  /-- Another program has taken the place of the script. -/
  | replaced
  | killed (signal : Nat)
  /-- The time is over. -/
  | expired
  deriving DecidableEq, Repr

/-- Something that a script does. -/
abbrev Act := ExceptT Stop (StateM State)

namespace Process

def stream? (process : Process) (descriptor : Nat) : Option Nat :=
  process.descriptors.lookup descriptor

def withDescriptor (process : Process) (descriptor stream : Nat) : Process :=
  { process with descriptors :=
      (descriptor, stream) :: process.descriptors.filter (·.1 ≠ descriptor) }

def withoutDescriptor (process : Process) (descriptor : Nat) : Process :=
  { process with descriptors := process.descriptors.filter (·.1 ≠ descriptor) }

def has (process : Process) (setting : Setting) : Bool := process.settings.contains setting

def binding (process : Process) (name : Chars) : Binding :=
  (process.bindings.lookup name).getD {}

def bind (process : Process) (name : Chars) (binding : Binding) : Process :=
  { process with bindings := (name, binding) :: process.bindings.filter (·.1 ≠ name) }

/-- The value of a variable or of a parameter. All parameters together are joined by blanks. -/
def valueOf? (process : Process) (name : Chars) : Option Chars :=
  match name with
  | ['#'] => some (toString process.params.length).toList
  | ['?'] => some (toString process.status).toList
  | ['$'] => some (toString process.shellPid).toList
  | ['!'] => process.lastJob.map fun pid => (toString pid).toList
  | ['-'] =>
    some (Setting.all.reverse.filterMap fun entry =>
      if process.has entry.1 then some entry.2.2 else none)
  | ['@'] => if process.params = [] then none else some ([' '].intercalate process.params)
  | ['*'] => if process.params = [] then none else some ([' '].intercalate process.params)
  | ['0'] => some process.name
  | ['P', 'P', 'I', 'D'] => some (toString (process.ancestors.headD 1)).toList
  | _ =>
    if name ≠ [] ∧ name.all Char.isDigit then process.params[(numberAt name).1 - 1]?
    else (process.bindings.lookup name).bind Binding.value

def valueOf (process : Process) (name : Chars) : Chars := (process.valueOf? name).getD []

/-- The characters that values are split at. -/
def separators (process : Process) : Chars :=
  (process.valueOf? "IFS".toList).getD [' ', '\t', '\n']

/-- The variables that programs get to see. -/
def environment (process : Process) : List (Chars × Chars) :=
  process.bindings.filterMap fun (name, binding) =>
    if binding.exported then binding.value.map fun value => (name, value) else none

end Process

namespace Machine

/-- Adds a stream, and gives its number. -/
def withStream (machine : Machine) (stream : Stream) : Nat × Machine :=
  (machine.streams.length, { machine with streams := machine.streams ++ [stream] })

def setStream (machine : Machine) (n : Nat) (stream : Stream) : Machine :=
  { machine with streams := machine.streams.set n stream }

/-- The content of a file with some octets put in at an offset, in the place of those there. -/
def overwritten (content : Bytes) (offset : Nat) (bytes : Bytes) : Bytes :=
  content.take offset ++ List.replicate (offset - content.length) 0 ++ bytes ++
    content.drop (offset + bytes.length)

/-- Writes to a stream, unless it takes nothing. -/
def write (machine : Machine) (n : Nat) (chars : Chars) : Except IoError Machine :=
  match machine.streams[n]? with
  | some (.sink written) => .ok (machine.setStream n (.sink (chars.reverse ++ written)))
  | some (.file place offset appends) =>
    match machine.files.node? place with
    | some (.file content mode) =>
      let start := if appends then content.length else offset
      let bytes := bytesOf chars
      let content :=
        if start = content.length then content ++ bytes else overwritten content start bytes
      let files := machine.files.put place (.file content mode)
      .ok ({ machine with files }.setStream n (.file place (start + bytes.length) appends))
    | _ => .ok machine
  | some (.device .full) => if chars = [] then .ok machine else .error .deviceFull
  | some (.device _) => .ok machine
  | _ => .error .badDescriptor

/-- What a stream still has to give, and whether there is an end of it. -/
def rest (machine : Machine) (n : Nat) : Except IoError (Chars × Bool) :=
  match machine.streams[n]? with
  | some (.source rest endless) => .ok (rest, endless)
  | some (.file place offset _) =>
    match machine.files.node? place with
    | some (.file content _) => .ok (charsOf (content.drop offset), false)
    | _ => .ok ([], false)
  | some (.device .null) => .ok ([], false)
  | some (.device _) => .ok ([], true)
  | some .directory => .error .isADirectory
  | _ => .error .badDescriptor

/-- Takes characters from a stream. -/
def skip (machine : Machine) (n count : Nat) : Machine :=
  match machine.streams[n]? with
  | some (.source rest endless) => machine.setStream n (.source (rest.drop count) endless)
  | some (.file place offset appends) => machine.setStream n (.file place (offset + count) appends)
  | _ => machine

/-- What was written to a pipe. -/
def collected (machine : Machine) (n : Nat) : Chars :=
  match machine.streams[n]? with
  | some (.sink written) => written.reverse
  | _ => []

end Machine

namespace Act

/-- What an act comes to in a state. -/
def from' {α : Type} (act : Act α) (state : State) : Except Stop α × State := act.run.run state

def ofFunction {α : Type} (f : State → Except Stop α × State) : Act α := ExceptT.mk f

def process : Act Process := return (← get).process

def machine : Act Machine := return (← get).machine

def changeProcess (f : Process → Process) : Act Unit :=
  modify fun state => { state with process := f state.process }

def changeMachine (f : Machine → Machine) : Act Unit :=
  modify fun state => { state with machine := f state.machine }

def setStatus (status : Nat) : Act Unit := changeProcess ({ · with status })

/-- Adds a stream, and gives its number. -/
def openStream (stream : Stream) : Act Nat := do
  let (n, machine) := (← Act.machine).withStream stream
  changeMachine fun _ => machine
  return n

/-- Writes to a descriptor, and tells what has kept it from that. -/
def write (descriptor : Nat) (chars : Chars) : Act (Option IoError) := do
  match (← process).stream? descriptor with
  | none => return if chars = [] then none else some .badDescriptor
  | some n =>
    match (← machine).write n chars with
    | .ok machine =>
      changeMachine fun _ => machine
      return none
    | .error e => return some e

/-- Writes to a descriptor what is lost if it cannot be written. -/
def say (descriptor : Nat) (chars : Chars) : Act Unit := do
  let _ ← write descriptor chars

/-- Writes a complaint that names the script, the line and the command of the language. -/
def complain (message : Chars) : Act Unit := do
  let process ← process
  let command := match process.command with
    | some command => command ++ ": ".toList
    | none => []
  say 2 (process.name ++ ": ".toList ++ (toString process.line).toList ++ ": ".toList ++
    command ++ message ++ ['\n'])

/-- Complains, and ends the script. -/
def fail {α : Type} (message : Chars) : Act α := do
  complain message
  setStatus 2
  throw .failed

/-- The value of a variable changes, unless it may not. A script that lets a value grow beyond a
    million characters runs out of time. -/
def assign (name value : Chars) : Act Unit := do
  let process ← process
  let binding := process.binding name
  if value.length > 1000000 then throw .expired
  else if binding.readOnly then fail (name ++ ": is read only".toList)
  else
    let exported := binding.exported || process.has .allexport
    changeProcess (·.bind name { binding with value := some value, exported })

/-- Goes on after the part of a script that an act is, whatever stops that. -/
def attempt {α : Type} (act : Act α) : Act (Except Stop α) :=
  ofFunction fun state =>
    let (result, state) := from' act state
    (.ok result, state)

/-- Does something as a process of its own, which ends before this one goes on. Of what it does,
    only what all processes share outlasts it. -/
def inProcess {α : Type} (child : Process) (act : Act α) : Act (Except Stop α × Process) :=
  ofFunction fun state =>
    let files := { state.machine.files with workingDirectory := child.place }
    let (result, ended) := from' act { machine := { state.machine with files }, process := child }
    let files := { ended.machine.files with workingDirectory := state.process.place }
    let machine := { ended.machine with files }
    (.ok (result, ended.process), { machine, process := state.process })

/-- The number of a new process. -/
def newPid : Act Nat := do
  let pid := (← machine).nextPid
  changeMachine ({ · with nextPid := pid + 1 })
  return pid

/-- A process that starts as a copy of this one. -/
def copy : Act Process := do
  let pid ← newPid
  let process ← process
  return { process with pid, ancestors := process.pid :: process.ancestors, jobs := [] }

end Act

/-- The ending of a process by what stopped it, unless it has not ended. -/
def Ending.ofStop? (process : Process) : Except Stop Unit → Option Ending
  | .error .expired => none
  | .error (.killed signal) => some (.killed signal)
  | _ => some (.exited (process.status % 256))

/-- The status that a shell has for an ending. -/
def Ending.status : Ending → Nat
  | exited status => status
  | killed signal => 128 + signal

end BootChain.Shell
