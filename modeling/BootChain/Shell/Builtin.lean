import BootChain.Shell.Condition
import BootChain.Shell.Print
import BootChain.Shell.Program
import BootChain.Shell.Reader
import BootChain.Shell.State
import BootChain.Shell.Word

/-!
The commands that are part of the language, but for those that run other commands. Each gives its
status. One that fails makes a complaint that names it.
-/

namespace BootChain.Shell.Builtin

/-- Prints to the standard output, and complains if that cannot be. -/
def print (text : Chars) : Act Nat := do
  match ← Act.write 1 text with
  | none => return 0
  | some _ =>
    let command := ((← Act.process).command).getD []
    Act.complain (command ++ ": I/O error".toList)
    return 1

/-- The number that a word is, which has no sign. -/
def number (word : Chars) : Act Nat := do
  if word ≠ [] ∧ word.all Char.isDigit ∧ (numberAt word).1 ≤ 2147483647 then
    return (numberAt word).1
  else Act.fail ("Illegal number: ".toList ++ word)

/-- A text in quotes, of which those that are in it alternate with the other kind. -/
def quotedText (value : Chars) : Chars :=
  match value.splitBy fun a b => (a = '\'') = (b = '\'') with
  | [] => ['\'', '\'']
  | runs =>
    (if value.head? = some '\'' then ['\'', '\''] else []) ++ runs.flatMap fun run =>
      if run.head? = some '\'' then '"' :: run ++ ['"'] else '\'' :: run ++ ['\'']

/-- The variables in the order of their names. -/
def sortedBindings (process : Process) : List (Chars × Binding) :=
  process.bindings.mergeSort fun a b => inOrder a.1 b.1

/-- A directory as a script comes to it from another one, by the names alone. -/
def logicalPath (directory target : Chars) : Chars :=
  let start := if target.head? = some '/' then [] else (directory.splitOn '/').filter (· ≠ [])
  let steps := (target.splitOn '/').filter fun name => name ≠ [] ∧ name ≠ ['.']
  let names := steps.foldl
    (fun names name => if name = ['.', '.'] then names.dropLast else names ++ [name]) start
  '/' :: ['/'].intercalate names

def cd (args : List Chars) : Act Nat := do
  let (options, words) := args.span fun word => word = ['-', 'L'] ∨ word = ['-', 'P']
  let words := if words.head? = some ['-', '-'] then words.drop 1 else words
  let process ← Act.process
  let target := match words with
    | [] => process.valueOf "HOME".toList
    | ['-'] :: _ => process.valueOf "OLDPWD".toList
    | word :: _ => word
  let path := logicalPath process.directory target
  let machine ← Act.machine
  match machine.files.stat (pathOf (if target = [] then ['.'] else path)) with
  | .ok (place, .dir) =>
    let directory :=
      if target = [] then process.directory
      else if options.getLast? = some ['-', 'P'] then placeText place
      else path
    Act.changeMachine fun machine =>
      { machine with files := { machine.files with workingDirectory := place } }
    Act.changeProcess ({ · with directory, place })
    for (name, value) in [("OLDPWD", process.directory), ("PWD", directory)] do
      Act.assign name.toList value
      Act.changeProcess fun process =>
        process.bind name.toList { process.binding name.toList with exported := true }
    if words.head? = some ['-'] then print (directory ++ ['\n']) else return 0
  | _ => Act.fail ("can't cd to ".toList ++ target)

def pwd (args : List Chars) : Act Nat := do
  let process ← Act.process
  let directory := if args.contains ['-', 'P'] then placeText process.place else process.directory
  print (directory ++ ['\n'])

/-- Splits a word at the sign of an assignment. -/
def assignment (word : Chars) : Chars × Option Chars :=
  match word.span (· ≠ '=') with
  | (name, _ :: value) => (name, some value)
  | (name, []) => (name, none)

/-- Marks variables, and assigns values to them first. Without names those that are marked are
    listed. -/
def mark (command : String) (isMarked : Binding → Bool) (set : Binding → Binding)
    (args : List Chars) : Act Nat := do
  let words := if args.head? = some ['-', 'p'] then args.drop 1
    else if args.head? = some ['-', '-'] then args.drop 1
    else args
  if words = [] then
    let marked := (sortedBindings (← Act.process)).filter fun entry => isMarked entry.2
    print (marked.flatMap fun (name, binding) =>
      command.toList ++ ' ' :: name ++ (match binding.value with
        | some value => '=' :: quotedText value
        | none => []) ++ ['\n'])
  else
    for word in words do
      let (name, value) := assignment word
      if !isName name then Act.fail (name ++ ": bad variable name".toList)
      if let some value := value then Act.assign name value
      Act.changeProcess fun process => process.bind name (set (process.binding name))
    return 0

def localNames (args : List Chars) : Act Nat := do
  if (← Act.process).scopes = [] then Act.fail "not in a function".toList
  for word in args do
    let (name, value) := assignment word
    if !isName name then Act.fail (name ++ ": bad variable name".toList)
    let process ← Act.process
    match process.scopes with
    | [] => pure ()
    | scope :: scopes =>
      if (scope.lookup name).isNone then
        let old := process.bindings.lookup name
        Act.changeProcess ({ · with scopes := ((name, old) :: scope) :: scopes })
    if let some value := value then Act.assign name value
  return 0

def unset (args : List Chars) : Act Nat := do
  let (options, words) := args.span fun word => word.head? = some '-' && word.length > 1
  let ofFunctions := options.getLast?.getD [] |>.contains 'f'
  for name in words do
    if ofFunctions then
      Act.changeProcess fun process =>
        { process with functions := process.functions.filter (·.1 ≠ name) }
    else
      if !isName name then Act.fail (name ++ ": bad variable name".toList)
      if ((← Act.process).binding name).readOnly then
        Act.fail (name ++ ": is read only".toList)
      Act.changeProcess fun process =>
        { process with bindings := process.bindings.filter (·.1 ≠ name) }
  return 0

def setSetting (on : Bool) (setting : Setting) : Act Unit :=
  Act.changeProcess fun process =>
    let others := process.settings.filter (· ≠ setting)
    { process with settings := if on then setting :: others else others }

/-- Takes the letters of a word of options. -/
def setLetters (on : Bool) : Chars → Act Unit
  | [] => pure ()
  | letter :: letters => do
    match Setting.ofLetter? letter with
    | some setting =>
      setSetting on setting
      setLetters on letters
    | none =>
      Act.fail ("Illegal option ".toList ++ [if on then '-' else '+', letter])

/-- The settings as a list, or as commands that bring them about. -/
def settingsText (process : Process) (asCommands : Bool) : Chars :=
  if asCommands then
    Setting.all.flatMap fun entry =>
      ("set " ++ (if process.has entry.1 then "-o " else "+o ") ++ entry.2.1 ++ "\n").toList
  else
    "Current option settings\n".toList ++ Setting.all.flatMap fun entry =>
      let name := entry.2.1.toList
      name ++ List.replicate (16 - name.length) ' ' ++
        (if process.has entry.1 then "on\n" else "off\n").toList

/-- Takes the options that a shell is set to, and gives the words after them, if there are any or
    two dashes have ended the options. -/
def setOptions : Nat → List Chars → Act (Option (List Chars))
  | 0, _ => return none
  | fuel + 1, words => do
    match words with
    | [] => return none
    | ['-', '-'] :: rest => return some rest
    | ['-'] :: rest =>
      setSetting false .xtrace
      setSetting false .verbose
      return if rest = [] then none else some rest
    | (sign :: letter :: letters) :: rest =>
      if sign ≠ '-' ∧ sign ≠ '+' then return some words
      let on := sign = '-'
      if (letter :: letters).contains 'o' then
        setLetters on ((letter :: letters).filter (· ≠ 'o'))
        match rest with
        | [] =>
          let _ ← print (settingsText (← Act.process) (!on))
          return none
        | name :: rest =>
          match Setting.ofName? name with
          | some setting =>
            setSetting on setting
            setOptions fuel rest
          | none => Act.fail ("Illegal option ".toList ++ [sign, 'o', ' '] ++ name)
      else
        setLetters on (letter :: letters)
        setOptions fuel rest
    | words => return some words

def set (args : List Chars) : Act Nat := do
  if args = [] then
    let bindings := sortedBindings (← Act.process)
    print (bindings.flatMap fun (name, binding) =>
      match binding.value with
      | some value => name ++ '=' :: quotedText value ++ ['\n']
      | none => [])
  else
    match ← setOptions (args.length + 1) args with
    | none => return 0
    | some params =>
      Act.changeProcess ({ · with params, optionOffset := 0 })
      return 0

def shift (args : List Chars) : Act Nat := do
  let n ← match args with
    | [] => pure 1
    | word :: _ => number word
  if n > (← Act.process).params.length then Act.fail "can't shift that many".toList
  Act.changeProcess fun process => { process with params := process.params.drop n }
  return 0

/-- Takes a line off some characters: each of its characters with a note of whether it was quoted,
    and how many were taken. Nothing ended the line if all were. -/
def inputLine (raw : Bool) : Chars → Field → Nat → Field × Nat × Bool
  | [], read, taken => (read.reverse, taken, false)
  | '\\' :: c :: rest, read, taken =>
    if raw then inputLine raw (c :: rest) (('\\', false) :: read) (taken + 1)
    else if c = '\n' then inputLine raw rest read (taken + 2)
    else inputLine raw rest ((c, true) :: read) (taken + 2)
  | c :: rest, read, taken =>
    if c = '\n' then (read.reverse, taken + 1, true)
    else inputLine raw rest (if c = '\\' ∧ !raw then read else (c, false) :: read) (taken + 1)

/-- Splits a line into so many values, of which the last holds all that is left. -/
def valuesOf (separators : Chars) : Nat → Field → List Chars
  | 0, _ => []
  | 1, field =>
    let isBlank (c : Char × Bool) : Bool :=
      !c.2 && separators.contains c.1 && (c.1 = ' ' || c.1 = '\t' || c.1 = '\n')
    let kept := ((field.dropWhile isBlank).reverse.dropWhile isBlank).reverse
    -- One separator at the end of a single value belongs to it no more than a blank.
    let isMark (c : Char × Bool) : Bool := !c.2 && separators.contains c.1
    match kept.getLast? with
    | some last =>
      if isMark last ∧ !kept.dropLast.any isMark then
        [Field.text (kept.dropLast.reverse.dropWhile isBlank).reverse]
      else [Field.text kept]
    | none => [[]]
  | n + 2, field =>
    let isMark (c : Char × Bool) : Bool := !c.2 && separators.contains c.1
    let isBlank (c : Char × Bool) : Bool := isMark c && (c.1 = ' ' || c.1 = '\t' || c.1 = '\n')
    let (value, rest) := (field.dropWhile isBlank).span fun c => !isMark c
    let rest := rest.dropWhile isBlank
    let rest := match rest with
      | c :: after => if isMark c then after.dropWhile isBlank else rest
      | [] => []
    Field.text value :: valuesOf separators (n + 1) rest

def read (args : List Chars) : Act Nat := do
  let (options, names) := args.span fun word => word.head? = some '-' && word.length > 1
  let raw := options.any (·.contains 'r')
  let names := if options.getLast? = some ['-', 'p'] then names.drop 1 else names
  if names = [] then Act.fail "arg count".toList
  for name in names do
    if !isName name then Act.fail (name ++ ": bad variable name".toList)
  let process ← Act.process
  let machine ← Act.machine
  let found : Except IoError (Nat × Chars × Bool) := match process.stream? 0 with
    | none => .error .badDescriptor
    | some n => (machine.rest n).map fun rest => (n, rest)
  match found with
  | .error _ => return 1
  | .ok (n, rest, endless) =>
    let (line, taken, ended) := inputLine raw rest [] 0
    if endless && !ended then throw .expired
    Act.changeMachine (·.skip n taken)
    let values := valuesOf process.separators names.length line
    for (name, value) in names.zip values do
      Act.assign name value
    return if ended then 0 else 1

/-- Takes the next option off some words: whether there is one, and what it is. -/
def getopts (args : List Chars) : Act Nat := do
  match args with
  | letters :: name :: words =>
    let process ← Act.process
    let words := if words = [] then process.params else words
    let index := max 1 (numberAt (process.valueOf "OPTIND".toList)).1
    let silent := letters.head? = some ':'
    let bind (key : String) (value : Chars) : Act Unit := Act.assign key.toList value
    let finish (index offset : Nat) (letter : Chars) (value : Option Chars) : Act Nat := do
      bind "OPTIND" (toString index).toList
      Act.changeProcess ({ · with optionOffset := offset })
      match value with
      | some value => bind "OPTARG" value
      | none =>
        Act.changeProcess fun process =>
          { process with bindings := process.bindings.filter (·.1 ≠ "OPTARG".toList) }
      Act.assign name letter
      return 0
    let exhaust (index : Nat) : Act Nat := do
      bind "OPTIND" (toString index).toList
      Act.changeProcess ({ · with optionOffset := 0 })
      Act.assign name ['?']
      return 1
    match words[index - 1]? with
    | none => exhaust index
    | some word =>
      let offset := if process.optionOffset = 0 then 1 else process.optionOffset
      if process.optionOffset = 0 ∧ (word.head? ≠ some '-' ∨ word.length = 1) then exhaust index
      else if process.optionOffset = 0 ∧ word = ['-', '-'] then exhaust (index + 1)
      else
        match word.drop offset with
        | [] => exhaust (index + 1)
        | c :: rest =>
          let (nextIndex, nextOffset) := if rest = [] then (index + 1, 0) else (index, offset + 1)
          match letters.dropWhile (· ≠ c) with
          | _ :: after =>
            if c = ':' then finish nextIndex nextOffset ['?'] (some [c])
            else if after.head? = some ':' then
              if rest ≠ [] then finish (index + 1) 0 [c] (some rest)
              else
                match words[index]? with
                | some value => finish (index + 2) 0 [c] (some value)
                | none =>
                  if silent then finish (index + 1) 0 [':'] (some [c])
                  else
                    Act.say 2 ("No arg for -".toList ++ [c] ++ " option\n".toList)
                    finish (index + 1) 0 ['?'] none
            else finish nextIndex nextOffset [c] (some [])
          | [] =>
            if silent then finish nextIndex nextOffset ['?'] (some [c])
            else
              Act.say 2 ("Illegal option -".toList ++ [c, '\n'])
              finish nextIndex nextOffset ['?'] none
  | _ => Act.fail "Usage: getopts optstring var [arg...]".toList

def trap (args : List Chars) : Act Nat := do
  let args := if args.head? = some ['-', '-'] then args.drop 1 else args
  match args with
  | [] =>
    let traps := (← Act.process).traps.mergeSort fun a b => a.1 ≤ b.1
    print (traps.flatMap fun (signal, text) =>
      "trap -- ".toList ++ quotedText text ++ ' ' :: (Signal.name signal).toList ++ ['\n'])
  | first :: rest =>
    let (action, words) : Option Chars × List Chars :=
      if rest = [] then (none, [first])
      else if first = ['-'] then (none, rest)
      else if first ≠ [] ∧ first.all Char.isDigit then (none, args)
      else (some first, rest)
    for word in words do
      match Signal.number? word with
      | none =>
        Act.say 2 ("trap: ".toList ++ word ++ ": bad trap\n".toList)
        return 1
      | some signal =>
        Act.changeProcess fun process =>
          let others := process.traps.filter (·.1 ≠ signal)
          { process with traps := match action with
              | some text => (signal, text) :: others
              | none => others }
    return 0

/-- Sends a signal to a process that is under way. -/
def send (signal pid : Nat) : Act Unit :=
  Act.changeMachine fun machine => { machine with signals := machine.signals ++ [(pid, signal)] }

/-- A process that can be sent a signal: this one, one of those that wait for it, or a job. -/
inductive Receiver where
  | none
  | all
  | process (pid : Nat)
  | job (pid : Nat)

def receiver (process : Process) (machine : Machine) (pid : Int) : Receiver :=
  let leader := (process.ancestors.getLast?).getD process.pid
  if pid = 0 ∨ pid = -leader then .all
  else if pid = process.pid ∨ process.ancestors.any fun other => pid = other then
    .process pid.toNat
  else if machine.jobs.any fun job => pid = job.process.pid then .job pid.toNat
  else .none

/-- Sends a signal, and tells whether there is anyone to receive it. -/
def deliver (signal : Nat) (pid : Int) : Act Bool := do
  let process ← Act.process
  match receiver process (← Act.machine) pid with
  | .none => return false
  | .process pid =>
    if signal ≠ 0 then send signal pid
    return true
  | .all =>
    if signal ≠ 0 then
      for pid in process.pid :: process.ancestors do send signal pid
    return true
  | .job pid =>
    if Signal.effect signal ≠ .ignored then
      Act.changeMachine fun machine =>
        { machine with
          jobs := machine.jobs.filter (·.process.pid ≠ pid)
          endings := machine.endings ++ [(pid, .killed signal, machine.clockMs)] }
    return true

def killUsage : String :=
  "Usage: kill [-s sigspec | -signum | -sigspec] [pid | job]... or\nkill -l [exitstatus]"

/-- The number of a process that a word names. -/
def pid? (word : Chars) : Option Int :=
  match word with
  | '-' :: digits =>
    if digits ≠ [] ∧ digits.all Char.isDigit then some (-(numberAt digits).1) else none
  | digits => if digits ≠ [] ∧ digits.all Char.isDigit then some (numberAt digits).1 else none

/-- What a call of `kill` asks for: a signal, or a complaint if it is not known, and who is to get
    it. -/
def killRequest : List Chars → Except Chars Nat × List Chars
  | ['-', 's'] :: name :: rest =>
    match Signal.number? name with
    | some signal => (.ok signal, rest)
    | none => (.error ("invalid signal number or name: ".toList ++ name), rest)
  | ['-', '-'] :: rest => (.ok 15, rest)
  | ('-' :: c :: name) :: rest =>
    let rest := if rest.head? = some ['-', '-'] then rest.drop 1 else rest
    match Signal.number? (c :: name) with
    | some signal => (.ok signal, rest)
    | none => (.error ("Illegal option -".toList ++ [c]), rest)
  | words => (.ok 15, words)

def kill (args : List Chars) : Act Nat := do
  match args with
  | ['-', 'l'] :: word :: _ =>
    let n ← number word
    print ((Signal.name (if n > 128 then n - 128 else n)).toList ++ ['\n'])
  | [['-', 'l']] =>
    print (['0', '\n'] ++ (Signal.names.drop 1).flatMap fun entry => entry.2.toList ++ ['\n'])
  | args =>
    match killRequest args with
    | (.error message, _) => Act.fail message
    | (.ok _, []) => Act.fail killUsage.toList
    | (.ok signal, words) =>
      let mut status := 0
      for word in words do
        match word with
        | '%' :: _ =>
          match (← Act.process).jobs[(numberAt (word.drop 1)).1 - 1]? with
          | some pid => let _ ← deliver signal pid
          | none => Act.fail ("No such job: ".toList ++ word)
        | word =>
          match pid? word with
          | none => Act.fail ("Illegal number: ".toList ++ word)
          | some pid =>
            if !(← deliver signal pid) then
              Act.complain "No such process\n".toList
              status := 1
      return status

/-- The commands that are part of the language. -/
def names : List String :=
  [".", ":", "[", "alias", "bg", "break", "cd", "command", "continue", "echo", "eval", "exec",
    "exit", "export", "false", "fg", "getopts", "hash", "jobs", "kill", "local", "printf", "pwd",
    "read", "readonly", "return", "set", "shift", "test", "times", "trap", "true", "type",
    "ulimit", "umask", "unalias", "unset", "wait"]

/-- What a name stands for as a command. -/
inductive Meaning where
  | function (body : Script)
  | builtin (special : Bool)
  | program (path : Chars)
  /-- There is something of that name, but it is no program. -/
  | refused
  | unknown

/-- The directories where a process looks for programs. -/
def searchPath (process : Process) : List Chars :=
  directoriesIn ((process.valueOf? "PATH".toList).getD standardPath)

/-- What a name without regard to keywords stands for. -/
def meaning (files : FileSystem) (process : Process) (name : Chars) : Meaning :=
  if name.contains '/' then .program name
  else
    let isSpecial := specialCommands.contains name
    match if isSpecial then none else process.functions.lookup name with
    | some body => .function body
    | none =>
      if names.contains (String.ofList name) then .builtin isSpecial
      else
        let directories := searchPath process
        match fileIn? files directories name with
        | some path => .program path
        | none =>
          let isThere := directories.any fun directory =>
            (files.stat (pathOf (inDirectory directory name))).toBool
          if isThere then .refused else .unknown

/-- Tells what a name stands for. -/
def describe (name : Chars) (briefly : Bool) : Act Nat := do
  let process ← Act.process
  let files := (← Act.machine).files
  let full (text : String) : Act Nat := print (name ++ (text ++ "\n").toList)
  let brief : Act Nat := print (name ++ ['\n'])
  if keywords.contains name then if briefly then brief else full " is a shell keyword"
  else match meaning files process name with
  | .function _ => if briefly then brief else full " is a shell function"
  | .builtin special =>
    if briefly then brief
    else full (if special then " is a special shell builtin" else " is a shell builtin")
  | .program path =>
    if name.contains '/' ∧ !files.isExecutable (pathOf name) then
      if briefly then return 127
      else
        let _ ← full ": not found"
        return 127
    else if briefly then print (path ++ ['\n'])
    else print (name ++ " is ".toList ++ path ++ ['\n'])
  | _ =>
    if briefly then return 127
    else
      let _ ← full ": not found"
      return 127

def type (args : List Chars) : Act Nat := do
  let mut status := 0
  for name in args do
    let result ← describe name false
    if result ≠ 0 then status := result
  return status

/-- The status that a script or a function ends with. -/
def endStatus (args : List Chars) : Act Nat := do
  match args with
  | word :: _ => return (← number word) % 256
  | [] =>
    let process ← Act.process
    return process.endStatus.getD process.status

/-- How many loops are meant, of those under way. -/
def loopCount (args : List Chars) : Act Nat := do
  match args with
  | [] => return min 1 (← Act.process).loops
  | word :: _ =>
    let n ← number word
    if n = 0 then Act.fail ("Illegal number: ".toList ++ word)
    return min n (← Act.process).loops

def test (args : List Chars) : Act Nat := do
  match Condition.holds (← Act.machine).files args with
  | .ok holds => return if holds then 0 else 1
  | .error message => Act.fail message.toList

def bracket (args : List Chars) : Act Nat :=
  if args.getLast? = some [']'] then test args.dropLast else Act.fail "missing ]".toList

def printf (args : List Chars) : Act Nat := do
  match args with
  | [] => Act.fail "usage: printf format [arg ...]".toList
  | format :: args =>
    let (text, complaints) := formatted format args
    for message in complaints do Act.complain message.toList
    let status ← print text
    return if complaints.isEmpty then status else 1

/-- Runs a command that is part of the language, if it is one that runs no other commands. -/
def run? (name : String) (args : List Chars) : Option (Act Nat) :=
  match name with
  | ":" => some (return 0)
  | "true" => some (return 0)
  | "false" => some (return 1)
  | "echo" => some (print (echoed args))
  | "printf" => some (printf args)
  | "test" => some (test args)
  | "[" => some (bracket args)
  | "cd" => some (cd args)
  | "pwd" => some (pwd args)
  | "export" => some (mark "export" Binding.exported ({ · with exported := true }) args)
  | "readonly" => some (mark "readonly" Binding.readOnly ({ · with readOnly := true }) args)
  | "local" => some (localNames args)
  | "unset" => some (unset args)
  | "set" => some (set args)
  | "shift" => some (shift args)
  | "read" => some (read args)
  | "getopts" => some (getopts args)
  | "trap" => some (trap args)
  | "kill" => some (kill args)
  | "type" => some (type args)
  | "umask" => some (if args = [] then print "0022\n".toList else return 0)
  | "times" => some (print "0m0.00s 0m0.00s\n0m0.00s 0m0.00s\n".toList)
  | "alias" => some (return 0)
  | "unalias" => some (return 0)
  | "hash" => some (return 0)
  | "ulimit" => some (if args = [] then print "unlimited\n".toList else return 0)
  | "jobs" => some (return 0)
  | "bg" => some (return 0)
  | "fg" => some (return 0)
  | "exit" => some do
    Act.setStatus (← endStatus args)
    throw .exited
  | "return" => some do
    Act.setStatus (← endStatus args)
    throw .returned
  | "break" => some do
    let n ← loopCount args
    if n = 0 then return 0
    Act.setStatus 0
    throw (.leave n)
  | "continue" => some do
    let n ← loopCount args
    if n = 0 then return 0
    Act.setStatus 0
    throw (.again n)
  | _ => none

end BootChain.Shell.Builtin
