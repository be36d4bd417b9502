import BootChain.Shell.Arguments
import BootChain.Shell.Control
import BootChain.Shell.Utilities

/-!
What scripts do. Everything that may run another command is defined here, by recursion on how deep
commands may be nested. How many may be run one after another is for the budget of the machine.
-/

namespace BootChain.Shell

/-- How deep functions may be called. -/
def maxCalls : Nat := 1000

/-- How many processes may wait for one another. -/
def maxProcesses : Nat := 100

mutual

/-- Expands the pieces of a word. -/
def expand : Nat → List Piece → Act (List Atom)
  | 0, _ => throw .expired
  | fuel + 1, pieces => return (← pieces.mapM (expandPiece fuel)).flatten
termination_by structural fuel => fuel

def expandPiece : Nat → Piece → Act (List Atom)
  | 0, _ => throw .expired
  | fuel + 1, piece =>
    match piece with
    | .text quoted chars => return Atom.ofText quoted chars
    | .parameter quoted name use => expandUse fuel quoted name use
    | .arithmetic quoted expression => do
      let text := Atom.join [' '] (← expand fuel expression)
      return Atom.ofValue quoted (← Act.calculate text)
    | .output quoted script => return Atom.ofValue quoted (← outputOf fuel script)
termination_by structural fuel => fuel

/-- Expands a parameter. -/
def expandUse : Nat → Bool → Chars → Use → Act (List Atom)
  | 0, _, _, _ => throw .expired
  | fuel + 1, quoted, name, use => do
    let value := (← Act.process).valueOf? name
    match use with
    | .plain =>
      Act.checkSet name
      Act.valueAtoms quoted name
    | .size =>
      Act.checkSet name
      return Atom.ofValue quoted (toString (value.getD []).length).toList
    | .senseless => Act.fail "Bad substitution".toList
    | .cut cut pattern =>
      Act.checkSet name
      let pattern := Atom.pattern (← expand fuel pattern)
      return Atom.ofValue quoted (cutOff cut pattern (value.getD []))
    | .fallback kind alsoEmpty word =>
      let isSet := value.isSome && !(alsoEmpty && value = some [])
      let instead : Act (List Atom) := do
        let atoms ← expand fuel word
        return if quoted then atoms else Atom.splitting atoms
      match kind with
      | .value => if isSet then Act.valueAtoms quoted name else instead
      | .reversed => if isSet then instead else return []
      | .assigned =>
        if isSet then Act.valueAtoms quoted name
        else if !isName name then Act.fail (name ++ ": bad variable name".toList)
        else
          let process ← Act.process
          Act.assign name (Atom.join (process.separators.take 1) (← expand fuel word))
          Act.valueAtoms quoted name
      | .refused =>
        if isSet then Act.valueAtoms quoted name
        else
          let message := Atom.join [' '] (← expand fuel word)
          let standard := if alsoEmpty then "parameter not set or null" else "parameter not set"
          Act.fail (name ++ ": ".toList ++ (if word.isEmpty then standard.toList else message))
termination_by structural fuel => fuel

/-- Expands a word to one text. -/
def expandText : Nat → List Piece → Act Chars
  | 0, _ => throw .expired
  | fuel + 1, pieces => do
    let process ← Act.process
    let atoms ← expand fuel (withHome process pieces)
    return Atom.join (process.separators.take 1) atoms
termination_by structural fuel => fuel

/-- Expands words, splits them, and puts the names of files in the place of patterns. An argument
    that has the form of an assignment stays as it is where `assigns` says so. -/
def expandWords : Nat → Bool → List (List Piece) → Act (List Chars)
  | 0, _, _ => throw .expired
  | fuel + 1, assigns, words => do
    let expanded ← words.mapM fun word => do
      if assigns && isAssignment word then return [← expandText fuel word]
      else
        let process ← Act.process
        let atoms ← expand fuel (withHome process word)
        let process ← Act.process
        let fields := Atom.split process.separators atoms
        let files := (← Act.machine).files
        return if process.has .noglob then fields.map Field.text
          else fields.flatMap (globbed files)
    return expanded.flatten
termination_by structural fuel => fuel

/-- What a script prints, without the line feeds at its end. -/
def outputOf : Nat → Script → Act Chars
  | 0, _ => throw .expired
  | fuel + 1, script => do
    Act.spend
    let n ← Act.openStream (.sink [])
    let copy ← Act.copy
    let child := copy.forked.withDescriptor 1 n
    let act : Act Unit := do
      conclude fuel (run fuel { last := true } script)
      runJobs fuel
    let (result, child) ← Act.inProcess child act
    let ending ← Act.endingOf result child
    let text := (← Act.machine).collected n
    Act.changeMachine (·.setStream n (.sink []))
    Act.changeProcess fun process =>
      { process with status := ending.status, outputStatus := ending.status }
    return withoutLineFeeds text
termination_by structural fuel => fuel

/-- Does something to the end of a process: what is wanted at its exit is done. -/
def conclude : Nat → Act Unit → Act Unit
  | 0, _ => throw .expired
  | fuel + 1, act => do
    match ← Act.attempt act with
    | .error .expired => throw .expired
    | .error (.killed signal) => throw (.killed signal)
    | .error .replaced => return ()
    | _ =>
      let process ← Act.process
      match process.traps.lookup 0 with
      | none => return ()
      | some text =>
        let status := process.status
        Act.changeProcess fun process =>
          { process with
            traps := process.traps.filter (·.1 ≠ 0), endStatus := some status, command := none }
        match ← Act.attempt (runText fuel {} text) with
        | .error .expired => throw .expired
        | .error (.killed signal) => throw (.killed signal)
        | .error .exited => return ()
        | .error .failed => return ()
        | _ => Act.setStatus status
termination_by structural fuel => fuel

/-- Does what is wanted about the signals that have come. -/
def receive : Nat → Act Unit
  | 0 => throw .expired
  | fuel + 1 => do
    let process ← Act.process
    let machine ← Act.machine
    let (own, others) := machine.signals.partition fun entry => entry.1 = process.pid
    if own.isEmpty then return ()
    Act.changeMachine ({ · with signals := others })
    for (_, signal) in own do
      let wanted := if signal = 9 ∨ signal = 19 then none else process.traps.lookup signal
      match wanted, Signal.effect signal with
      | some text, _ =>
        let status := (← Act.process).status
        let outer := (← Act.process).endStatus
        Act.changeProcess ({ · with endStatus := some status })
        runText fuel { tested := true } text
        Act.changeProcess ({ · with endStatus := outer, status })
      | none, .ignored => pure ()
      | none, .stopped => throw .expired
      | none, .ended => throw (.killed signal)
termination_by structural fuel => fuel

/-- Runs a text as a script, whose first line counts as the line under way. -/
def runText : Nat → Mode → Chars → Act Unit
  | 0, _, _ => throw .expired
  | fuel + 1, mode, text => do
    let line := max 1 (← Act.process).line
    let program := read line text
    let count := program.commands.length
    for (n, script) in (List.range count).zip program.commands do
      let last := mode.last && program.error.isNone && n + 1 = count
      run fuel { mode with last } script
    match program.error with
    | some error => Act.refuseText error
    | none => return ()
termination_by structural fuel => fuel

/-- Runs the jobs that nobody has waited for. They start at the time at which they were started,
    and this process does not wait for them. -/
def runJobs : Nat → Act Unit
  | 0 => return ()
  | fuel + 1 => do
    let machine ← Act.machine
    match machine.jobs with
    | [] => return ()
    | job :: jobs =>
      Act.changeMachine ({ · with jobs })
      runJob fuel job
      runJobs fuel
termination_by structural fuel => fuel

/-- Runs a job. -/
def runJob : Nat → Job → Act Unit
  | 0, _ => throw .expired
  | fuel + 1, job => do
    let clockMs := (← Act.machine).clockMs
    Act.changeMachine ({ · with clockMs := job.startedMs })
    let (result, child) ←
      Act.inProcess job.process (conclude fuel (run fuel { last := true } job.script))
    let endedMs := (← Act.machine).clockMs
    Act.changeMachine ({ · with clockMs })
    match Ending.ofStop? child result with
    | some ending =>
      Act.changeMachine fun machine =>
        { machine with endings := machine.endings ++ [(child.pid, ending, endedMs)] }
    | none =>
      Act.changeMachine fun machine =>
        { machine with
          endings := machine.endings ++ [(child.pid, .killed 9, machine.deadlineMs)] }
termination_by structural fuel => fuel

/-- Waits for jobs: for all, or for some. -/
def wait : Nat → List Chars → Act Nat
  | 0, _ => throw .expired
  | fuel + 1, args => do
    runJobs fuel
    let process ← Act.process
    let await (reports : Bool) (pid : Nat) : Act Nat := do
      let machine ← Act.machine
      match machine.endings.lookup pid with
      | none => return 127
      | some (ending, endedMs) =>
        if endedMs ≥ machine.deadlineMs then throw .expired
        Act.changeMachine ({ · with clockMs := max machine.clockMs endedMs })
        if reports then Act.report ending
        return ending.status
    if args = [] then
      for pid in process.jobs do
        let _ ← await false pid
      return 0
    else
      let mut status := 0
      for word in args do
        match word with
        | '%' :: digits =>
          match process.jobs[(numberAt digits).1 - 1]? with
          | some pid => status ← await true pid
          | none => Act.fail ("No such job: ".toList ++ word)
        | word =>
          let pid ← Builtin.number word
          status ← if process.jobs.contains pid then await true pid else pure 127
      return status
termination_by structural fuel => fuel

/-- Runs an installed program in the place of what this process has run. -/
def runImage : Nat → Image → Act Unit
  | 0, _ => throw .expired
  | fuel + 1, image => do
    let complain (message : Chars) (status : Nat) : Act Unit := do
      Act.say 2 (image.called ++ ": ".toList ++ message ++ ['\n'])
      Act.setStatus status
    let hint := "Try '".toList ++ image.called ++ " --help' for more information.".toList
    let misused (message : Chars) (status : Nat) : Act Unit :=
      complain (message ++ '\n' :: hint) status
    let lacking (status : Nat) : Act Unit := do
      Act.say 2 (hint ++ ['\n'])
      Act.setStatus status
    let refused (start : String) (word : Chars) (e : IoError) : Act Unit :=
      complain (start ++ inQuotes word ++ ": " ++ reason e).toList (launchStatus e)
    match image.program with
    | "sh" => runShell fuel image.called image.args
    | "dash" => runShell fuel image.called image.args
    | "bash" => runShell fuel image.called image.args
    | "sleep" =>
      match image.args, image.args.find? fun word => (duration? word).isNone with
      | [], _ => misused "missing operand".toList 1
      | ('-' :: c :: _) :: _, _ => misused ("invalid option -- '".toList ++ [c, '\'']) 1
      | _, some word => misused ("invalid time interval '".toList ++ word ++ ['\'']) 1
      | words, none =>
        Act.pass ((words.filterMap duration?).foldl (· + ·) 0)
        Act.setStatus 0
    | "kill" =>
      Act.changeProcess ({ · with name := image.called })
      Act.calling image.called false (Builtin.kill image.args)
      receive fuel
    | "env" => runEnv fuel (refused "") image.args
    | "nohup" => runNext fuel (refused "failed to run command ") image.args
    | "nice" => runNext fuel (refused "") image.args
    | "setsid" =>
      runNext fuel
        (fun word e =>
          complain ("failed to execute ".toList ++ word ++ (": " ++ reason e).toList)
            (launchStatus e))
        image.args
    | "timeout" =>
      let (options, rest) := image.args.span fun word => word.head? = some '-'
      let rest := if options.getLast? = some ['-', 's'] ∨ options.getLast? = some ['-', 'k'] then
          rest.drop 1 else rest
      match rest with
      | word :: command =>
        match duration? word with
        | none => misused ("invalid time interval '".toList ++ word ++ ['\'']) 125
        | some ms =>
          let refused := refused "failed to run command "
          if command = [] then lacking 125
          else
            let machine ← Act.machine
            let limit := machine.clockMs + ms
            if ms = 0 ∨ limit ≥ machine.deadlineMs then runNext fuel refused command
            else
              let copy ← Act.copy
              Act.changeMachine ({ · with deadlineMs := limit })
              let (result, child) ← Act.inProcess copy (runNext fuel refused command)
              Act.changeMachine ({ · with deadlineMs := machine.deadlineMs })
              match Ending.ofStop? child result with
              | some ending => Act.setStatus ending.status
              | none =>
                Act.changeMachine ({ · with clockMs := limit })
                Act.setStatus 124
      | [] => lacking 125
    | "xargs" =>
      let input ← Act.contentOf 0
      match input with
      | .error e => complain ("read error: " ++ reason e).toList 1
      | .ok content =>
        if content.endless then throw .expired
        Act.take 0 input (.ok { content with text := [] })
        let arguments := Arguments.read {} image.args
        let words := argumentWords none content.text arguments.delimiters none
        let refused (word : Chars) (e : IoError) : Act Unit :=
          complain (named word ++ ": " ++ reason e).toList (launchStatus e)
        let mut status := 0
        for command in arguments.commands words do
          if arguments.shows then Act.say 2 ([' '].intercalate command ++ ['\n'])
          let copy ← Act.copy
          let (result, child) ← Act.inProcess copy (runNext fuel refused command)
          match Ending.ofStop? child result with
          | none => throw .expired
          | some ending =>
            if ending.status = 126 ∨ ending.status = 127 then
              status := ending.status
              break
            else if ending.status ≠ 0 then status := 123
        Act.setStatus status
    | program =>
      match utility? program with
      | some utility => Act.runUtility utility image.called image.args
      | none => Act.setStatus 127
termination_by structural fuel => fuel

/-- Runs a program in the place of the one that was given its name. -/
def runNext : Nat → (Chars → IoError → Act Unit) → List Chars → Act Unit
  | 0, _, _ => throw .expired
  | fuel + 1, refuse, words => do
    match words with
    | [] => Act.setStatus 125
    | word :: args =>
      let process ← Act.process
      match imageFor (← Act.machine).files process word args with
      | .ok image =>
        Act.changeProcess (·.becoming image.called [])
        runImage fuel image
      | .error .badFormat =>
        Act.changeProcess (·.becoming "/bin/sh".toList [])
        runShell fuel "/bin/sh".toList (word :: args)
      | .error e => refuse word e
termination_by structural fuel => fuel

/-- Runs a program with changes of its environment. -/
def runEnv : Nat → (Chars → IoError → Act Unit) → List Chars → Act Unit
  | 0, _, _ => throw .expired
  | fuel + 1, refuse, words => do
    match words with
    | ['-', 'i'] :: rest =>
      Act.changeProcess ({ · with bindings := [] })
      runEnv fuel refuse rest
    | ['-'] :: rest =>
      Act.changeProcess ({ · with bindings := [] })
      runEnv fuel refuse rest
    | ['-', 'u'] :: name :: rest =>
      Act.changeProcess fun process =>
        { process with bindings := process.bindings.filter (·.1 ≠ name) }
      runEnv fuel refuse rest
    | ['-', '-'] :: rest => runEnv fuel refuse rest
    | [] => Act.runUtility Utility.printenv "env".toList []
    | word :: rest =>
      if word.contains '=' then
        let (name, value) := Builtin.assignment word
        Act.changeProcess (·.bind name { value, exported := true })
        runEnv fuel refuse rest
      else runNext fuel refuse words
termination_by structural fuel => fuel

/-- Runs a shell with its arguments. -/
def runShell : Nat → Chars → List Chars → Act Unit
  | 0, _, _ => throw .expired
  | fuel + 1, called, args => do
    Act.changeProcess fun process =>
      let process := { process with name := called, params := [], line := 0, status := 0 }
      let fresh := [("OPTIND", "1"), ("PS1", "# "), ("PS2", "> "), ("PS4", "+ "),
        ("IFS", " \t\n"), ("PATH", String.ofList standardPath)].map fun (name, value) =>
          (name.toList, ({ value := some value.toList } : Binding))
      let fresh := fresh.filter fun entry =>
        entry.1 = "IFS".toList ∨ (process.bindings.lookup entry.1).isNone
      let kept := process.bindings.filter fun entry => entry.1 ≠ "IFS".toList
      let process := { process with
        bindings := kept ++ fresh, directory := placeText process.place }
      process.bind "PWD".toList { value := some process.directory, exported := true }
    let invocation := Invocation.read {} args
    let rest := invocation.rest
    let act : Act Unit := do
      for (on, letter) in invocation.settings do Builtin.setLetters on [letter]
      for (on, name) in invocation.names do
        let _ ← Builtin.setOptions 2 [[if on then '-' else '+', 'o'], name]
      let start (mode : Mode) (name : Chars) (params : List Chars) (text : Chars) : Act Unit := do
        Act.changeProcess ({ · with name, params, line := 1 })
        runText fuel mode text
      if invocation.has 'c' then
        match rest with
        | text :: name :: params => start { last := true } name params text
        | [text] => start { last := true } called [] text
        | [] => Act.fail "-c requires an argument".toList
      else
        match if invocation.has 's' then ([] : List Chars) else rest with
        | [] =>
          match ← Act.contentOf 0 with
          | .error _ => return ()
          | .ok content =>
            if content.endless then throw .expired
            Act.take 0 (.ok content) (.ok { content with text := [] })
            start {} called (if invocation.has 's' then rest else []) content.text
        | word :: params =>
          match (← Act.machine).files.read (pathOf word) with
          | .ok bytes => start {} word params (charsOf bytes)
          | .error .isADirectory => Act.setStatus 0
          | .error e => Act.refuseFile true word e
    conclude fuel act
termination_by structural fuel => fuel

/-- Runs a program as a process of its own, or in the place of this one if it is done then. -/
def runProgram : Nat → Mode → List (Chars × Chars) → Chars → Chars → List Chars → Act Unit
  | 0, _, _, _, _, _ => throw .expired
  | fuel + 1, mode, assigned, path, word, args => do
    let process ← Act.process
    if process.ancestors.length > maxProcesses then throw .expired
    let (called, act) : Chars × Act Unit ←
      match image (← Act.machine).files path word args with
      | .ok image => pure (image.called, runImage fuel image)
      | .error .badFormat =>
        pure ("/bin/sh".toList, runShell fuel "/bin/sh".toList (path :: args))
      | .error e =>
        Act.complain (word ++ (": " ++ refusal e).toList)
        Act.setStatus (refusalStatus e)
        return ()
    if mode.last ∧ process.traps = [] then
      Act.changeProcess (·.becoming called assigned)
      act
      throw .replaced
    else
      let copy ← Act.copy
      let (result, child) ← Act.inProcess (copy.becoming called assigned) act
      Act.setStatus (← Act.endingOf result child).status
termination_by structural fuel => fuel

/-- Calls a function. -/
def runFunction : Nat → Mode → Script → List Chars → Act Unit
  | 0, _, _, _ => throw .expired
  | fuel + 1, mode, body, args => do
    let process ← Act.process
    if process.scopes.length ≥ maxCalls then
      Act.fail ("Maximum function recursion depth (" ++ toString maxCalls ++ ") reached").toList
    Act.changeProcess fun process =>
      { process with
        params := args, scopes := [] :: process.scopes, loops := 0, optionOffset := 0 }
    let result ← Act.attempt (run fuel { tested := mode.tested } body)
    Act.changeProcess fun ended =>
      let restored := (ended.scopes.headD []).foldl
        (fun (ended : Process) (name, old) =>
          match old with
          | some binding => ended.bind name binding
          | none => { ended with bindings := ended.bindings.filter (·.1 ≠ name) })
        ended
      { restored with
        params := process.params, scopes := process.scopes, loops := process.loops
        optionOffset := process.optionOffset }
    match result with
    | .ok () => return ()
    | .error .returned => return ()
    | .error stop => throw stop
termination_by structural fuel => fuel

/-- Runs a command that is part of the language. -/
def runBuiltin : Nat → Mode → Bool → Chars → List Chars → Act Unit
  | 0, _, _, _, _ => throw .expired
  | fuel + 1, mode, special, name, args => do
    match String.ofList name with
    | "eval" =>
      Act.calling name special do
        Act.setStatus 0
        runText fuel { tested := mode.tested } ([' '].intercalate args)
        return (← Act.process).status
    | "." =>
      Act.calling name special do
        match args with
        | [] => return 0
        | word :: _ =>
          let process ← Act.process
          let files := (← Act.machine).files
          let path :=
            if word.contains '/' then some word else fileIn? files (Builtin.searchPath process) word
          match path with
          | none => Act.fail (word ++ ": not found".toList)
          | some path =>
            match files.read (pathOf path) with
            | .error e => Act.refuseFile true word e
            | .ok bytes =>
              let line := process.line
              Act.changeProcess ({ · with command := some path, line := 1, status := 0 })
              let result ← Act.attempt (runText fuel { tested := mode.tested } (charsOf bytes))
              Act.changeProcess ({ · with line })
              match result with
              | .ok () => return (← Act.process).status
              | .error .returned => return (← Act.process).status
              | .error stop => throw stop
    | "exec" =>
      match args with
      | [] => Act.setStatus 0
      | word :: args =>
        let process ← Act.process
        match imageFor (← Act.machine).files process word args with
        | .ok image =>
          Act.changeProcess (·.becoming image.called [])
          runImage fuel image
          throw .replaced
        | .error .badFormat =>
          Act.changeProcess (·.becoming "/bin/sh".toList [])
          runShell fuel "/bin/sh".toList (word :: args)
          throw .replaced
        | .error e =>
          Act.calling name false do
            Act.complain (word ++ (": " ++ refusal e).toList)
            return refusalStatus e
          throw .exited
    | "command" =>
      match args with
      | ['-', 'v'] :: names =>
        Act.calling name false do
          let mut status := 0
          for name in names do
            let result ← Builtin.describe name true
            if result ≠ 0 then status := result
          return status
      | ['-', 'V'] :: names => Act.calling name false (Builtin.type names)
      | ['-', 'p'] :: words => runWords fuel mode false [] words
      | words => runWords fuel mode false [] words
    | "wait" => Act.calling name special (wait fuel args)
    | text =>
      match Builtin.run? text args with
      | some act => Act.calling name special act
      | none => Act.setStatus 127
termination_by structural fuel => fuel

/-- Runs a command by its words, with variables that have been assigned for it alone. Functions
    are left out of account unless `functions` says otherwise, and so is what is special about the
    commands of the language. -/
def runWords : Nat → Mode → Bool → List (Chars × Chars) → List Chars → Act Unit
  | 0, _, _, _, _ => throw .expired
  | fuel + 1, mode, functions, assigned, words => do
    match words with
    | [] => Act.setStatus 0
    | word :: args =>
      let process ← Act.process
      let machine ← Act.machine
      let known := if functions then process else { process with functions := [] }
      -- A search path that is assigned for the command alone counts for it already.
      let known := match assigned.lookup "PATH".toList with
        | some value => known.bind "PATH".toList { value := some value }
        | none => known
      let bindAll : Act Unit := assigned.forM fun (name, value) => Act.assign name value
      let temporarily (act : Act Unit) : Act Unit := do
        bindAll
        act
        for (name, _) in assigned do
          Act.changeProcess fun ended =>
            match process.bindings.lookup name with
            | some binding => ended.bind name binding
            | none => { ended with bindings := ended.bindings.filter (·.1 ≠ name) }
      match Builtin.meaning machine.files known word with
      | .function body => temporarily (runFunction fuel mode body args)
      | .builtin true =>
        bindAll
        runBuiltin fuel mode functions word args
      | .builtin false => temporarily (runBuiltin fuel mode false word args)
      | .program path => runProgram fuel mode assigned path word args
      | .refused =>
        Act.complain (word ++ ": Permission denied".toList)
        Act.setStatus 127
      | .unknown =>
        Act.complain (word ++ ": not found".toList)
        Act.setStatus 127
termination_by structural fuel => fuel

/-- Expands the word of a redirection. -/
def expandRedirection : Nat → Redirection → Act (Nat × Direction × Chars)
  | 0, _ => throw .expired
  | fuel + 1, .mk descriptor direction word => do
    return (descriptor, direction, ← expandText fuel word)
termination_by structural fuel => fuel

/-- Runs a simple command. -/
def runSimple : Nat → Mode → Nat → List (Chars × List Piece) → List (List Piece) →
    List Redirection → Act Unit
  | 0, _, _, _, _, _ => throw .expired
  | fuel + 1, mode, line, assignments, words, redirections => do
    Act.spend
    Act.changeProcess ({ · with line, outputStatus := 0 })
    let assigns := (words.head?.map takesAssignments).getD false
    let words ← expandWords fuel assigns words
    let targets ← redirections.mapM (expandRedirection fuel)
    let process ← Act.process
    let stderr := process.stream? 2
    let special := specialCommands.contains (words.headD [])
    let act : Act Unit := do
      if words = [] then
        let mut assigned := []
        for (name, pieces) in assignments do
          let value ← expandText fuel pieces
          Act.assign name value
          assigned := assigned ++ [(name, value)]
        Act.trace stderr assigned []
        Act.setStatus (← Act.process).outputStatus
      else
        let assigned ← assignments.mapM fun (name, pieces) => do
          if (process.binding name).readOnly then
            Act.fail (name ++ ": is read only".toList)
          return (name, ← expandText fuel pieces)
        Act.trace stderr assigned words
        runWords fuel mode true assigned words
    if words = ["exec".toList] then
      targets.forM fun (descriptor, direction, word) => Act.redirect descriptor direction word
      act
    else
      let done ← Act.redirecting targets act
      if !done then
        if special then throw .failed else Act.setStatus 2
termination_by structural fuel => fuel

/-- Runs the first script one of whose patterns matches a text. -/
def runCases : Nat → Mode → Chars → List (List (List Piece) × Script) → Act Unit
  | 0, _, _, _ => throw .expired
  | _ + 1, _, _, [] => Act.setStatus 0
  | fuel + 1, mode, text, (patterns, script) :: cases => do
    let found ← patterns.anyM fun pattern => do
      return globMatches (Atom.pattern (← expand fuel pattern)) text
    if found then
      Act.setStatus 0
      run fuel mode script
    else runCases fuel mode text cases
termination_by structural fuel => fuel

/-- Runs a part of a script as a process of its own. -/
def runApart : Nat → Mode → (Process → Process) → Script → Act (Except Stop Unit × Process)
  | 0, _, _, _ => throw .expired
  | fuel + 1, mode, setup, script => do
    let copy ← Act.copy
    if copy.ancestors.length > maxProcesses then throw .expired
    let child := setup copy.forked
    Act.inProcess child (conclude fuel (run fuel { mode with last := true } script))
termination_by structural fuel => fuel

/-- Runs scripts, each of which reads what the one before it prints. One that never ends counts as
    ended when those after it are, and what it has printed by then is all that they get. -/
def runPipe : Nat → Mode → Nat → Option Nat → List Script → Act Unit
  | 0, _, _, _, _ => throw .expired
  | _ + 1, _, _, _, [] => return ()
  | fuel + 1, mode, startedMs, input, script :: scripts => do
    let machine ← Act.machine
    Act.changeMachine ({ · with clockMs := startedMs })
    let withInput (process : Process) : Process :=
      match input with
      | some n => process.withDescriptor 0 n
      | none => process
    if scripts.isEmpty then
      let (result, child) ← runApart fuel mode withInput script
      let ending ← Act.endingOf result child
      Act.changeMachine fun ended => { ended with clockMs := max ended.clockMs machine.clockMs }
      Act.setStatus ending.status
    else
      let n ← Act.openStream (.sink [])
      let kept := machine.budget / 2
      Act.changeMachine ({ · with budget := machine.budget - kept })
      let (result, child) ← runApart fuel mode (withInput · |>.withDescriptor 1 n) script
      let ended ← Act.machine
      Act.changeMachine ({ · with budget := ended.budget + kept })
      let text := ended.collected n
      match Ending.ofStop? child result with
      | some ending =>
        Act.report ending
        Act.changeMachine fun machine =>
          { machine.setStream n (.source text false) with
            clockMs := max ended.clockMs machine.clockMs }
      | none =>
        if ended.clockMs ≥ ended.deadlineMs then throw .expired
        Act.changeMachine (·.setStream n (.source text true))
      runPipe fuel mode startedMs (some n) scripts
termination_by structural fuel => fuel

/-- Runs a script. -/
def run : Nat → Mode → Script → Act Unit
  | 0, _, _ => throw .expired
  | fuel + 1, mode, script => do
    if (← Act.process).has .noexec then return ()
    let inner : Mode := { tested := mode.tested }
    let condition : Mode := { tested := true }
    match script with
    | .nothing => return ()
    | .simple line assignments words redirections =>
      runSimple fuel mode line assignments words redirections
      receive fuel
      Act.checkStatus mode
    | .sequence first second =>
      run fuel inner first
      run fuel mode second
    | .andThen first second =>
      run fuel condition first
      if (← Act.process).status = 0 then run fuel mode second
    | .orElse first second =>
      run fuel condition first
      if (← Act.process).status ≠ 0 then run fuel mode second
    | .negated script =>
      run fuel condition script
      Act.setStatus (if (← Act.process).status = 0 then 1 else 0)
    | .pipe scripts =>
      Act.spend
      runPipe fuel inner (← Act.machine).clockMs none scripts
      receive fuel
      Act.checkStatus mode
    | .background script =>
      Act.spend
      let copy ← Act.copy
      let n ← Act.openStream (.device .null)
      let process := copy.forked.withDescriptor 0 n
      Act.changeMachine fun machine =>
        { machine with jobs := machine.jobs ++ [{ process, script, startedMs := machine.clockMs }] }
      Act.changeProcess fun outer =>
        { outer with
          jobs := outer.jobs ++ [process.pid], lastJob := some process.pid, status := 0 }
    | .branch test yes no =>
      run fuel condition test
      if (← Act.process).status = 0 then run fuel mode yes
      else
        Act.setStatus 0
        run fuel mode no
    | .loop succeeds test body =>
      Act.inLoop (Act.rounds succeeds (do Act.spend; run fuel condition test) (run fuel inner body)
        Act.maxRounds 0)
    | .each line name words body =>
      Act.changeProcess ({ · with line })
      let words ← expandWords fuel false words
      Act.setStatus 0
      Act.inLoop (Act.forWords name (do Act.spend; run fuel inner body) words)
    | .select line word cases =>
      Act.changeProcess ({ · with line })
      runCases fuel mode (← expandText fuel word) cases
    | .redirected line script redirections =>
      Act.changeProcess ({ · with line })
      let targets ← redirections.mapM (expandRedirection fuel)
      if !(← Act.redirecting targets (run fuel inner script)) then Act.setStatus 2
    | .isolated line script =>
      Act.spend
      Act.changeProcess ({ · with line })
      if mode.last ∧ (← Act.process).traps = [] then
        run fuel mode script
        throw .exited
      else
        let (result, child) ← runApart fuel inner id script
        Act.setStatus (← Act.endingOf result child).status
        receive fuel
        Act.checkStatus mode
    | .function name body =>
      Act.changeProcess fun process =>
        { process with
          functions := (name, body) :: process.functions.filter (·.1 ≠ name), status := 0 }
termination_by structural fuel => fuel

end

end BootChain.Shell
