import BootChain.Shell.Utility.Awk

/-!
What programs of rules do.
-/

namespace BootChain.Shell.Awk

/-- A value: a number, a text, or a text that comes from outside and counts as a number if it looks
    like one. -/
inductive Value where
  | unset
  | number (x : Float)
  | text (chars : Chars)
  | outer (chars : Chars)

/-- True of a text that is a number as a whole, with blanks around it. -/
def looksNumeric (chars : Chars) : Bool :=
  let (_, found, rest) := BinaryFraction.floatAt chars
  found && rest.all isSpace

/-- A number as it is printed: a whole one in full, another one in the usual form. -/
def numberText (x : Float) : Chars :=
  match BinaryFraction.ofFloat? x with
  | none => if x.isNaN then "nan".toList else if x < 0 then "-inf".toList else "inf".toList
  | some fraction =>
    let sign := if x < 0 then ['-'] else []
    if x == x.floor ∧ x.abs < 1e16 then sign ++ fraction.fixed 0
    else sign ++ fraction.general 6

namespace Value

def toNumber : Value → Float
  | unset => 0
  | number x => x
  | text chars => (BinaryFraction.floatAt chars).1
  | outer chars => (BinaryFraction.floatAt chars).1

def toText : Value → Chars
  | unset => []
  | number x => numberText x
  | text chars => chars
  | outer chars => chars

def isNumeric : Value → Bool
  | unset => true
  | number _ => true
  | text _ => false
  | outer chars => looksNumeric chars

def holds : Value → Bool
  | unset => false
  | number x => x != 0
  | text chars => chars ≠ []
  | outer chars => if looksNumeric chars then (BinaryFraction.floatAt chars).1 != 0 else chars ≠ []

def ofBool (b : Bool) : Value := number (if b then 1 else 0)

end Value

/-- How numbers are ordered; nothing if one is none. -/
def orderOf (a b : Value) : Option Ordering :=
  if a.isNumeric ∧ b.isNumeric then
    let (x, y) := (a.toNumber, b.toNumber)
    if x < y then some .lt else if x == y then some .eq else if x > y then some .gt else none
  else some (compare a.toText b.toText)

/-- A program at work. -/
structure Run where
  task : Task
  functions : List (Chars × Function)
  values : List (Chars × Value) := []
  arrays : List (Chars × List (Chars × Value)) := []
  line : Chars := []
  fields : List Chars := []
  /-- The lines that are left, each with the name of its file and whether it is the first there. -/
  rest : List (Chars × Bool × Chars) := []
  /-- The ranges that are open, by the place of their rule. -/
  ranges : List Nat := []
  /-- The files that have been written to. -/
  written : List Chars := []
  /-- The names of arrays that parameters stand for. -/
  aliases : List (Chars × Chars) := []

/-- Why the statements that follow are not carried out. -/
inductive Stop where
  | next
  | exit
  | break
  | continue
  | return (value : Value)
  | failed (message : String)
  | stuck

/-- What a part of a program does. -/
abbrev Doing := ExceptT Stop (StateM Run)

namespace Run

def value (run : Run) (name : Chars) : Value := (run.values.lookup name).getD .unset

def withVariable (run : Run) (name : Chars) (value : Value) : Run :=
  { run with values := (name, value) :: run.values.filter (·.1 ≠ name) }

def textOf (run : Run) (name : String) : Chars := (run.value name.toList).toText

/-- Splits a text into fields. -/
def split (separator text : Chars) : List Chars :=
  if text = [] then []
  else if separator = [' '] then
    (text.splitBy fun a b => isSpace a = isSpace b).filter fun part => !part.all isSpace
  else
    match separator with
    | [] => text.map ([·])
    | [c] => if c = '\\' ∨ c = '|' ∨ c.isAlphanum ∨ c = ',' ∨ c = ':' ∨ c = ';' ∨ c = '\t' then
        text.splitOn c else byRegex text separator
    | _ => byRegex text separator
where
  byRegex (text separator : Chars) : List Chars :=
    let regex? := match separator with
      | [c] => some (Regex.literal [c])
      | separator => Regex.read? true separator
    match regex? with
    | none => [text]
    | some regex => parts regex text (text.length + 1) 0 0
  parts (regex : Regex) (text : Chars) : Nat → Nat → Nat → List Chars
    | 0, start, _ => [text.drop start]
    | fuel + 1, start, place =>
      match regex.find? text place with
      | none => [text.drop start]
      | some (found, ended) =>
        let stop := text.length - ended.rest.length
        if stop = found then
          if found < text.length then parts regex text fuel start (found + 1)
          else [text.drop start]
        else (text.drop start).take (found - start) :: parts regex text fuel stop stop

def setCount (run : Run) : Run :=
  run.withVariable "NF".toList (.number (Float.ofNat run.fields.length))

def withLine (run : Run) (line : Chars) : Run :=
  ({ run with line, fields := split (run.textOf "FS") line }).setCount

/-- The line that the fields make together. -/
def joined (run : Run) : Run := { run with line := (run.textOf "OFS").intercalate run.fields }

def field (run : Run) (n : Nat) : Value :=
  if n = 0 then .outer run.line
  else match run.fields[n - 1]? with
    | some chars => .outer chars
    | none => .unset

def withField (run : Run) (n : Nat) (chars : Chars) : Run :=
  if n = 0 then run.withLine chars
  else
    let fields := run.fields ++ List.replicate (n - run.fields.length) []
    ({ run with fields := fields.set (n - 1) chars }).setCount.joined

def withFieldCount (run : Run) (n : Nat) : Run :=
  let fields := (run.fields ++ List.replicate (n - run.fields.length) []).take n
  ({ run with fields }).setCount.joined

def arrayName (run : Run) (name : Chars) : Chars := (run.aliases.lookup name).getD name

def array (run : Run) (name : Chars) : List (Chars × Value) :=
  (run.arrays.lookup (run.arrayName name)).getD []

def withArray (run : Run) (name : Chars) (elements : List (Chars × Value)) : Run :=
  let name := run.arrayName name
  { run with arrays := (name, elements) :: run.arrays.filter (·.1 ≠ name) }

def withElement (run : Run) (name key : Chars) (value : Value) : Run :=
  let elements := run.array name
  run.withArray name
    (if (elements.lookup key).isSome then
      elements.map fun entry => if entry.1 = key then (key, value) else entry
    else elements ++ [(key, value)])

end Run

/-- The part of a text that starts at a place, counted from one, and has so many characters. -/
def partOf (text : Chars) (start count : Float) : Chars :=
  let rounded (x : Float) : Int := if x < 0 then -((-x).round.toUInt64.toNat : Int)
    else (x.round.toUInt64.toNat : Int)
  let first := rounded start
  let stop := if count > 1e9 then (text.length : Int) + 1 else first + rounded count
  let first := max 1 first
  if stop ≤ first then []
  else (text.drop (first.toNat - 1)).take (stop - first).toNat

/-- What a match is replaced by: an ampersand stands for the match unless it is quoted. -/
def replacement : Chars → Chars → Chars
  | '\\' :: '&' :: rest, found => '&' :: replacement rest found
  | '\\' :: '\\' :: '&' :: rest, found => '\\' :: (found ++ replacement rest found)
  | '&' :: rest, found => found ++ replacement rest found
  | c :: rest, found => c :: replacement rest found
  | [], _ => []

/-- A text with its first match replaced, or all of them, and how many there were. -/
def substituted (regex : Regex) (put : Chars) (all : Bool) (text : Chars) :
    Nat → Nat → Option Nat → Chars × Nat
  | 0, place, _ => (text.drop place, 0)
  | fuel + 1, place, last =>
    match regex.find? text place with
    | none => (text.drop place, 0)
    | some (start, ended) =>
      let stop := text.length - ended.rest.length
      let passed := (text.drop place).take (start - place)
      if stop = start ∧ last = some start then
        match text[start]? with
        | none => (passed, 0)
        | some c =>
          let (rest, n) := substituted regex put all text fuel (start + 1) none
          (passed ++ c :: rest, n)
      else
        let found := (text.drop start).take (stop - start)
        let put := passed ++ replacement put found
        if !all then (put ++ text.drop stop, 1)
        else
          let (rest, n) := substituted regex put all text fuel stop (some stop)
          (put ++ rest, n + 1)

def fail {α : Type} (message : String) : Doing α := throw (.failed message)

/-- The expression that a value is when it is matched against. -/
def regexOf (value : Value) : Doing Regex :=
  match Regex.read? true value.toText with
  | some regex => return regex
  | none => fail "regular expression compile failed"

/-- Takes the next line, if there is one. -/
def nextLine : Doing Bool := do
  let run ← get
  match run.rest with
  | [] => return false
  | (file, isFirst, line) :: rest =>
    let count := (run.value "NR".toList).toNumber + 1
    let inFile := if isFirst then 1 else (run.value "FNR".toList).toNumber + 1
    let run := { run with rest }.withLine line
    let run := run.withVariable "NR".toList (.number count)
    let run := run.withVariable "FNR".toList (.number inFile)
    set (if isFirst then run.withVariable "FILENAME".toList (.text file) else run)
    return true

def arithmetic (operator : String) (x y : Float) : Value :=
  match operator with
  | "+" => .number (x + y)
  | "-" => .number (x - y)
  | "*" => .number (x * y)
  | "/" => .number (x / y)
  | "%" =>
    let quotient := x / y
    .number (x - y * (if quotient < 0 then -((-quotient).floor) else quotient.floor))
  | _ => .number (x.pow y)

/-- A number without its decimals, as a text. -/
def wholeText (x : Float) : Chars :=
  match BinaryFraction.ofFloat? (if x < 0 then -((-x).floor) else x.floor) with
  | some fraction => (if x ≤ -1 then ['-'] else []) ++ fraction.fixed 0
  | none => ['0']

/-- The texts that values have in the directives of a format, in which they stand in order. -/
def directiveTexts : Nat → Chars → List Value → List Chars
  | 0, _, _ => []
  | _ + 1, [], _ => []
  | fuel + 1, '%' :: '%' :: rest, values => directiveTexts fuel rest values
  | fuel + 1, '%' :: rest, values =>
    let (layout, after) := rest.span fun c =>
      c.isDigit || ['-', '+', ' ', '#', '.', '*'].contains c
    let stars := layout.count '*'
    let measures := (values.take stars).map fun value => wholeText value.toNumber
    let values := values.drop stars
    let value := values.headD .unset
    match after with
    | [] => measures
    | letter :: after =>
      let text :=
        if ['d', 'i', 'o', 'x', 'X', 'u'].contains letter then wholeText value.toNumber
        else if letter = 'c' then
          match value with
          | .number x => [Char.ofNat (x.toUInt64.toNat % 256)]
          | value => value.toText.take 1
        else if letter = 's' then value.toText
        else match BinaryFraction.ofFloat? value.toNumber with
          | some fraction => (if value.toNumber < 0 then ['-'] else []) ++ fraction.general 17
          | none => ['0']
      measures ++ text :: directiveTexts fuel after (values.drop 1)
  | fuel + 1, _ :: rest, values => directiveTexts fuel rest values

/-- What a format makes of some values. -/
def laidOut (format : Chars) (values : List Value) : Chars :=
  let texts := directiveTexts (format.length + 1) format values
  (formatted (format.flatMap fun c => if c = '\\' then ['\\', '\\'] else [c]) texts).1

/-- Carries out the body of a loop. Tells whether the loop goes on. -/
def bodyOf (body : Doing Unit) : Doing Bool := do
  let result ← (ExceptT.mk do return .ok (← body.run) : Doing (Except Stop Unit))
  match result with
  | .ok () => return true
  | .error .continue => return true
  | .error .break => return false
  | .error stop => throw stop

/-- Carries out rounds as long as they go on. -/
def roundsFrom (round : Doing Bool) : Nat → Doing Unit
  | 0 => throw .stuck
  | n + 1 => do
    if ← round then roundsFrom round n

/-- The most rounds that a loop may have. -/
def maxRounds : Nat := 1000000

mutual

def evalFrom : Nat → Expr → Doing Value
  | 0, _ => throw .stuck
  | fuel + 1, e => do
    match e with
    | .number x => return .number x
    | .text chars => return .text chars
    | .group e => evalFrom fuel e
    | .regex regex => return .ofBool (regex.isIn (← get).line)
    | .field index => do
      let n := (← evalFrom fuel index).toNumber
      if n < 0 then fail "negative field index" else return (← get).field n.toUInt64.toNat
    | .variable name => return (← get).value name
    | .element name index => do
      let key ← keyFrom fuel index
      let run ← get
      match (run.array name).lookup key with
      | some value => return value
      | none =>
        set (run.withElement name key .unset)
        return .unset
    | .assign target operator value => do
      let value ← evalFrom fuel value
      let value ← match operator with
        | none => pure (match value with
          | .unset => Value.text []
          | value => value)
        | some operator => do
          let old ← evalFrom fuel target
          pure (arithmetic operator old.toNumber value.toNumber)
      storeFrom fuel target value
      return value
    | .step target up before => do
      let old := (← evalFrom fuel target).toNumber
      let new := if up then old + 1 else old - 1
      storeFrom fuel target (.number new)
      return .number (if before then new else old)
    | .negate e => return .number (-(← evalFrom fuel e).toNumber)
    | .not e => return .ofBool (!(← evalFrom fuel e).holds)
    | .both a b => do
      if (← evalFrom fuel a).holds then return .ofBool (← evalFrom fuel b).holds
      else return .ofBool false
    | .either a b => do
      if (← evalFrom fuel a).holds then return .ofBool true
      else return .ofBool (← evalFrom fuel b).holds
    | .choice condition yes no => do
      if (← evalFrom fuel condition).holds then evalFrom fuel yes else evalFrom fuel no
    | .isMatch negated a b => do
      let text := (← evalFrom fuel a).toText
      let regex ← match b with
        | .regex regex => pure regex
        | b => do regexOf (← evalFrom fuel b)
      return .ofBool (regex.isIn text != negated)
    | .isIn index name => do
      let key ← keyFrom fuel index
      return .ofBool (((← get).array name).lookup key).isSome
    | .binary operator a b => do
      let a ← evalFrom fuel a
      let b ← evalFrom fuel b
      let compared (f : Ordering → Bool) : Value := .ofBool ((orderOf a b).any f)
      match operator with
      | "" => return .text (a.toText ++ b.toText)
      | "<" => return compared (· == .lt)
      | "<=" => return compared (· != .gt)
      | "==" => return compared (· == .eq)
      | "!=" => return .ofBool (!(orderOf a b).any (· == .eq))
      | ">" => return compared (· == .gt)
      | ">=" => return compared (· != .lt)
      | operator =>
        if (operator = "/" ∨ operator = "%") ∧ b.toNumber == 0 then fail "division by zero"
        else return arithmetic operator a.toNumber b.toNumber
    | .call name args => callFrom fuel name args
termination_by structural fuel => fuel

/-- The key that the values of an index make together. -/
def keyFrom : Nat → List Expr → Doing Chars
  | 0, _ => throw .stuck
  | fuel + 1, index => do
    let values ← index.mapM (evalFrom fuel)
    return ((← get).textOf "SUBSEP").intercalate (values.map Value.toText)
termination_by structural fuel => fuel

/-- Gives a target a value. -/
def storeFrom : Nat → Expr → Value → Doing Unit
  | 0, _, _ => throw .stuck
  | fuel + 1, target, value => do
    match target with
    | .variable name =>
      modify (·.withVariable name value)
      if name = "NF".toList then modify (·.withFieldCount value.toNumber.toUInt64.toNat)
    | .element name index =>
      let key ← keyFrom fuel index
      modify (·.withElement name key value)
    | .field index =>
      let n := (← evalFrom fuel index).toNumber
      modify (·.withField n.toUInt64.toNat value.toText)
    | _ => return ()
termination_by structural fuel => fuel

def callFrom : Nat → Chars → List Expr → Doing Value
  | 0, _, _ => throw .stuck
  | fuel + 1, name, args => do
    let number (f : Float → Float) : Doing Value := do
      match args with
      | e :: _ => return .number (f (← evalFrom fuel e).toNumber)
      | [] => return .number (f ((← get).field 0).toNumber)
    let regexArg (e : Expr) : Doing Regex := do
      match e with
      | .regex regex => return regex
      | e => regexOf (← evalFrom fuel e)
    let substitute (all : Bool) : Doing Value := do
      match args with
      | pattern :: put :: rest =>
        let regex ← regexArg pattern
        let put := (← evalFrom fuel put).toText
        let target := rest.headD (.field (.number 0))
        let text := (← evalFrom fuel target).toText
        let (text, n) := substituted regex put all text (2 * text.length + 3) 0 none
        if n > 0 then storeFrom fuel target (.text text)
        return .number (Float.ofNat n)
      | _ => fail "not enough arguments"
    match String.ofList name, args with
    | "atan2", [y, x] =>
      let y := (← evalFrom fuel y).toNumber
      return .number (Float.atan2 y (← evalFrom fuel x).toNumber)
    | "length", [] => return .number (Float.ofNat (← get).line.length)
    | "length", e :: _ =>
      match e with
      | .variable name =>
        let run ← get
        if (run.arrays.lookup (run.arrayName name)).isSome then
          return .number (Float.ofNat (run.array name).length)
        else return .number (Float.ofNat (run.value name).toText.length)
      | e => return .number (Float.ofNat (← evalFrom fuel e).toText.length)
    | "substr", [text, start] =>
      let text := (← evalFrom fuel text).toText
      return .text (partOf text (← evalFrom fuel start).toNumber 1e10)
    | "substr", text :: start :: count :: _ =>
      let text := (← evalFrom fuel text).toText
      let start := (← evalFrom fuel start).toNumber
      return .text (partOf text start (← evalFrom fuel count).toNumber)
    | "index", text :: part :: _ =>
      let text := (← evalFrom fuel text).toText
      let part := (← evalFrom fuel part).toText
      let place := (List.range (text.length + 1)).find? fun n => part.isPrefixOf (text.drop n)
      return .number (match place with
        | some n => Float.ofNat (n + 1)
        | none => 0)
    | "split", text :: .variable array :: rest =>
      let text := (← evalFrom fuel text).toText
      let separator ← match rest with
        | .regex regex :: _ => pure (Sum.inr regex)
        | e :: _ => pure (Sum.inl (← evalFrom fuel e).toText)
        | [] => pure (Sum.inl ((← get).textOf "FS"))
      let parts := match separator with
        | .inl separator => Run.split separator text
        | .inr regex =>
          if text = [] then [] else Run.split.parts regex text (text.length + 1) 0 0
      let elements := ((List.range' 1 parts.length).zip parts).map fun (n, part) =>
        ((toString n).toList, Value.outer part)
      modify (·.withArray array elements)
      return .number (Float.ofNat parts.length)
    | "sub", _ => substitute false
    | "gsub", _ => substitute true
    | "match", text :: pattern :: _ =>
      let text := (← evalFrom fuel text).toText
      let regex ← regexArg pattern
      let (start, count) := match regex.find? text 0 with
        | some (start, ended) =>
          (Float.ofNat (start + 1), Float.ofNat (text.length - ended.rest.length - start))
        | none => (0, -1)
      modify fun run => (run.withVariable "RSTART".toList (.number start)).withVariable
        "RLENGTH".toList (.number count)
      return .number start
    | "toupper", e :: _ => return .text ((← evalFrom fuel e).toText.map Char.toUpper)
    | "tolower", e :: _ => return .text ((← evalFrom fuel e).toText.map Char.toLower)
    | "sprintf", format :: args =>
      let format := (← evalFrom fuel format).toText
      let values ← args.mapM (evalFrom fuel)
      return .text (laidOut format values)
    | "int", _ => number fun x => if x < 0 then -((-x).floor) else x.floor
    | "sqrt", _ => number Float.sqrt
    | "exp", _ => number Float.exp
    | "log", _ => number Float.log
    | "sin", _ => number Float.sin
    | "cos", _ => number Float.cos
    | "system", _ => return .number 0
    | "close", _ => return .number 0
    | "fflush", _ => return .number 0
    | _, _ =>
      match (← get).functions.lookup name with
      | none => fail ("function " ++ String.ofList name ++ " never defined")
      | some function =>
        let outer ← get
        let bound ← (function.params.zip args).mapM fun (param, e) => do
          match e with
          | .variable name =>
            let run ← get
            if (run.values.lookup name).isNone then
              return (param, Value.unset, some (run.arrayName name))
            else return (param, run.value name, none)
          | e => return (param, ← evalFrom fuel e, none)
        let locals := function.params.drop args.length
        modify fun run =>
          { run with
            values := bound.map (fun (param, value, _) => (param, value)) ++
              locals.map (fun param => (param, .unset)) ++
              run.values.filter fun entry => !function.params.contains entry.1
            aliases := bound.filterMap (fun (param, _, array) => array.map (param, ·)) ++
              run.aliases.filter fun entry => !function.params.contains entry.1
            arrays := run.arrays.filter fun entry => !locals.contains entry.1 }
        let body := carryOut fuel function.body
        let result ← (ExceptT.mk do return .ok (← body.run) : Doing (Except Stop Unit))
        modify fun run =>
          { run with
            values := run.values.filter (fun entry => !function.params.contains entry.1) ++
              outer.values.filter fun entry => function.params.contains entry.1
            aliases := outer.aliases }
        match result with
        | .ok () => return .unset
        | .error (.return value) => return value
        | .error stop => throw stop
termination_by structural fuel => fuel

/-- Carries out a statement. -/
def carryOut : Nat → Statement → Doing Unit
  | 0, _ => throw .stuck
  | fuel + 1, statement => do
    let give (text : Chars) (output : Output) : Doing Unit := do
      match output with
      | .standard => modify fun run => { run with task := run.task.print text }
      | .file appends name =>
        let name := (← evalFrom fuel name).toText
        if name = "/dev/stdout".toList then
          modify fun run => { run with task := run.task.print text }
        else if name = "/dev/stderr".toList then
          modify fun run =>
            { run with task := { run.task with printed := (2, text) :: run.task.printed } }
        else
          let run ← get
          let files := run.task.files
          let starts := !appends && !run.written.contains name
          let result := if starts then files.write (pathOf name) (bytesOf text)
            else files.append (pathOf name) (bytesOf text)
          match result with
          | .ok files =>
            set { run with task := { run.task with files }, written := name :: run.written }
          | .error e => fail ("cannot open \"" ++ shown name ++ "\" (" ++ reason e ++ ")")
    match statement with
    | .nothing => return ()
    | .expr e => do
      let _ ← evalFrom fuel e
    | .print values output => do
      let values ← values.mapM (evalFrom fuel)
      let run ← get
      let text := if values.isEmpty then run.line
        else (run.textOf "OFS").intercalate (values.map Value.toText)
      give (text ++ run.textOf "ORS") output
    | .printf values output => do
      match ← values.mapM (evalFrom fuel) with
      | [] => fail "no arguments in call to printf"
      | format :: values => give (laidOut format.toText values) output
    | .sequence first second => do
      carryOut fuel first
      carryOut fuel second
    | .branch condition yes no => do
      if (← evalFrom fuel condition).holds then carryOut fuel yes else carryOut fuel no
    | .loop first condition body step =>
      roundsFrom (do
        if !first then
          if !(← evalFrom fuel condition).holds then return false
        if !(← bodyOf (carryOut fuel body)) then return false
        carryOut fuel step
        if first then return (← evalFrom fuel condition).holds
        return true) maxRounds
    | .each name array body => do
      let keys := ((← get).array array).map Prod.fst
      for key in keys do
        modify (·.withVariable name (.outer key))
        if !(← bodyOf (carryOut fuel body)) then break
    | .next => throw .next
    | .exit status => do
      if let some e := status then
        let n := (← evalFrom fuel e).toNumber
        let status := (if n < 0 then 256 - (-n).toUInt64.toNat % 256 else n.toUInt64.toNat) % 256
        modify fun run => { run with task := { run.task with status } }
      throw .exit
    | .break => throw .break
    | .continue => throw .continue
    | .return value => do
      match value with
      | some e => throw (.return (← evalFrom fuel e))
      | none => throw (.return .unset)
    | .delete name index => do
      if index.isEmpty then modify (·.withArray name [])
      else
        let key ← keyFrom fuel index
        modify fun run => run.withArray name ((run.array name).filter (·.1 ≠ key))
termination_by structural fuel => fuel

end

/-- How deep the parts of a program may be nested while it runs. -/
def maxDepth : Nat := 10000

/-- True of a rule that is for the line under way. `n` is its place in the program. -/
def chosen (n : Nat) (pattern : Pattern) : Doing Bool := do
  match pattern with
  | .start => return false
  | .finish => return false
  | .always => return true
  | .holds e => return (← evalFrom maxDepth e).holds
  | .range first last =>
    if (← get).ranges.contains n then
      if (← evalFrom maxDepth last).holds then
        modify fun run => { run with ranges := run.ranges.filter (· ≠ n) }
      return true
    else if (← evalFrom maxDepth first).holds then
      if !(← evalFrom maxDepth last).holds then
        modify fun run => { run with ranges := n :: run.ranges }
      return true
    else return false

/-- Carries out the rules for the line under way. -/
def carryOutRules : List (Nat × Rule) → Doing Unit
  | [] => return ()
  | (n, rule) :: rules => do
    if ← chosen n rule.pattern then carryOut maxDepth rule.action
    carryOutRules rules

/-- Goes through the lines that are left. -/
def linesFrom (rules : List (Nat × Rule)) : Nat → Doing Unit
  | 0 => return ()
  | count + 1 => do
    if ← nextLine then
      match ← (ExceptT.mk do return .ok (← (carryOutRules rules).run) :
          Doing (Except Stop Unit)) with
      | .ok () => linesFrom rules count
      | .error .next => linesFrom rules count
      | .error stop => throw stop

/-- The actions of the rules before the first line, or after the last one. -/
def actionsAt (program : Program) (isStart : Bool) : List Statement :=
  program.rules.filterMap fun rule =>
    match rule.pattern, isStart with
    | .start, true => some rule.action
    | .finish, false => some rule.action
    | _, _ => none

/-- What comes of a part of a program, and the run after it. -/
def outcome (act : Doing Unit) (run : Run) : Except Stop Unit × Run := act.run.run run

/-- The run after what has stopped it. -/
def concluded (result : Except Stop Unit) (run : Run) : Run :=
  match result with
  | .error (.failed message) =>
    { run with task := { run.task with
        printed := (2, (shown run.task.called ++ ": " ++ message ++ "\n").toList) ::
          run.task.printed
        status := 2 } }
  | .error .stuck => { run with task := { run.task with stuck := true } }
  | _ => run

/-- Runs a program. The files are read only if there are rules for lines or for the end. -/
def runProgram (program : Program) (run : Run) (read : Run → Run) : Run :=
  let (result, run) := outcome ((actionsAt program true).forM (carryOut maxDepth)) run
  let isExit : Bool := match result with
    | .error .exit => true
    | _ => false
  let ends := actionsAt program false
  match result with
  | .error (.failed _) => concluded result run
  | .error .stuck => concluded result run
  | _ =>
    let others := program.rules.filter fun rule =>
      match rule.pattern with
      | .start => false
      | .finish => false
      | _ => true
    if others.isEmpty ∧ ends.isEmpty then run
    else
      let (result, run) :=
        if isExit then (.ok (), run)
        else
          let run := read run
          outcome (linesFrom ((List.range others.length).zip others) run.rest.length) run
      match result with
      | .error (.failed _) => concluded result run
      | .error .stuck => concluded result run
      | _ =>
        let (result, run) := outcome (ends.forM (carryOut maxDepth)) run
        concluded result run

def initialValues : List (Chars × Value) :=
  [("FS", " "), ("OFS", " "), ("RS", "\n"), ("ORS", "\n"), ("SUBSEP", "\x1C"),
    ("CONVFMT", "%.6g"), ("OFMT", "%.6g")].map fun (name, text) => (name.toList, .text text.toList)

/-- Assigns what a word says that has the form of an assignment. -/
def assigned (run : Run) (word : Chars) : Run :=
  let (name, value) := word.span (· ≠ '=')
  let value := value.drop 1
  run.withVariable name (.outer (plain (value.length + 1) value))

def isAssignment (word : Chars) : Bool :=
  let (name, value) := word.span (· ≠ '=')
  value ≠ [] && name ≠ [] && name.all isNameChar && !(name.headD '0').isDigit

/-- The separator of fields that an option gives. -/
def separatorOf (word : Chars) : Chars :=
  if word = ['t'] then ['\t'] else plain (word.length + 1) word

/-- What is said of a file that cannot be read. -/
def unopened (word : Chars) (e : IoError) : String :=
  "cannot open \"" ++ shown word ++ "\" (" ++ reason e ++ ")"

/-- Reads the lines of some files, or of the input if there are none. -/
def withFiles (words : List Chars) (run : Run) : Run :=
  let run := (words.filter isAssignment).foldl assigned run
  let files := words.filter fun word => !isAssignment word
  (if files = [] then [['-']] else files).foldl
    (fun run word =>
      match run.task.wholeOf word with
      | (.ok text, task) =>
        let lines := (linesOf text).map withoutEnd
        let marked := ((List.range lines.length).zip lines).map fun (n, line) =>
          (if word = ['-'] then [] else word, decide (n = 0), line)
        { run with task, rest := run.rest ++ marked }
      | (.error e, task) =>
        { run with task := task.complain (unopened word e) 2 })
    run

/-- Runs a program that goes through texts line by line: a text is taken apart into fields, and
    what the program does with them goes to the output. -/
def awk (task : Task) (args : List Chars) : Task :=
  task.withOptions { plain := "", valued := "Fvf", mixed := false } 2 args fun task options =>
    let (text, words) := match options.value? 'f' with
      | some word =>
        (((task.files.read (pathOf word)).mapError (unopened word)).map charsOf, options.words)
      | none =>
        (options.words.head?.elim (.error "no program") .ok, options.words.drop 1)
    match text with
    | .error message => task.complain message 2
    | .ok text =>
      match read? text with
      | none => task.complain "line 1: syntax error at or near end of line" 2
      | some program =>
        let run : Run := { task, functions := program.functions, values := initialValues }
        let run := match options.value? 'F' with
          | some word => run.withVariable "FS".toList (.text (separatorOf word))
          | none => run
        let run := options.flags.foldl
          (fun run (letter, word) => if letter = 'v' then assigned run word else run) run
        let run := run.withArray "ENVIRON".toList
          (task.environment.map fun (name, value) => (name, .outer value))
        (runProgram program run (withFiles words)).task.settled

end BootChain.Shell.Awk
