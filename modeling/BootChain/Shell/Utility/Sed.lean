import BootChain.Shell.Numeral
import BootChain.Shell.Regex
import BootChain.Shell.Utility

/-!
The stream editor: a script of instructions is carried out on each line of a text.
-/

namespace BootChain.Shell.Sed

/-- Which lines an instruction is for. No expression stands for the one that was used last. -/
inductive Address where
  | number (n : Nat)
  | last
  | matching (regex : Option Regex)
  /-- Every line whose number differs from the first by a multiple of the second. -/
  | step (first step : Nat)
  /-- So many lines after the first of a range. -/
  | after (lines : Nat)
  /-- The next line whose number is a multiple. -/
  | multiple (n : Nat)

/-- How letters of a replacement are changed. -/
inductive Case where
  | same
  | upper
  | lower
  deriving DecidableEq

/-- A part of what a match is replaced by. -/
inductive Replacement where
  | text (c : Char)
  | group (n : Nat)
  /-- All that follows is changed. -/
  | case (kind : Case)
  /-- The next character is changed. -/
  | nextCase (kind : Case)

/-- What is done with a line. -/
inductive Action where
  /-- Goes on at a place of the script if the line is none of those that are chosen. -/
  | block (stop : Nat)
  /-- Marks a place. -/
  | place (label : Chars)
  | substitute (regex : Option Regex) (replacement : List Replacement) (nth : Nat)
      (all print : Bool) (file : Option Chars)
  | translate (source target : Chars)
  | print
  | printFirst
  | delete
  | deleteFirst
  | next
  | join
  | hold (adds : Bool)
  | get (adds : Bool)
  | exchange
  | insert (text : Chars)
  | append (text : Chars)
  | change (text : Chars)
  | number
  | clear
  /-- Prints the line with all its characters made visible. -/
  | list
  | fileName
  | quit (prints : Bool) (status : Nat)
  /-- Goes on at a label, or after the end: always, or if something has been substituted or has
      not. -/
  | jump (when : Option Bool) (label : Chars)
  | read (file : Chars)
  | write (file : Chars)

structure Instruction where
  first : Option Address := none
  second : Option Address := none
  negated : Bool := false
  action : Action

/-- The inside of brackets of an expression and their end, and what follows. -/
def bracketed (chars : Chars) : Option (Chars × Chars) :=
  let (start, rest) := match chars with
    | '^' :: ']' :: rest => (['^', ']'], rest)
    | '^' :: rest => (['^'], rest)
    | ']' :: rest => ([']'], rest)
    | rest => ([], rest)
  let rec inside (read : Chars) : Nat → Chars → Option (Chars × Chars)
    | 0, _ => none
    | fuel + 1, chars =>
      match chars with
      | [] => none
      | ']' :: rest => some ((']' :: read).reverse, rest)
      | '[' :: ':' :: rest =>
        let (name, after) := rest.span Char.isAlpha
        match after with
        | ':' :: ']' :: after =>
          inside (']' :: ':' :: (name.reverse ++ ':' :: '[' :: read)) fuel after
        | _ => inside (':' :: '[' :: read) fuel rest
      | c :: rest => inside (c :: read) fuel rest
  (inside [] (rest.length + 1) rest).map fun (read, rest) => (start ++ read, rest)

/-- The characters up to a delimiter that is not quoted, and what follows it. A quoted delimiter
    loses its backslash. In an expression, what is in brackets is passed over. -/
def delimited (delimiter : Char) (isRegex : Bool) : Nat → Chars → Chars → Option (Chars × Chars)
  | 0, _, _ => none
  | fuel + 1, read, chars =>
    match chars with
    | [] => none
    | '\\' :: c :: rest =>
      if c = delimiter then delimited delimiter isRegex fuel (c :: read) rest
      else delimited delimiter isRegex fuel (c :: '\\' :: read) rest
    | c :: rest =>
      if c = delimiter then some (read.reverse, rest)
      else if c = '[' ∧ isRegex then do
        let (inside, rest) ← bracketed rest
        delimited delimiter isRegex fuel (inside.reverse ++ '[' :: read) rest
      else delimited delimiter isRegex fuel (c :: read) rest

/-- The expression up to a delimiter, and what follows. -/
def delimitedRegex (delimiter : Char) (chars : Chars) : Option (Chars × Chars) :=
  delimited delimiter true (chars.length + 1) [] chars

/-- The plain characters up to a delimiter, and what follows. -/
def delimitedText (delimiter : Char) (chars : Chars) : Option (Chars × Chars) :=
  delimited delimiter false (chars.length + 1) [] chars

def replacements : Chars → List Replacement
  | '\\' :: c :: rest =>
    (if c.isDigit then .group (c.toNat - '0'.toNat)
      else match c with
        | 'n' => .text '\n'
        | 't' => .text '\t'
        | 'U' => .case .upper
        | 'L' => .case .lower
        | 'E' => .case .same
        | 'u' => .nextCase .upper
        | 'l' => .nextCase .lower
        | c => .text c) :: replacements rest
  | '&' :: rest => .group 0 :: replacements rest
  | c :: rest => .text c :: replacements rest
  | [] => []

/-- The greatest number of a group that a replacement asks for. -/
def greatestGroup (replacement : List Replacement) : Nat :=
  replacement.foldl
    (fun most part => match part with
      | .group n => max most n
      | _ => most)
    0

/-- A script on the way: what was read of it, last first, the characters that are left, and the
    places of the blocks that are open. -/
structure Reading where
  /-- The number of characters of the whole script. -/
  size : Nat
  read : List Instruction := []
  chars : Chars
  opened : List Nat := []

/-- Why a script is none: how many characters are left after the one at fault, and what is wrong. -/
abbrev Fault := Nat × String

def regex? (extended : Bool) (ignoresCase : Bool) (pattern : Chars) (left : Nat) :
    Except Fault (Option Regex) :=
  if pattern = [] then .ok none
  else match Regex.compile extended false pattern with
    | .ok regex => .ok (some (if ignoresCase then regex.ignoringCase else regex))
    | .error message => .error (left, message)

def misplaced : String := "invalid usage of +N or ~N as first address"

/-- Reads an address. -/
def address? (extended : Bool) (chars : Chars) : Except Fault (Option Address × Chars) :=
  let matching (delimiter : Char) (rest : Chars) : Except Fault (Option Address × Chars) :=
    match delimitedRegex delimiter rest with
    | none => .error (0, "unterminated address regex")
    | some (pattern, rest) => do
      let (flags, rest) := rest.span fun c => c = 'I' || c = 'M'
      return (some (.matching (← regex? extended (flags.contains 'I') pattern rest.length)), rest)
  match chars with
  | '+' :: rest => .error ((rest.dropWhile Char.isDigit).length, misplaced)
  | '~' :: rest => .error ((rest.dropWhile Char.isDigit).length, misplaced)
  | '$' :: rest => .ok (some .last, rest)
  | '/' :: rest => matching '/' rest
  | '\\' :: c :: rest => matching c rest
  | c :: _ =>
    if c.isDigit then
      let (n, rest) := numberAt chars
      match rest with
      | '~' :: rest =>
        let (step, rest) := numberAt rest
        .ok (some (.step n step), rest)
      | rest => .ok (some (.number n), rest)
    else .ok (none, chars)
  | [] => .ok (none, [])

/-- Reads the second address of a range. -/
def secondAddress? (extended : Bool) (chars : Chars) : Except Fault (Option Address × Chars) :=
  match chars with
  | '+' :: rest =>
    let (n, rest) := numberAt rest
    .ok (some (.after n), rest)
  | '~' :: rest =>
    let (n, rest) := numberAt rest
    .ok (some (.multiple n), rest)
  | chars => address? extended chars

/-- The text of an instruction that puts in lines: what follows on the line, or on the lines after
    it for as long as a backslash ends them. -/
def linesFrom : Nat → Chars → Chars → Chars × Chars
  | 0, read, chars => (read.reverse, chars)
  | _ + 1, read, [] => (('\n' :: read).reverse, [])
  | fuel + 1, read, c :: rest =>
    if c = '\n' then (('\n' :: read).reverse, rest)
    else match c, rest with
      | '\\', d :: rest => linesFrom fuel (d :: read) rest
      | '\\', [] => (('\n' :: read).reverse, [])
      | c, rest => linesFrom fuel (c :: read) rest

/-- The text that follows the letter of an instruction that puts in lines. -/
def insertedText? (chars : Chars) : Except Fault (Chars × Chars) :=
  match chars.dropWhile isBlank with
  | [] => .error (0, "expected \\ after \x60a', \x60c' or \x60i'")
  | '\\' :: rest =>
    match rest.dropWhile isBlank with
    | '\n' :: rest => .ok (if rest = [] then ([], []) else linesFrom (rest.length + 1) [] rest)
    | [] => .ok ([], [])
    | rest => .ok (linesFrom (rest.length + 1) [] rest)
  | rest => .ok (linesFrom (rest.length + 1) [] rest)

/-- The flags after a substitution: which match, all, whether it prints, whether case counts and
    the file that it writes to. -/
structure Flags where
  nth : Option Nat := none
  all : Bool := false
  print : Bool := false
  ignoresCase : Bool := false
  file : Option Chars := none

def flagsFrom : Nat → Flags → Chars → Except Fault (Flags × Chars)
  | 0, flags, chars => .ok (flags, chars)
  | fuel + 1, flags, chars =>
    match chars with
    | 'g' :: rest =>
      if flags.all then .error (rest.length, "multiple \x60g' options to \x60s' command")
      else flagsFrom fuel { flags with all := true } rest
    | 'p' :: rest =>
      if flags.print then .error (rest.length, "multiple \x60p' options to \x60s' command")
      else flagsFrom fuel { flags with print := true } rest
    | 'i' :: rest => flagsFrom fuel { flags with ignoresCase := true } rest
    | 'I' :: rest => flagsFrom fuel { flags with ignoresCase := true } rest
    | ' ' :: rest => flagsFrom fuel flags rest
    | 'm' :: rest => flagsFrom fuel flags rest
    | 'M' :: rest => flagsFrom fuel flags rest
    | 'w' :: rest =>
      let (file, rest) := (rest.dropWhile isBlank).span (· ≠ '\n')
      if file = [] then .error (rest.length, "missing filename in r/R/w/W commands")
      else .ok ({ flags with file := some file }, rest)
    | c :: rest =>
      if c.isDigit then
        let (n, rest) := numberAt chars
        if n = 0 then
          .error (rest.length, "number option to \x60s' command may not be zero")
        else if flags.nth.isSome then
          .error (rest.length, "multiple number options to \x60s' command")
        else flagsFrom fuel { flags with nth := some n } rest
      else if ['\t', '\n', ';', '}', '#'].contains c then .ok (flags, chars)
      else .error (rest.length, "unknown option to \x60s'")
    | [] => .ok (flags, [])

/-- Reads what follows the letter of an instruction. -/
def action? (extended : Bool) (letter : Char) (rest : Chars) : Except Fault (Action × Chars) :=
  let label (make : Chars → Action) : Except Fault (Action × Chars) :=
    let (name, rest) := (rest.dropWhile isBlank).span fun c => c ≠ '\n' ∧ c ≠ ';' ∧ c ≠ '}'
    .ok (make (name.reverse.dropWhile isBlank).reverse, rest)
  let file (make : Chars → Action) : Except Fault (Action × Chars) :=
    let (name, rest) := (rest.dropWhile isBlank).span (· ≠ '\n')
    if name = [] then .error (0, "missing filename in r/R/w/W commands")
    else .ok (make name, rest)
  let status (prints : Bool) : Except Fault (Action × Chars) :=
    let (n, rest) := numberAt (rest.dropWhile isBlank)
    .ok (.quit prints n, rest)
  match letter with
  | 's' =>
    match rest with
    | [] => .error (0, "unterminated \x60s' command")
    | delimiter :: rest =>
      match delimitedRegex delimiter rest with
      | none => .error (0, "unterminated \x60s' command")
      | some (pattern, rest) =>
        match delimitedText delimiter rest with
        | none => .error (0, "unterminated \x60s' command")
        | some (text, rest) => do
          let (flags, rest) ← flagsFrom (rest.length + 1) {} rest
          let regex ← regex? extended flags.ignoresCase pattern rest.length
          let replacement := replacements text
          let most := greatestGroup replacement
          if regex.any fun regex => regex.groupCount < most then
            throw (rest.length, "invalid reference \\" ++ toString most ++
              " on \x60s' command's RHS")
          return (.substitute regex replacement (flags.nth.getD 1) flags.all flags.print
            flags.file, rest)
  | 'y' =>
    match rest with
    | [] => .error (0, "unterminated \x60y' command")
    | delimiter :: rest =>
      match delimitedText delimiter rest with
      | none => .error (0, "unterminated \x60y' command")
      | some (source, rest) =>
        match delimitedText delimiter rest with
        | none => .error (0, "unterminated \x60y' command")
        | some (target, rest) =>
          let plain (chars : Chars) : Chars := (replacements chars).filterMap fun
            | .text c => some c
            | .group _ => some '&'
            | _ => none
          if (plain source).length ≠ (plain target).length then
            .error (rest.length, "strings for \x60y' command are different lengths")
          else .ok (.translate (plain source) (plain target), rest)
  | 'p' => .ok (.print, rest)
  | 'P' => .ok (.printFirst, rest)
  | 'd' => .ok (.delete, rest)
  | 'D' => .ok (.deleteFirst, rest)
  | 'n' => .ok (.next, rest)
  | 'N' => .ok (.join, rest)
  | 'h' => .ok (.hold false, rest)
  | 'H' => .ok (.hold true, rest)
  | 'g' => .ok (.get false, rest)
  | 'G' => .ok (.get true, rest)
  | 'x' => .ok (.exchange, rest)
  | '=' => .ok (.number, rest)
  | 'q' => status true
  | 'Q' => status false
  | 'b' => label (.jump none)
  | 't' => label (.jump (some true))
  | 'T' => label (.jump (some false))
  | 'i' => (insertedText? rest).map fun (text, rest) => (.insert text, rest)
  | 'a' => (insertedText? rest).map fun (text, rest) => (.append text, rest)
  | 'c' => (insertedText? rest).map fun (text, rest) => (.change text, rest)
  | 'r' => file .read
  | 'w' => file .write
  | 'z' => .ok (.clear, rest)
  | 'l' => .ok (.list, rest)
  | 'F' => .ok (.fileName, rest)
  | 'v' => .ok (.place [], (rest.dropWhile fun c => c ≠ '\n' ∧ c ≠ ';'))
  | c => .error (rest.length, "unknown command: \x60" ++ String.singleton c ++ "'")

/-- Reads what may stand after an instruction. -/
def afterAction (action : Action) (chars : Chars) : Except Fault Chars :=
  match action with
  | .insert _ => .ok chars
  | .append _ => .ok chars
  | .change _ => .ok chars
  | _ =>
    match chars.dropWhile isBlank with
    | [] => .ok []
    | ';' :: rest => .ok rest
    | '\n' :: rest => .ok rest
    | '}' :: rest => .ok ('}' :: rest)
    | '#' :: rest => .ok ('#' :: rest)
    | _ :: rest => .error (rest.length, "extra characters after command")

/-- Closes the block that was opened last. -/
def closed (read : List Instruction) (start : Nat) : List Instruction :=
  let stop := read.length
  (read.reverse.modify start fun instruction =>
    { instruction with action := .block stop }).reverse

/-- Reads the instructions of a script. -/
def instructionsFrom (extended : Bool) : Nat → Reading → Except Fault (List Instruction)
  | 0, reading => .ok reading.read.reverse
  | fuel + 1, reading => do
    match reading.chars.dropWhile fun c => isSpace c || c = ';' with
    | [] =>
      if reading.opened.isEmpty then return reading.read.reverse
      else throw (reading.size, "unmatched \x60\x7b'")
    | '#' :: rest => instructionsFrom extended fuel { reading with chars := rest.dropWhile (· ≠ '\n') }
    | chars =>
      let (first, rest) ← address? extended chars
      let (second, rest) ← match first, rest.dropWhile isBlank with
        | some _, ',' :: rest => do
          let (second, after) ← secondAddress? extended (rest.dropWhile isBlank)
          if second.isNone then throw (after.length - 1, "unexpected \x60,'")
          pure (second, after)
        | _, rest => pure (none, rest)
      let rest := rest.dropWhile isBlank
      let isRegexSecond : Bool := match second with
        | some (.matching _) => true
        | _ => false
      let isZero : Bool := match first with
        | some (.number 0) => true
        | _ => false
      if isZero ∧ !isRegexSecond then
        throw (rest.length - 1, "invalid usage of line address 0")
      let negated := rest.head? = some '!'
      let rest := if negated then (rest.drop 1).dropWhile isBlank else rest
      if negated ∧ rest.head? = some '!' then throw (rest.length - 1, "multiple \x60!'s")
      let instruction (action : Action) : Instruction := { first, second, negated, action }
      match rest with
      | [] => throw (0, "missing command")
      | '#' :: rest => throw (rest.length, "comments don't accept any addresses")
      | '{' :: rest =>
        instructionsFrom extended fuel
          { reading with
            read := instruction (.block 0) :: reading.read
            chars := rest
            opened := reading.read.length :: reading.opened }
      | '}' :: rest =>
        if first.isSome then throw (rest.length, "\x7d doesn't want any addresses")
        match reading.opened with
        | [] => throw (rest.length, "unexpected \x60\x7d'")
        | start :: opened =>
          instructionsFrom extended fuel
            { reading with
              read := closed reading.read start, opened
              chars := ← afterAction (.block 0) rest }
      | ':' :: rest =>
        if first.isSome then throw (rest.length, ": doesn't want any addresses")
        let (name, rest) := (rest.dropWhile isBlank).span fun c => c ≠ '\n' ∧ c ≠ ';'
        if name = [] then throw (rest.length, "\":\" lacks a label")
        instructionsFrom extended fuel
          { reading with
            read := instruction (.place (name.reverse.dropWhile isBlank).reverse) :: reading.read
            chars := rest }
      | letter :: rest =>
        let (action, rest) ← action? extended letter rest
        let rest ← afterAction action rest
        instructionsFrom extended fuel
          { reading with read := instruction action :: reading.read, chars := rest }

/-- Tells at which character of which of some scripts something is wrong, from the number of
    characters up to there when a line feed follows each of them. -/
def placeIn : Nat → List Chars → Nat → String
  | n, [], place => toString n ++ ", char " ++ toString place
  | n, [_], place => toString n ++ ", char " ++ toString place
  | n, script :: scripts, place =>
    if place ≤ script.length then toString n ++ ", char " ++ toString place
    else placeIn (n + 1) scripts (place - script.length - 1)

/-- Reads scripts, or tells what is wrong with them and the status of that. -/
def instructions? (extended : Bool) (scripts : List Chars) :
    Except (String × Nat) (List Instruction) :=
  let script := ['\n'].intercalate scripts
  match instructionsFrom extended (script.length + 1) { size := script.length, chars := script } with
  | .error (left, message) =>
    let place := if left = script.length then toString scripts.length ++ ", char 0"
      else placeIn 1 scripts (script.length - left)
    .error ("-e expression #" ++ place ++ ": " ++ message, 1)
  | .ok instructions =>
    let labels := instructions.filterMap fun instruction =>
      match instruction.action with
      | .place label => some label
      | _ => none
    let missing := instructions.findSome? fun instruction =>
      match instruction.action with
      | .jump _ label => if label = [] ∨ labels.contains label then none else some label
      | _ => none
    match missing with
    | some label => .error ("can't find label for jump to \x60" ++ shown label ++ "'", 4)
    | none => .ok instructions

/-- Changes a text as the parts of a replacement before it want. -/
def cased (kind : Case) (text : Chars) : Chars :=
  match kind with
  | .same => text
  | .upper => text.map Char.toUpper
  | .lower => text.map Char.toLower

/-- What a match is replaced by. -/
def inserted (replacement : List Replacement) (line : Chars) (matched : Chars) (found : Match) :
    Chars :=
  let put (state : Chars × Case × Case) (text : Chars) : Chars × Case × Case :=
    match text with
    | [] => state
    | c :: rest =>
      let (out, all, next) := state
      let start := if next = .same then cased all [c] else cased next [c]
      (out ++ start ++ cased all rest, all, .same)
  (replacement.foldl
    (fun (state : Chars × Case × Case) part =>
      match part with
      | .text c => put state [c]
      | .group 0 => put state matched
      | .group n => put state ((found.group? line n).getD [])
      | .case kind => (state.1, kind, .same)
      | .nextCase kind => (state.1, state.2.1, kind))
    ([], .same, .same)).1

/-- A line with the matches from the `nth` on replaced, or with that one alone; nothing if there is
    none. `place` is where to go on, `count` how many matches were passed, and `done` what the line
    has become up to there, last first. A match without characters does not count directly after
    another one. -/
def substituteFrom (regex : Regex) (replacement : List Replacement) (nth : Nat) (all : Bool)
    (line : Chars) : Nat → Nat → Nat → Option Nat → Bool → Chars → Option Chars
  | 0, _, _, _, _, _ => none
  | fuel + 1, place, count, lastEnd, changed, done =>
    let finish (place : Nat) (done : Chars) (changed : Bool) : Option Chars :=
      if changed then some (done.reverse ++ line.drop place) else none
    match regex.find? line place with
    | none => finish place done changed
    | some (start, found) =>
      let stop := line.length - found.rest.length
      let passed := (line.drop place).take (start - place)
      if start = stop ∧ lastEnd = some start then
        match (line.drop start).head? with
        | none => finish place done changed
        | some c =>
          substituteFrom regex replacement nth all line fuel (start + 1) count none changed
            (c :: (passed.reverse ++ done))
      else
        let matched := (line.drop start).take (stop - start)
        let done := passed.reverse ++ done
        if count + 1 < nth then
          substituteFrom regex replacement nth all line fuel stop (count + 1) (some stop) changed
            (matched.reverse ++ done)
        else
          let done := (inserted replacement line matched found).reverse ++ done
          if all then
            substituteFrom regex replacement nth all line fuel stop (count + 1) (some stop) true
              done
          else finish stop done true

def substitute? (regex : Regex) (replacement : List Replacement) (nth : Nat) (all : Bool)
    (line : Chars) : Option Chars :=
  substituteFrom regex replacement nth all line (2 * line.length + 3) 0 0 none false []

/-- An edit under way. -/
structure Editing where
  task : Task
  quiet : Bool
  /-- The lines that are left, each with the line feed that ends it. -/
  rest : List Chars
  number : Nat := 0
  line : Chars := []
  /-- The line under way was ended by a line feed. -/
  ended : Bool := true
  held : Chars := []
  /-- What is printed after the line under way. -/
  queued : Chars := []
  substituted : Bool := false
  lastRegex : Option Regex := none
  /-- The instructions whose range is open, each with the number of the last line if it is known. -/
  ranges : List (Nat × Option Nat) := []
  /-- What was printed, last first. -/
  out : Chars := []
  /-- A line feed is missing at the end of what was printed. -/
  lacksEnd : Bool := false

namespace Editing

def put (editing : Editing) (text : Chars) : Editing :=
  if text = [] then editing
  else
    let out := if editing.lacksEnd then '\n' :: editing.out else editing.out
    { editing with out := text.reverse ++ out, lacksEnd := false }

/-- Prints a line as the one under way is ended. -/
def putLine (editing : Editing) (line : Chars) : Editing :=
  if editing.ended then editing.put (line ++ ['\n'])
  else
    let out := if editing.lacksEnd then '\n' :: editing.out else editing.out
    { editing with out := line.reverse ++ out, lacksEnd := true }

def flush (editing : Editing) : Editing := { editing.put editing.queued with queued := [] }

/-- Ends the line under way. -/
def finishLine (editing : Editing) : Editing :=
  (if editing.quiet then editing else editing.putLine editing.line).flush

/-- Takes the next line. -/
def nextLine? (editing : Editing) : Option (Chars × Editing) :=
  match editing.rest with
  | [] => none
  | piece :: rest =>
    let ended := piece.getLast? = some '\n'
    some (withoutEnd piece, { editing with rest, number := editing.number + 1, ended })

/-- Writes a line to a file. -/
def writeTo (editing : Editing) (file line : Chars) : Editing :=
  let text := line ++ if editing.ended then ['\n'] else []
  if file = "/dev/stdout".toList then editing.put text
  else
    let task := editing.task.change (editing.task.files.append (pathOf file) (bytesOf text))
      fun e => "couldn't open file " ++ shown file ++ ": " ++ reason e
    { editing with task }

/-- True of an address that the line under way has. -/
def isAt (editing : Editing) : Address → Bool × Editing
  | .number n => (editing.number = n, editing)
  | .last => (editing.rest.isEmpty, editing)
  | .matching regex =>
    match regex.or editing.lastRegex with
    | none => (false, editing)
    | some regex => (regex.isIn editing.line, { editing with lastRegex := some regex })
  | .step first step =>
    (if step = 0 then editing.number = first
      else editing.number ≥ first && (editing.number - first) % step = 0, editing)
  | .after _ => (false, editing)
  | .multiple _ => (false, editing)

/-- True of an instruction that is for the line under way. `n` is its place in the script. -/
def chooses (editing : Editing) (n : Nat) (instruction : Instruction) : Bool × Editing :=
  match instruction.first, instruction.second with
  | none, _ => (true, editing)
  | some first, none => editing.isAt first
  | some first, some second =>
    let opened := editing.ranges.lookup n
    let close (editing : Editing) : Editing :=
      { editing with ranges := editing.ranges.filter (·.1 ≠ n) }
    let start (editing : Editing) (last : Option Nat) : Editing :=
      { editing with ranges := (n, last) :: editing.ranges }
    let opens (editing : Editing) : Bool × Editing :=
      let here := editing.number
      let upTo (last : Nat) : Bool × Editing :=
        (true, if last ≤ here then editing else start editing (some last))
      match second with
      | .number last => upTo last
      | .after lines => upTo (here + lines)
      | .multiple step => upTo (if step = 0 then here else (here + step - 1) / step * step)
      | .last => (true, if editing.rest.isEmpty then editing else start editing none)
      | _ => (true, start editing none)
    let isZero : Bool := match first with
      | .number 0 => editing.number = 1
      | _ => false
    if isZero ∧ opened.isNone then
      let (found, editing) := editing.isAt second
      (true, if found then editing else start editing none)
    else match opened with
      | none =>
        let (found, editing) := editing.isAt first
        if found then opens editing else (false, editing)
      | some (some last) =>
        if editing.number ≥ last then (editing.number = last, close editing) else (true, editing)
      | some none =>
        let (found, editing) := editing.isAt second
        (true, if found then close editing else editing)

end Editing

/-- How an edit goes on after an instruction. -/
inductive Course where
  | next
  | goto (place : Nat)
  /-- The line is done, and printed unless that is not wanted. -/
  | endLine
  | dropLine
  /-- The script starts again with what is left of the line. -/
  | again
  | quit (status : Nat)

/-- A line with escapes for the characters that cannot be seen. -/
def visible (line : Chars) : Chars :=
  line.flatMap fun c =>
    match c with
    | '\\' => ['\\', '\\']
    | '\x07' => ['\\', 'a']
    | '\x08' => ['\\', 'b']
    | '\x0C' => ['\\', 'f']
    | '\n' => ['\\', 'n']
    | '\r' => ['\\', 'r']
    | '\t' => ['\\', 't']
    | '\x0B' => ['\\', 'v']
    | c =>
      if ' ' ≤ c ∧ c ≤ '~' then [c]
      else
        let digits := Nat.toDigits 8 c.toNat
        '\\' :: List.replicate (3 - digits.length) '0' ++ digits

/-- Carries out an instruction on the line under way. -/
def perform (instructions : List Instruction) (n : Nat) (instruction : Instruction)
    (editing : Editing) : Course × Editing :=
  match instruction.action with
  | .block _ => (.next, editing)
  | .place _ => (.next, editing)
  | .substitute regex replacement nth all print file =>
    match regex.or editing.lastRegex with
    | none => (.next, editing)
    | some regex =>
      let editing := { editing with lastRegex := some regex }
      match substitute? regex replacement nth all editing.line with
      | none => (.next, editing)
      | some line =>
        let editing := { editing with line, substituted := true }
        let editing := if print then editing.putLine line else editing
        (.next, match file with
          | some file => editing.writeTo file line
          | none => editing)
  | .translate source target =>
    let change (c : Char) : Char :=
      match source.idxOf? c with
      | some n => target.getD n c
      | none => c
    (.next, { editing with line := editing.line.map change })
  | .print => (.next, editing.putLine editing.line)
  | .printFirst => (.next, editing.put (editing.line.takeWhile (· ≠ '\n') ++ ['\n']))
  | .delete => (.dropLine, editing)
  | .deleteFirst =>
    match editing.line.span (· ≠ '\n') with
    | (_, []) => (.dropLine, editing)
    | (_, _ :: line) => (.again, { editing with line })
  | .next =>
    if editing.rest.isEmpty then (.quit 0, editing)
    else
      let editing := editing.finishLine
      match editing.nextLine? with
      | none => (.quit 0, editing)
      | some (line, editing) => (.next, { editing with line })
  | .join =>
    let editing := editing.flush
    match editing.nextLine? with
    | none => (.quit 0, editing)
    | some (line, editing) => (.next, { editing with line := editing.line ++ '\n' :: line })
  | .hold adds =>
    (.next, { editing with held := if adds then editing.held ++ '\n' :: editing.line
                                   else editing.line })
  | .get adds =>
    (.next, { editing with line := if adds then editing.line ++ '\n' :: editing.held
                                   else editing.held })
  | .exchange => (.next, { editing with line := editing.held, held := editing.line })
  | .insert text => (.next, editing.put text)
  | .append text => (.next, { editing with queued := editing.queued ++ text })
  | .change text =>
    let isInside := instruction.second.isSome && !instruction.negated &&
      (editing.ranges.lookup n).isSome
    (.dropLine, if isInside then editing else editing.put text)
  | .number => (.next, editing.put (toString editing.number ++ "\n").toList)
  | .clear => (.next, { editing with line := [] })
  | .list => (.next, editing.put (visible editing.line ++ ['$', '\n']))
  | .fileName => (.next, editing.put ['-', '\n'])
  | .quit prints status =>
    if prints then (.quit status, editing)
    else (.quit status, { editing with quiet := true, queued := [] })
  | .jump when label =>
    let jumps := when.isNone || when = some editing.substituted
    let editing := if when.isSome then { editing with substituted := false } else editing
    if !jumps then (.next, editing)
    else if label = [] then (.endLine, editing)
    else
      match instructions.findIdx? fun other => match other.action with
          | .place name => name = label
          | _ => false with
      | some place => (.goto place, editing)
      | none => (.endLine, editing)
  | .read file =>
    let text := ((editing.task.files.read (pathOf file)).toOption.map charsOf).getD []
    (.next, { editing with queued := editing.queued ++ text })
  | .write file => (.next, editing.writeTo file editing.line)

/-- Goes through a script from a place on, and with the next line at its end. -/
def editFrom (instructions : List Instruction) : Nat → Nat → Editing → Editing × Option Nat
  | 0, _, editing => ({ editing with task := { editing.task with stuck := true } }, none)
  | fuel + 1, place, editing =>
    let nextCycle (editing : Editing) : Editing × Option Nat :=
      match editing.nextLine? with
      | none => (editing, none)
      | some (line, editing) =>
        editFrom instructions fuel 0 { editing with line, substituted := false }
    match instructions[place]? with
    | none => nextCycle editing.finishLine
    | some instruction =>
      let (chosen, editing) := editing.chooses place instruction
      if chosen = instruction.negated then
        match instruction.action with
        | .block stop => editFrom instructions fuel stop editing
        | _ => editFrom instructions fuel (place + 1) editing
      else
        match perform instructions place instruction editing with
        | (.next, editing) => editFrom instructions fuel (place + 1) editing
        | (.goto place, editing) => editFrom instructions fuel place editing
        | (.endLine, editing) => nextCycle editing.finishLine
        | (.dropLine, editing) => nextCycle editing.flush
        | (.again, editing) => editFrom instructions fuel 0 editing.flush
        | (.quit status, editing) => (editing.finishLine, some status)

/-- How many instructions may be carried out for one text. -/
def budget : Nat := 1000000

/-- Edits a text. Tells what is left of the text if the script quits, and with which status. -/
def edit (quiet : Bool) (instructions : List Instruction) (task : Task) (text : Chars) :
    Chars × Task × Option (Nat × Chars) :=
  let start : Editing := { task, quiet, rest := linesOf text }
  match start.nextLine? with
  | none => ([], task, none)
  | some (line, editing) =>
    let (editing, status) := editFrom instructions budget 0 { editing with line }
    (editing.out.reverse, editing.task,
      status.bind fun status => some (status, editing.rest.flatten))

/-- The files that instructions write to, which are emptied first. -/
def written (instructions : List Instruction) : List Chars :=
  instructions.filterMap fun instruction =>
    match instruction.action with
    | .write file => some file
    | .substitute _ _ _ _ _ file => file
    | _ => none

def known : Options.Known :=
  { plain := "nErsuz", valued := "ef", attached := "i"
    long := [("quiet", 'n'), ("silent", 'n'), ("expression", 'e'), ("regexp-extended", 'E'),
      ("in-place", 'i'), ("separate", 's'), ("file", 'f')] }

/-- Edits a file in its place. -/
def editInPlace (quiet : Bool) (instructions : List Instruction) (ending : Chars) (task : Task)
    (word : Chars) : Task :=
  match task.files.stat (pathOf word) with
  | .error e => task.complain ("can't read " ++ shown word ++ ": " ++ reason e) 2
  | .ok (_, .file content _) =>
    let (out, task, quit) := edit quiet instructions task (charsOf content)
    let task := match quit with
      | some (status, _) => task.withStatus status
      | none => task
    let backup := if ending.contains '*' then
        ending.flatMap fun c => if c = '*' then word else [c]
      else word ++ ending
    let task := if ending = [] then task
      else task.change (task.files.write (pathOf backup) content) fun e =>
        "cannot rename " ++ shown word ++ ": " ++ reason e
    task.change (task.files.write (pathOf word) (bytesOf out)) fun e =>
      "couldn't open file " ++ shown word ++ ": " ++ reason e
  | .ok _ => task.complain ("couldn't edit " ++ shown word ++ ": not a regular file") 4

/-- The stream editor. -/
def sed (task : Task) (args : List Chars) : Task :=
  task.withOptions known 1 args fun task options =>
    let scripts := options.flags.filterMap fun (letter, value) =>
      if letter = 'e' then some value
      else if letter = 'f' then
        ((task.files.read (pathOf value)).toOption.map charsOf).map withoutEnd
      else none
    let (scripts, words) := match scripts, options.words with
      | [], script :: words => ([script], words)
      | scripts, words => (scripts, words)
    let missing := options.flags.find? fun (letter, value) =>
      letter = 'f' && (task.files.read (pathOf value)).toOption.isNone
    let quiet := options.has 'n' || (scripts.head?.map fun script =>
      script = ['#', 'n'] || ['#', 'n', '\n'].isPrefixOf script) = some true
    if let some (_, word) := missing then
      task.complain ("couldn't open file " ++ shown word ++ ": No such file or directory") 4
    else if scripts = [] then
      task.complain "no script specified" 1
    else match instructions? (options.has 'E' || options.has 'r') scripts with
      | .error (message, status) => task.complain message status
      | .ok instructions =>
        let task := (written instructions).foldl
          (fun (task : Task) file =>
            { task with files := (task.files.write (pathOf file) []).toOption.getD task.files })
          task
        match options.value? 'i' with
        | some ending => words.foldl (editInPlace quiet instructions ending) task
        | none =>
          let isOneFile := words.length ≤ 1
          let (text, task) := task.allText words fun task word e =>
            if e = .isADirectory then
              task.complain ("read error on " ++ shown word ++ ": " ++ reason e) 4
            else task.complain ("can't read " ++ shown word ++ ": " ++ reason e) 2
          let (out, task, quit) := edit quiet instructions task text
          let task := match quit with
            | some (status, rest) =>
              let task := if status = 0 then task else task.withStatus status
              if isOneFile ∧ (words = [] ∨ words = [['-']]) then
                let left (content : Content) : Content := { content with text := rest }
                { task with input := task.input.map left }
              else task
            | none => task
          (task.print out).settled

end BootChain.Shell.Sed
