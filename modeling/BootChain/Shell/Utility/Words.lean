import BootChain.Digest.Sha256
import BootChain.Shell.Condition
import BootChain.Shell.Print
import BootChain.Shell.Utility.Files

/-!
The utilities that make something of their arguments alone, and those that tell of their
surroundings.
-/

namespace BootChain.Shell.Utility

/-- A decimal number: a whole number of units, of which ten to a power make one. -/
structure Decimal where
  units : Int
  places : Nat

def decimal? (word : Chars) : Option Decimal :=
  let (negative, chars) := match word with
    | '-' :: rest => (true, rest)
    | '+' :: rest => (false, rest)
    | chars => (false, chars)
  let (whole, rest) := chars.span Char.isDigit
  let decimals? := match rest with
    | [] => some []
    | '.' :: decimals => if decimals.all Char.isDigit then some decimals else none
    | _ => none
  match decimals? with
  | none => none
  | some decimals =>
    if whole = [] ∧ decimals = [] then none
    else
      let n := Int.ofNat (numberAt (whole ++ decimals)).1
      some ⟨if negative then -n else n, decimals.length⟩

/-- The number of units when so many places are wanted. -/
def Decimal.at (decimal : Decimal) (places : Nat) : Int :=
  decimal.units * Int.ofNat (Nat.pow 10 (places - decimal.places))

/-- The text of a number of units. -/
def unitsText (places : Nat) (n : Int) : Chars :=
  (if n < 0 then ['-'] else []) ++ BinaryFraction.pointed n.natAbs places

def seq (task : Task) (args : List Chars) : Task :=
  let isNumber (word : Chars) : Bool := (decimal? word).isSome
  let (before, after) := args.span fun word => !isNumber word
  task.withOptions { plain := "w", valued := "sf", mixed := false } 1 before fun task options =>
    let words := options.words ++ after
    match words.find? (!isNumber ·) with
    | some word => task.misused ("invalid floating point argument: " ++ inQuotes word) 1
    | none =>
      let numbers := words.filterMap decimal?
      let places := (numbers.map Decimal.places).foldl max 0
      let unit := Int.ofNat (Nat.pow 10 places)
      let list (low step high : Int) : List Int :=
        (List.range ((high - low).fdiv step + 1).toNat).map fun (n : Nat) => low + n * step
      let give (found : List Int) : Task :=
        let texts := found.map (unitsText places)
        let width := (texts.map List.length).foldl max 0
        let texts := if options.has 'w' then
            texts.map fun text =>
              let zeros := List.replicate (width - text.length) '0'
              match text with
              | '-' :: digits => '-' :: zeros ++ digits
              | digits => zeros ++ digits
          else texts
        let between := (options.value? 's').getD ['\n']
        if texts = [] then task else task.printLine (between.intercalate texts)
      match numbers with
      | [] => task.misused "missing operand" 1
      | [high] => give (list unit unit (high.at places))
      | [low, high] => give (list (low.at places) unit (high.at places))
      | [low, step, high] =>
        if step.units = 0 then
          task.misused ("invalid Zero increment value: " ++ inQuotes (words.getD 1 [])) 1
        else give (list (low.at places) (step.at places) (high.at places))
      | _ => task.misused ("extra operand " ++ inQuotes (words.getD 3 [])) 1

def basename (task : Task) (args : List Chars) : Task :=
  task.withOptions { plain := "az", valued := "s", mixed := false } 1 args fun task options =>
    let name (word ending : Chars) : Chars :=
      let name := lastName word
      if ending ≠ [] ∧ name ≠ ending ∧ ending.isSuffixOf name then
        name.take (name.length - ending.length)
      else name
    if options.has 'a' ∨ options.has 's' then
      options.words.foldl
        (fun task word => task.printLine (name word ((options.value? 's').getD []))) task
    else match options.words with
    | [] => task.misused "missing operand" 1
    | [word] => task.printLine (name word [])
    | [word, ending] => task.printLine (name word ending)
    | _ :: _ :: extra :: _ => task.misused ("extra operand " ++ inQuotes extra) 1

/-- A path without its last name. -/
def parentOf (word : Chars) : Chars :=
  let kept := (withoutSlashes word).reverse.dropWhile (· ≠ '/')
  if kept = [] then ['.'] else withoutSlashes kept.reverse

def dirname (task : Task) (args : List Chars) : Task :=
  task.withOptions { plain := "z" } 1 args fun task options =>
    if options.words = [] then task.misused "missing operand" 1
    else options.words.foldl (fun task word => task.printLine (parentOf word)) task

def printenv (task : Task) (args : List Chars) : Task :=
  if args = [] then
    task.environment.foldl (fun task (name, value) => task.printLine (name ++ '=' :: value)) task
  else
    args.foldl
      (fun task name =>
        match task.environment.lookup name with
        | some value => task.printLine value
        | none => task.withStatus 1)
      task

def echo (task : Task) (args : List Chars) : Task := task.print (echoedPlainly args)

def printf (task : Task) (args : List Chars) : Task :=
  match args with
  | [] => task.misused "missing operand" 1
  | format :: args =>
    let (text, complaints) := formatted format args
    let task := complaints.foldl (fun task message => task.complain message 1) task
    task.print text

def test (task : Task) (args : List Chars) : Task :=
  match Condition.holds task.files args with
  | .ok holds => task.withStatus (if holds then 0 else 1)
  | .error message => task.complain message 2

def bracket (task : Task) (args : List Chars) : Task :=
  if args.getLast? = some [']'] then test task args.dropLast
  else task.complain "missing ']'" 2

def pwd (task : Task) (_ : List Chars) : Task := task.printLine (placeText task.files.workingDirectory)

def whoami (task : Task) (_ : List Chars) : Task := task.printLine "root".toList

def id (task : Task) (args : List Chars) : Task :=
  task.withOptions { plain := "ugnrG" } 1 args fun task options =>
    if options.has 'n' then task.printLine "root".toList
    else if options.has 'u' ∨ options.has 'g' ∨ options.has 'G' then task.printLine ['0']
    else task.printLine "uid=0(root) gid=0(root) groups=0(root)".toList

def uname (task : Task) (args : List Chars) : Task :=
  if args = [] ∨ args = [['-', 's']] then task.printLine "Linux".toList
  else if args = [['-', 'm']] then task.printLine "x86_64".toList
  else task

/-- Prints a line over and over. What is printed at once is as much as anyone may read. -/
def yes (task : Task) (args : List Chars) : Task :=
  let line := (if args = [] then ['y'] else [' '].intercalate args) ++ ['\n']
  { task.print (List.replicate 4096 line).flatten with stuck := true }

def sha256sum (task : Task) (args : List Chars) : Task :=
  task.withOptions { plain := "bt" } 1 args fun task options =>
    task.eachFile options.words
      (fun task word text =>
        task.printLine ((Sha256.hex (Sha256.digest (bytesOf text))).toList ++ "  ".toList ++ word))
      (Task.unread 1)

end BootChain.Shell.Utility
