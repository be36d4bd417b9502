import BootChain.FileSystem
import BootChain.Shell.Program
import BootChain.Text.Lines

/-!
Utilities: programs that do one thing with their arguments, their input and the files, and print
what comes of it.
-/

namespace BootChain.Shell

def shown (word : Chars) : String := String.ofList word

def inQuotes (word : Chars) : String := "'" ++ shown word ++ "'"

/-- A word as it is named in a complaint: in quotes only if it has characters that mean something
    to a shell, or a colon. -/
def named (word : Chars) : String :=
  let isPlain (c : Char) : Bool :=
    c.isAlphanum || ['/', '.', '_', '-', ',', '+', '@', '%', '^', ']', '{', '}'].contains c ||
      c.toNat ≥ 128
  if word ≠ [] ∧ word.all isPlain then shown word else inQuotes word

/-- What is read from a file or a stream. -/
structure Content where
  text : Chars
  /-- There is no end of it. -/
  endless : Bool := false
  /-- It comes from a regular file, so that its size is known beforehand. -/
  regular : Bool := false

/-- A utility at work. -/
structure Task where
  /-- The name that complaints start with. -/
  called : Chars
  files : FileSystem
  /-- What the input still has to give, or why it gives nothing. -/
  input : Except IoError Content
  environment : List (Chars × Chars) := []
  /-- What was printed to which descriptor, last first. -/
  printed : List (Nat × Chars) := []
  status : Nat := 0
  /-- The work never ends. -/
  stuck : Bool := false

namespace Task

def print (task : Task) (text : Chars) : Task :=
  if text = [] then task else { task with printed := (1, text) :: task.printed }

def printLine (task : Task) (text : Chars) : Task := task.print (text ++ ['\n'])

/-- Complains and goes on. -/
def complain (task : Task) (message : String) (status : Nat) : Task :=
  { task with
    printed := (2, task.called ++ (": " ++ message ++ "\n").toList) :: task.printed
    status := max status task.status }

def withStatus (task : Task) (status : Nat) : Task := { task with status }

/-- Complains of arguments. -/
def misused (task : Task) (message : String) (status : Nat) : Task :=
  task.complain (message ++ "\nTry '" ++ shown task.called ++ " --help' for more information.")
    status

/-- The task with everything printed to the descriptor of complaints before all else, as it is
    when only these are printed at once. -/
def settled (task : Task) : Task :=
  { task with printed := task.printed.filter (·.1 = 1) ++ task.printed.filter (·.1 ≠ 1) }

/-- What a file holds, or the input if its name is a dash. -/
def contentOf (task : Task) (word : Chars) : Except IoError Content × Task :=
  if word = ['-'] then
    match task.input with
    | .error e => (.error e, task)
    | .ok content => (.ok content, { task with input := .ok { content with text := [] } })
  else
    match task.files.stat (pathOf word) with
    | .ok (_, .file content _) => (.ok ⟨charsOf content, false, true⟩, task)
    | .ok (_, .device .null) => (.ok ⟨[], false, false⟩, task)
    | .ok (_, .device _) => (.ok ⟨List.replicate 0x10000 (Char.ofNat 0), true, false⟩, task)
    | .ok _ => (.error .isADirectory, task)
    | .error e => (.error e, task)

/-- What a file holds, up to its end. -/
def wholeOf (task : Task) (word : Chars) : Except IoError Chars × Task :=
  match task.contentOf word with
  | (.ok content, task) => (.ok content.text, { task with stuck := task.stuck || content.endless })
  | (.error e, task) => (.error e, task)

/-- Goes through some files, or the input if there are none. -/
def eachFile (task : Task) (words : List Chars) (f : Task → Chars → Chars → Task)
    (failed : Task → Chars → IoError → Task) : Task :=
  (if words = [] then [['-']] else words).foldl
    (fun task word =>
      match task.wholeOf word with
      | (.ok text, task) => f task word text
      | (.error e, task) => failed task word e)
    task

/-- The lines of some files, or of the input if there are none, as one text. A last line that has
    no end gets one if another file follows. -/
def allText (task : Task) (words : List Chars) (failed : Task → Chars → IoError → Task) :
    Chars × Task :=
  let (task, text) := (if words = [] then [['-']] else words).foldl
    (fun (task, read) word =>
      match task.wholeOf word with
      | (.ok text, task) =>
        let isOpen := read ≠ [] ∧ text ≠ [] ∧ read.getLast? ≠ some '\n'
        (task, read ++ (if isOpen then ['\n'] else []) ++ text)
      | (.error e, task) => (failed task word e, read))
    (task, [])
  (text, task)

/-- Complains of a file that cannot be read. -/
def unread (status : Nat) (task : Task) (word : Chars) (e : IoError) : Task :=
  task.complain (named word ++ ": " ++ reason e) status

/-- Changes files, or complains. -/
def change (task : Task) (result : Except IoError FileSystem) (message : IoError → String) :
    Task :=
  match result with
  | .ok files => { task with files }
  | .error e => task.complain (message e) 1

end Task

/-- What is taken from the words after the name of a utility: the letters of its options, each
    with its value, and the other words. -/
structure Options where
  flags : List (Char × Chars) := []
  words : List Chars := []

namespace Options

def has (options : Options) (letter : Char) : Bool := options.flags.any fun flag => flag.1 = letter

/-- The last value that an option is given. -/
def value? (options : Options) (letter : Char) : Option Chars :=
  ((options.flags.filter fun flag => flag.1 = letter).getLast?).map Prod.snd

/-- The letters of options that exclude each other, of which the last counts. -/
def last? (options : Options) (letters : Chars) : Option Char :=
  ((options.flags.filter fun flag => letters.contains flag.1).getLast?).map Prod.fst

/-- The options that a utility knows. -/
structure Known where
  plain : String
  valued : String := ""
  /-- Options whose value, if they have one, follows at once. -/
  attached : String := ""
  long : List (String × Char) := []
  /-- Options may follow other words. -/
  mixed : Bool := true

/-- Takes the letters of one word, and says whether the last of them has its value in the next
    word. -/
def lettersFrom (known : Known) : List (Char × Chars) → Chars →
    Except String (List (Char × Chars) × Option Char)
  | flags, [] => .ok (flags, none)
  | flags, c :: rest =>
    if known.valued.toList.contains c then
      if rest = [] then .ok (flags, some c) else .ok ((c, rest) :: flags, none)
    else if known.attached.toList.contains c then .ok ((c, rest) :: flags, none)
    else if known.plain.toList.contains c then lettersFrom known ((c, []) :: flags) rest
    else .error ("invalid option -- '" ++ String.singleton c ++ "'")

/-- Takes an option that is called by a name, after which its value may stand. -/
def named (known : Known) (options : Options) (word : Chars) : Except String Options :=
  let (name, value) := word.span (· ≠ '=')
  match known.long.find? fun entry => entry.1.toList = name with
  | some (_, letter) => .ok { options with flags := (letter, value.drop 1) :: options.flags }
  | none => .error ("unrecognized option '--" ++ String.ofList word ++ "'")

/-- Takes options off words. -/
def readFrom (known : Known) : Options → List Chars → Except String Options
  | options, [] => .ok options
  | options, [word] =>
    match word with
    | ['-', '-'] => .ok options
    | '-' :: '-' :: name => named known options name
    | '-' :: c :: rest => do
      match ← lettersFrom known options.flags (c :: rest) with
      | (flags, none) => return { options with flags }
      | (_, some c) => throw ("option requires an argument -- '" ++ String.singleton c ++ "'")
    | _ => .ok { options with words := options.words ++ [word] }
  | options, word :: next :: rest =>
    match word with
    | ['-', '-'] => .ok { options with words := options.words ++ next :: rest }
    | '-' :: '-' :: name => do
      let options ← named known options name
      readFrom known options (next :: rest)
    | '-' :: c :: letters => do
      match ← lettersFrom known options.flags (c :: letters) with
      | (flags, none) => readFrom known { options with flags } (next :: rest)
      | (flags, some c) => readFrom known { options with flags := (c, next) :: flags } rest
    | _ =>
      let options := { options with words := options.words ++ [word] }
      if known.mixed then readFrom known options (next :: rest)
      else .ok { options with words := options.words ++ next :: rest }

/-- Takes options off words. -/
def read (known : Known) (words : List Chars) : Except String Options :=
  (readFrom known {} words).map fun options => { options with flags := options.flags.reverse }

end Options

/-- Does a task with the options that it is called with, or complains of them. -/
def Task.withOptions (task : Task) (known : Options.Known) (status : Nat) (args : List Chars)
    (f : Task → Options → Task) : Task :=
  match Options.read known args with
  | .ok options => f task options
  | .error message => task.misused message status

/-- The lines of a text, each with the line feed that ends it. -/
def linesOf (text : Chars) : List Chars := Text.pieces text

/-- A line without the line feed that ends it. -/
def withoutEnd (line : Chars) : Chars :=
  if line.getLast? = some '\n' then line.dropLast else line

end BootChain.Shell
