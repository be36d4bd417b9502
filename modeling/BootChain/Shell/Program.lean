import BootChain.Installation
import BootChain.Shell

/-!
Programs: what runs when a file is executed, and where files are looked for.
-/

namespace BootChain.Shell

/-- An installed program as it is to be run, with the name that it is called by. -/
structure Image where
  program : String
  called : Chars
  args : List Chars

/-- An error without its number. -/
def reason (e : IoError) : String := (e.message.splitOn " (os error").headD ""

def pathOf (word : Chars) : Path := ⟨bytesOf word⟩

/-- The interpreter that the first line of a file names, with its argument if there is one. -/
def interpreter? (content : Chars) : Option (Chars × Option Chars) :=
  match content with
  | '#' :: '!' :: rest =>
    let line := (rest.takeWhile (· ≠ '\n')).dropWhile isBlank
    let (name, rest) := line.span fun c => !isBlank c
    let argument := ((rest.dropWhile isBlank).reverse.dropWhile isBlank).reverse
    if name = [] then none else some (name, if argument = [] then none else some argument)
  | _ => none

/-- Finds what runs when a file is executed: an installed program, or the interpreter of a script,
    which itself may be a script, through at most `depth` of them. -/
def imageWithin (files : FileSystem) : Nat → Chars → Chars → List Chars → Except IoError Image
  | 0, _, _, _ => .error .tooManyLinks
  | depth + 1, word, called, args => do
    match ← files.stat (pathOf word) with
    | (_, .file content mode) =>
      if mode &&& 0o111 = 0 then throw .permissionDenied
      else
        match Installation.program? content with
        | some program => return ⟨program, called, args⟩
        | none =>
          match interpreter? (charsOf content) with
          | none => throw .badFormat
          | some (name, argument) =>
            imageWithin files depth name name (argument.toList ++ word :: args)
    | _ => throw .permissionDenied

/-- How many scripts may stand in for an interpreter. -/
def imageDepth : Nat := 5

/-- Finds what runs when the file at a path is executed. -/
def image (files : FileSystem) (word called : Chars) (args : List Chars) : Except IoError Image :=
  imageWithin files imageDepth word called args

/-- The path of a name in a directory. A directory without a name is the working directory. -/
def inDirectory (directory name : Chars) : Chars :=
  if directory = [] then name
  else if directory.getLast? = some '/' then directory ++ name
  else directory ++ '/' :: name

/-- Tries the places where a program may be. One that may not be executed is passed over, but the
    others may turn out to have none either. -/
def imageAmong (files : FileSystem) (called : Chars) (args : List Chars) :
    IoError → List Chars → Except IoError Image
  | last, [] => .error last
  | last, word :: words =>
    match image files word called args with
    | .ok image => .ok image
    | .error .permissionDenied => imageAmong files called args .permissionDenied words
    | .error .notFound => imageAmong files called args last words
    | .error .notADirectory => imageAmong files called args last words
    | .error e => .error e

/-- Finds what runs when a program is called by its path, or by its name in some directories. -/
def imageOf (files : FileSystem) (directories : List Chars) (word : Chars) (args : List Chars) :
    Except IoError Image :=
  if word.contains '/' then image files word word args
  else if word = [] then .error .notFound
  else imageAmong files word args .notFound (directories.map (inDirectory · word))

/-- The directories that a list of them names. -/
def directoriesIn (list : Chars) : List Chars := list.splitOn ':'

/-- The list of the directories where programs are looked for unless a script says otherwise. -/
def standardPath : Chars :=
  [':'].intercalate (Installation.searchPath.map fun path => charsOf path.bytes)

/-- The path of the first file of a name in some directories. -/
def fileIn? (files : FileSystem) (directories : List Chars) (name : Chars) : Option Chars :=
  (directories.map (inDirectory · name)).find? fun word => files.isFile (pathOf word)

end BootChain.Shell
