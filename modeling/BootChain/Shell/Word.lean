import BootChain.FileSystem
import BootChain.Shell.Pattern

/-!
Words: how what comes of a word of a script is split into words, and how patterns among these give
way to the names of files.
-/

namespace BootChain.Shell

/-- A word whose characters say whether they are quoted. -/
abbrev Field := List (Char × Bool)

/-- What a word of a script expands to, before it is split. -/
inductive Atom where
  /-- A character. If it splits and is a separator, it stands between two words. -/
  | char (c : Char) (quoted splits : Bool)
  /-- There is a word here, even if it is empty. -/
  | mark
  /-- One word ends here. -/
  | cut
  /-- There is no word here after all, if it is empty. -/
  | void
  deriving DecidableEq, Repr

namespace Atom

def ofText (quoted : Bool) (chars : Chars) : List Atom :=
  (if quoted then [mark] else []) ++ chars.map fun c => char c quoted false

/-- The atoms of a value, which splits unless it is quoted. -/
def ofValue (quoted : Bool) (chars : Chars) : List Atom :=
  chars.map fun c => char c quoted (!quoted)

/-- The atoms of some values, each a word of its own. -/
def ofValues (quoted : Bool) (values : List Chars) : List Atom :=
  if values = [] then if quoted then [void] else []
  else
    [cut].intercalate (values.map fun value =>
      if quoted then mark :: ofValue true value else ofValue false value)

/-- The atoms as they are in the place of a value, where plain characters split as well. -/
def splitting (atoms : List Atom) : List Atom :=
  atoms.map fun
    | char c false _ => char c false true
    | atom => atom

/-- The atoms as one text, with a separator where a word ends. -/
def join (separator : Chars) (atoms : List Atom) : Chars :=
  atoms.flatMap fun
    | char c _ _ => [c]
    | cut => separator
    | _ => []

/-- The atoms as a pattern. -/
def pattern (atoms : List Atom) : Field :=
  atoms.filterMap fun
    | char c quoted _ => some (c, quoted)
    | _ => none

/-- Words on the way: those that are complete, last first, and the one under way, last character
    first. -/
structure Split where
  done : List Field := []
  word : Option Field := none
  void : Bool := false
  /-- A blank has just ended a word, and a separator that follows is of the same end. -/
  ended : Bool := false

namespace Split

def flush (split : Split) : Split :=
  match split.word with
  | none => { done := split.done }
  | some [] => { done := if split.void then split.done else [] :: split.done }
  | some word => { done := word.reverse :: split.done }

def add (separators : Chars) (split : Split) : Atom → Split
  | .char c quoted splits =>
    if splits ∧ separators.contains c then
      if c = ' ' ∨ c = '\t' ∨ c = '\n' then
        { split.flush with ended := split.word.isSome || split.ended }
      else if split.word.isNone ∧ !split.ended then { done := [] :: split.done }
      else split.flush
    else { split with word := some ((c, quoted) :: split.word.getD []), ended := false }
  | .mark => { split with word := some (split.word.getD []), ended := false }
  | .cut => split.flush
  | .void => { split with void := true }

end Split

/-- The words that atoms are split into at separators. -/
def split (separators : Chars) (atoms : List Atom) : List Field :=
  (atoms.foldl (Split.add separators) {}).flush.done.reverse

end Atom

/-- The characters of a word without a note of what was quoted. -/
def Field.text (field : Field) : Chars := field.map Prod.fst

/-- The parts of a word between slashes. -/
def Field.components : Field → List Field
  | [] => [[]]
  | (c, quoted) :: rest =>
    if c = '/' then [] :: components rest
    else
      match components rest with
      | [] => [[(c, quoted)]]
      | first :: others => ((c, quoted) :: first) :: others

/-- The names in a directory that a pattern matches. A name that starts with a dot needs one in
    the pattern. -/
def namesMatching (files : FileSystem) (directory : Chars) (pattern : Field) : List Chars :=
  let path : Path := ⟨bytesOf (if directory = [] then ['.'] else directory)⟩
  match files.list path with
  | .error _ => []
  | .ok (_, names) =>
    let dotted := (pattern.head?.map Prod.fst) = some '.'
    let names := names.map charsOf ++ if dotted then [['.'], ['.', '.']] else []
    let pattern := Wildcard.read pattern
    names.filter fun name =>
      (dotted || name.head? ≠ some '.') && Wildcard.matchesText pattern name

/-- True of a path with something at its end, be it a broken link. -/
def isThere (files : FileSystem) (word : Chars) : Bool :=
  match files.resolve false ⟨bytesOf word⟩ with
  | .ok (.found _ node asDirectory) => node = .dir || !asDirectory
  | _ => false

/-- The paths that start with a text and go on with names that patterns match. -/
def pathsMatching (files : FileSystem) : Chars → List Field → List Chars
  | _, [] => []
  | start, [last] =>
    if isGlob last then (namesMatching files start last).map (start ++ ·)
    else if isThere files (start ++ last.text) then [start ++ last.text] else []
  | start, component :: rest =>
    let names :=
      if isGlob component then
        (namesMatching files start component).filter fun name =>
          files.isDirectory ⟨bytesOf (start ++ name)⟩
      else [component.text]
    names.flatMap fun name => pathsMatching files (start ++ name ++ ['/']) rest

/-- True of texts that are in the order of their octets. -/
def inOrder (a b : Chars) : Bool := !(decide (b < a))

/-- What comes of a word: the paths that it matches, or the word itself if there are none. -/
def globbed (files : FileSystem) (field : Field) : List Chars :=
  if isGlob field then
    match (pathsMatching files [] field.components).mergeSort inOrder with
    | [] => [field.text]
    | paths => paths
  else [field.text]

end BootChain.Shell
