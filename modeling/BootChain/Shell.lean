import BootChain.Text.Utf8

namespace BootChain.Shell

/-- A text of a script or a stream. -/
abbrev Chars := List Char

/-- The characters of octets: each has the number of its octet, so that scripts and words may hold
    any octets. -/
def charsOf (bytes : Bytes) : Chars := bytes.map fun b => Char.ofNat b.toNat

def bytesOf (chars : Chars) : Bytes := chars.map fun c => UInt8.ofNat c.toNat

/-- Blanks within a line. -/
def isBlank (c : Char) : Bool := c = ' ' || c = '\t'

/-- The absolute path of a place, by the names on the way to it. -/
def placeText (place : List Bytes) : Chars := '/' :: ['/'].intercalate (place.map charsOf)

/-- What a redirection does with a descriptor. -/
inductive Direction where
  /-- Reads from the file that the word names. -/
  | read
  /-- Writes to the file that the word names, from its start. -/
  | write
  /-- Writes to the file that the word names, from its start, even if that is guarded. -/
  | overwrite
  /-- Writes to the file that the word names, at its end. -/
  | append
  /-- Reads from the file that the word names and writes to it. -/
  | both
  /-- Stands for the descriptor that the word names. -/
  | duplicate
  /-- Reads the word itself. -/
  | here
  deriving DecidableEq, Repr

/-- Which end of a value a pattern takes a part off from, and whether the longest such part. -/
structure Cut where
  fromEnd : Bool
  longest : Bool
  deriving DecidableEq, Repr

/-- What comes in the place of a parameter that is not set. -/
inductive Fallback where
  /-- The value of a word. -/
  | value
  /-- The value of a word, which the parameter has from then on. -/
  | assigned
  /-- Nothing: the script ends with a word as its complaint. -/
  | refused
  /-- Nothing, but the value of a word comes in the place of one that is set. -/
  | reversed
  deriving DecidableEq, Repr

mutual

/-- A part of a word. What comes of a quoted part is never split into words. -/
inductive Piece where
  | text (quoted : Bool) (chars : Chars)
  | parameter (quoted : Bool) (name : Chars) (use : Use)
  /-- The value of an arithmetic expression. -/
  | arithmetic (quoted : Bool) (expression : List Piece)
  /-- What a script prints, without the line feeds at its end. -/
  | output (quoted : Bool) (script : Script)

/-- What is made of a parameter. -/
inductive Use where
  | plain
  | size
  /-- An empty value counts as none if `alsoEmpty`. -/
  | fallback (kind : Fallback) (alsoEmpty : Bool) (word : List Piece)
  /-- The value without what a pattern matches. -/
  | cut (cut : Cut) (pattern : List Piece)
  /-- Something that makes no sense. -/
  | senseless

/-- A redirection of a descriptor. -/
inductive Redirection where
  | mk (descriptor : Nat) (direction : Direction) (word : List Piece)

/-- A script of the command language. Commands that may be complained of know their line. -/
inductive Script where
  | nothing
  | simple (line : Nat) (assignments : List (Chars × List Piece)) (words : List (List Piece))
      (redirections : List Redirection)
  | sequence (first second : Script)
  | andThen (first second : Script)
  | orElse (first second : Script)
  | negated (script : Script)
  | pipe (scripts : List Script)
  | background (script : Script)
  | branch (condition yes no : Script)
  /-- Runs the body as long as the condition succeeds, or fails. -/
  | loop (succeeds : Bool) (condition body : Script)
  | each (line : Nat) (name : Chars) (words : List (List Piece)) (body : Script)
  /-- Runs the first script one of whose patterns matches a word. -/
  | select (line : Nat) (word : List Piece) (cases : List (List (List Piece) × Script))
  | redirected (line : Nat) (script : Script) (redirections : List Redirection)
  /-- Runs a script without an effect on variables and the working directory. -/
  | isolated (line : Nat) (script : Script)
  | function (name : Chars) (body : Script)

end

/-- Why a text is no script. -/
structure SyntaxError where
  line : Nat
  message : String
  deriving DecidableEq, Repr

/-- A text as far as it is a script: its commands, each a line or more of them, and the error that
    comes after them. -/
structure Program where
  commands : List Script := []
  error : Option SyntaxError := none

end BootChain.Shell
