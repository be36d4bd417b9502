import BootChain.Text.Escape

namespace BootChain

/-- A JSON document. The members of an object stand in the order in which they are written. -/
inductive Json where
  | null
  | bool (value : Bool)
  | int (value : Int)
  | str (text : String)
  | arr (items : List Json)
  | obj (members : List (String × Json))

namespace Json

/-- A character inside a quoted JSON text. -/
def escapeChar (c : Char) : List Char :=
  if c = '"' then ['\\', '"']
  else if c = '\\' then ['\\', '\\']
  else if c = '\x08' then ['\\', 'b']
  else if c = '\t' then ['\\', 't']
  else if c = '\n' then ['\\', 'n']
  else if c = '\x0C' then ['\\', 'f']
  else if c = '\r' then ['\\', 'r']
  else if c.toNat < 0x20 then
    ['\\', 'u', '0', '0', (c.toNat / 16).digitChar, (c.toNat % 16).digitChar]
  else [c]

/-- A text between double quotes, with quotes, backslashes and controls escaped. -/
def quoted (text : String) : List Char :=
  '"' :: (text.toList.flatMap escapeChar ++ ['"'])

/-- Pieces joined by commas. -/
def commaSeparated (pieces : List (List Char)) : List Char :=
  [','].intercalate pieces

mutual

/-- The text of a document without any blank between its tokens. -/
def compactChars : Json → List Char
  | null => ['n', 'u', 'l', 'l']
  | bool true => ['t', 'r', 'u', 'e']
  | bool false => ['f', 'a', 'l', 's', 'e']
  | int n => (toString n).toList
  | str text => quoted text
  | arr items => '[' :: (commaSeparated (compactItems items) ++ [']'])
  | obj members => '{' :: (commaSeparated (compactMembers members) ++ ['}'])

def compactItems : List Json → List (List Char)
  | [] => []
  | item :: rest => compactChars item :: compactItems rest

def compactMembers : List (String × Json) → List (List Char)
  | [] => []
  | (name, value) :: rest => (quoted name ++ ':' :: compactChars value) :: compactMembers rest

end

/-- The text of a document without any blank between its tokens. -/
def compact (document : Json) : String :=
  String.ofList (compactChars document)

/-- The order of members in canonical text: by the quoted form of their names, scalar by scalar,
    which is also the order of its octets. -/
def memberBefore (a b : String × Json) : Bool :=
  String.ofList (quoted a.1) ≤ String.ofList (quoted b.1)

mutual

/-- The document with the members of every object in canonical order. -/
def sorted : Json → Json
  | arr items => arr (sortedItems items)
  | obj members => obj ((sortedMembers members).mergeSort memberBefore)
  | null => null
  | bool value => bool value
  | int value => int value
  | str text => str text

def sortedItems : List Json → List Json
  | [] => []
  | item :: rest => sorted item :: sortedItems rest

def sortedMembers : List (String × Json) → List (String × Json)
  | [] => []
  | (name, value) :: rest => (name, sorted value) :: sortedMembers rest

end

/-- The canonical text of a document: compact, with members in canonical order. -/
def canonical (document : Json) : String :=
  compact document.sorted

/-- A whole number. -/
def nat (n : Nat) : Json := int n

/-- A value that may be absent. -/
def opt {α : Type} (encode : α → Json) : Option α → Json
  | none => null
  | some value => encode value

end Json

end BootChain
