import BootChain.Toml.Lexeme

namespace BootChain.Toml

/-- How many parts a key may have. -/
def keyLimit : Nat := 80

/-- Reads a key of at most so many parts, which are joined by dots, after those that were read,
    last first. -/
def keyFrom : Nat → List String → List Char → Option (List String × List Char)
  | 0, _, _ => none
  | fuel + 1, read, chars =>
    match keyPart? (skipBlanks chars) with
    | none => none
    | some (part, rest) =>
      match skipBlanks rest with
      | '.' :: rest => keyFrom fuel (part :: read) rest
      | rest => some ((part :: read).reverse, rest)

def key? (chars : List Char) : Option (List String × List Char) := keyFrom keyLimit [] chars

/-- Reads a key and the equals sign after it on one line. -/
def assigned? (chars : List Char) : Option (List String × List Char) :=
  match key? chars with
  | some (key, '=' :: rest) => some (key, skipBlanks rest)
  | _ => none

/-- Reads a key and the equals sign after it between braces, where line ends and comments may
    stand around the sign. -/
def assignedOverLines? (chars : List Char) : Option (List String × List Char) := do
  let (key, rest) ← key? chars
  let '=' :: rest ← skipGaps false rest | none
  return (key, ← skipGaps false rest)

/-- How deep values may be nested. -/
def nestingLimit : Nat := 80

mutual

/-- Reads a value that is nested at most `depth` deep. -/
def valueFrom : Nat → Nat → List Char → Option (Value × List Char)
  | 0, _, _ => none
  | fuel + 1, depth, chars =>
    match chars with
    | '[' :: rest => if depth = 0 then none else itemsFrom fuel (depth - 1) [] rest
    | '{' :: rest => if depth = 0 then none else membersFrom fuel (depth - 1) [] rest
    | _ =>
      match wordFrom chars with
      | ([], _) => (text? chars).map fun (content, rest) => (.text content, rest)
      | (word, rest) => (word? word).map fun value => (value, rest)

/-- Reads the items of a list after those that were read, last first, up to the closing bracket.
    A comma may follow the last one. -/
def itemsFrom : Nat → Nat → List Value → List Char → Option (Value × List Char)
  | 0, _, _, _ => none
  | fuel + 1, depth, read, chars =>
    match skipGaps false chars with
    | none => none
    | some (']' :: rest) => some (.list false read.reverse, rest)
    | some chars =>
      match valueFrom fuel depth chars with
      | none => none
      | some (item, rest) =>
        match skipGaps false rest with
        | some (',' :: rest) => itemsFrom fuel depth (item :: read) rest
        | some (']' :: rest) => some (.list false (item :: read).reverse, rest)
        | _ => none

/-- Reads the members of a table between braces after those that were read, up to the closing
    brace. A comma may follow the last one. -/
def membersFrom : Nat → Nat → Members → List Char → Option (Value × List Char)
  | 0, _, _, _ => none
  | fuel + 1, depth, members, chars =>
    match skipGaps false chars with
    | none => none
    | some ('}' :: rest) => some (.table .closed members, rest)
    | some chars =>
      match assignedOverLines? chars with
      | none => none
      | some (key, rest) =>
        match valueFrom fuel depth rest with
        | none => none
        | some (value, rest) =>
          match members.assign .closed key value with
          | none => none
          | some members =>
            match skipGaps false rest with
            | some (',' :: rest) => membersFrom fuel depth members rest
            | some ('}' :: rest) => some (.table .closed members, rest)
            | _ => none

end

/-- Reads a value. Each of its characters takes at most two steps. -/
def value? (chars : List Char) : Option (Value × List Char) :=
  valueFrom (2 * chars.length + 2) nestingLimit chars

/-- A statement of a document. -/
inductive Statement where
  | table (header : List String)
  | item (header : List String)
  | assign (key : List String) (value : Value)

/-- Reads a statement up to its last character. -/
def statement? : List Char → Option (Statement × List Char)
  | '[' :: '[' :: rest =>
    match key? rest with
    | some (header, ']' :: ']' :: rest) => some (.item header, rest)
    | _ => none
  | '[' :: rest =>
    match key? rest with
    | some (header, ']' :: rest) => some (.table header, rest)
    | _ => none
  | chars =>
    match assigned? chars with
    | none => none
    | some (key, rest) => (value? rest).map fun (value, rest) => (.assign key value, rest)

/-- Reads the statements of a document after those that were read, last first. -/
def statementsFrom : Nat → List Statement → List Char → Option (List Statement)
  | 0, _, _ => none
  | fuel + 1, read, chars =>
    match skipGaps false chars with
    | none => none
    | some [] => some read.reverse
    | some chars =>
      match statement? chars with
      | none => none
      | some (statement, rest) =>
        match endStatement? rest with
        | none => none
        | some rest => statementsFrom fuel (statement :: read) rest

/-- Reads the statements of a document. There are no more of them than characters. -/
def statements? (chars : List Char) : Option (List Statement) :=
  statementsFrom (chars.length + 1) [] chars

/-- The tables of a document so far, and the header that the next assignments belong to. -/
structure Draft where
  header : List String := []
  members : Members := []

/-- Carries out a statement. -/
def Draft.apply (draft : Draft) : Statement → Option Draft
  | .table header => (draft.members.openTable header).map (⟨header, ·⟩)
  | .item header => (draft.members.openItem header).map (⟨header, ·⟩)
  | .assign key value =>
    (Members.alter false (fun origin inner => Members.assign inner origin key value)
      draft.header .headed draft.members).map (⟨draft.header, ·⟩)

/-- Reads a document; a byte order mark may stand before it. -/
def read? (document : String) : Option Members := do
  let chars := match document.toList with
    | '\uFEFF' :: rest => rest
    | chars => chars
  let draft ← (← statements? chars).foldlM Draft.apply {}
  return draft.members

end BootChain.Toml
