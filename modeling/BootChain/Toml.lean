namespace BootChain.Toml

/-- How a table came about, which settles what may still be put into it. -/
inductive Origin where
  /-- Written between braces; nothing more may be put into it. -/
  | closed
  /-- Opened by a header of its own. -/
  | headed
  /-- Implied by the header of a table inside it. -/
  | implied
  /-- Implied by the dots of a key. -/
  | dotted
  deriving DecidableEq, Repr

/-- A value of a TOML document. A list grows if it is made of headers in double brackets. -/
inductive Value where
  | text (content : String)
  | integer (number : Int)
  /-- A number with a fraction or an exponent, an infinite one, or none at all. No setting is such
      a number, so it is kept as it is written. -/
  | fraction (written : String)
  /-- A date, a time or both, as it is written. No setting is one. -/
  | moment (written : String)
  | flag (value : Bool)
  | list (grows : Bool) (items : List Value)
  | table (origin : Origin) (members : List (String × Value))

/-- The members of a table, each with its key. -/
abbrev Members := List (String × Value)

namespace Members

/-- Gives a key a value in the place of the one it has, or else at the end. -/
def put (members : Members) (key : String) (value : Value) : Members :=
  if (members.lookup key).isSome then
    members.map fun member => if member.1 = key then (key, value) else member
  else members ++ [(key, value)]

/-- Changes the table that a path of keys leads to from another one, and makes the tables that are
    not there. A path of keys written with dots leads only through tables that such keys made; a
    path in a header leads through any table that is not closed, and into the last item of a list
    of headed tables. -/
def alter (dots : Bool) (change : Origin → Members → Option Members) :
    List String → Origin → Members → Option Members
  | [], origin, members => change origin members
  | key :: path, _, members =>
    match members.lookup key with
    | none => do
      let origin := if dots then Origin.dotted else .implied
      return members.put key (.table origin (← alter dots change path origin []))
    | some (.table origin inner) =>
      if origin = .closed ∨ (dots ∧ origin = .headed) then none
      else do
        return members.put key (.table origin (← alter dots change path origin inner))
    | some (.list true items) =>
      match items.getLast? with
      | some (.table origin inner) => do
        let last := Value.table origin (← alter dots change path origin inner)
        return members.put key (.list true (items.dropLast ++ [last]))
      | _ => none
    | some _ => none

/-- Adds a member under a key that may have dots. Its table must have come about by just such
    dots, or be the one that the key starts from. -/
def assign (members : Members) (origin : Origin) (key : List String) (value : Value) :
    Option Members :=
  match key.getLast? with
  | none => none
  | some name =>
    let way := key.dropLast
    alter true
      (fun found inner =>
        if (found = .dotted) = (way = []) then none
        else if (inner.lookup name).isSome then none
        else some (inner ++ [(name, value)]))
      way origin members

/-- Opens a table by its header. It must be new, or only implied so far. -/
def openTable (members : Members) (header : List String) : Option Members :=
  match header.getLast? with
  | none => none
  | some name =>
    alter false
      (fun _ inner =>
        match inner.lookup name with
        | none => some (inner.put name (.table .headed []))
        | some (.table .implied old) => some (inner.put name (.table .headed old))
        | some _ => none)
      header.dropLast .headed members

/-- Opens a further item of a list of tables by its header. -/
def openItem (members : Members) (header : List String) : Option Members :=
  match header.getLast? with
  | none => none
  | some name =>
    alter false
      (fun _ inner =>
        match inner.lookup name with
        | none => some (inner.put name (.list true [.table .headed []]))
        | some (.list true items) =>
          some (inner.put name (.list true (items ++ [.table .headed []])))
        | some _ => none)
      header.dropLast .headed members

end Members

end BootChain.Toml
