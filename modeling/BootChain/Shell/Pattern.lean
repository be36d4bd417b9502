import BootChain.Shell

namespace BootChain.Shell

/-- Some characters: those in ranges, or all others. -/
structure CharSet where
  negated : Bool := false
  ranges : List (Char × Char) := []
  deriving DecidableEq, Repr

namespace CharSet

def any : CharSet := { negated := true }

def single (c : Char) : CharSet := { ranges := [(c, c)] }

def contains (set : CharSet) (c : Char) : Bool :=
  (set.ranges.any fun (low, high) => low ≤ c && c ≤ high) != set.negated

/-- The characters of a named class. -/
def named? : String → Option (List (Char × Char))
  | "alpha" => some [('a', 'z'), ('A', 'Z')]
  | "digit" => some [('0', '9')]
  | "alnum" => some [('a', 'z'), ('A', 'Z'), ('0', '9')]
  | "upper" => some [('A', 'Z')]
  | "lower" => some [('a', 'z')]
  | "space" => some [('\t', '\r'), (' ', ' ')]
  | "blank" => some [('\t', '\t'), (' ', ' ')]
  | "punct" => some [('!', '/'), (':', '@'), ('[', '\x60'), ('{', '~')]
  | "print" => some [(' ', '~')]
  | "graph" => some [('!', '~')]
  | "cntrl" => some [('\x00', '\x1F'), ('\x7F', '\x7F')]
  | "xdigit" => some [('0', '9'), ('a', 'f'), ('A', 'F')]
  | _ => none

/-- Takes off the name of a class and its closing marks. -/
def className? (chars : List (Char × Bool)) : Option (List (Char × Char) × List (Char × Bool)) :=
  match chars.span fun c => c.1.isAlpha with
  | (name, (':', false) :: (']', false) :: rest) =>
    (named? (String.ofList (name.map Prod.fst))).map fun ranges => (ranges, rest)
  | _ => none

/-- Reads the inside of brackets after the ranges that were read, up to the closing one. Each
    character says whether it is quoted, and one that is stands for nothing but itself. -/
def bracketFrom : Nat → Bool → List (Char × Char) → List (Char × Bool) →
    Option (List (Char × Char) × List (Char × Bool))
  | 0, _, _, _ => none
  | _ + 1, _, _, [] => none
  | fuel + 1, first, read, (c, quoted) :: rest =>
    if c = ']' ∧ !quoted ∧ !first then some (read, rest)
    else
      let named := match c, quoted, rest with
        | '[', false, (':', false) :: rest => className? rest
        | _, _, _ => none
      match named with
      | some (ranges, rest) => bracketFrom fuel false (ranges ++ read) rest
      | none =>
        match rest with
        | ('-', false) :: (d, high) :: after =>
          if d = ']' ∧ !high then bracketFrom fuel false ((c, c) :: read) rest
          else bracketFrom fuel false ((c, d) :: read) after
        | _ => bracketFrom fuel false ((c, c) :: read) rest

/-- Reads a set after its opening bracket. The set is negated by one of some marks. -/
def bracket? (marks : List Char) (chars : List (Char × Bool)) :
    Option (CharSet × List (Char × Bool)) :=
  let (negated, chars) := match chars with
    | (c, false) :: rest => if marks.contains c then (true, rest) else (false, chars)
    | _ => (false, chars)
  (bracketFrom (chars.length + 1) true [] chars).map fun (ranges, rest) => (⟨negated, ranges⟩, rest)

end CharSet

/-- A part of a pattern: any text, or one character of a set. -/
inductive Wildcard where
  | star
  | one (set : CharSet)
  deriving DecidableEq, Repr

namespace Wildcard

/-- Reads a pattern, each character of which says whether it is quoted. -/
def readFrom : Nat → List (Char × Bool) → List Wildcard
  | 0, _ => []
  | _ + 1, [] => []
  | fuel + 1, (c, quoted) :: rest =>
    if quoted then one (.single c) :: readFrom fuel rest
    else if c = '*' then star :: readFrom fuel rest
    else if c = '?' then one .any :: readFrom fuel rest
    else if c = '[' then
      match CharSet.bracket? ['!', '^'] rest with
      | some (set, rest) => one set :: readFrom fuel rest
      | none => one (.single c) :: readFrom fuel rest
    else one (.single c) :: readFrom fuel rest

def read (pattern : List (Char × Bool)) : List Wildcard := readFrom (pattern.length + 1) pattern

/-- True of a text that a pattern matches as a whole. -/
def matchesText : List Wildcard → Chars → Bool
  | [], text => text.isEmpty
  | star :: pattern, text =>
    (List.range (text.length + 1)).any fun n => matchesText pattern (text.drop n)
  | one set :: pattern, text =>
    match text with
    | [] => false
    | c :: text => set.contains c && matchesText pattern text

end Wildcard

/-- True of a text that a pattern matches as a whole. -/
def globMatches (pattern : List (Char × Bool)) (text : Chars) : Bool :=
  Wildcard.matchesText (Wildcard.read pattern) text

/-- True of a pattern that may match more than one text. -/
def isGlob (pattern : List (Char × Bool)) : Bool :=
  pattern.any fun (c, quoted) => !quoted && ['*', '?', '['].contains c

/-- A longest or shortest part of a text at one end that a pattern matches, taken off. -/
def cutOff (cut : Cut) (pattern : List (Char × Bool)) (text : Chars) : Chars :=
  let pattern := Wildcard.read pattern
  let sizes := List.range (text.length + 1)
  let sizes := if cut.longest then sizes.reverse else sizes
  let part (n : Nat) : Chars :=
    if cut.fromEnd then text.drop (text.length - n) else text.take n
  match sizes.find? fun n => Wildcard.matchesText pattern (part n) with
  | some n => if cut.fromEnd then text.take (text.length - n) else text.drop n
  | none => text

end BootChain.Shell
