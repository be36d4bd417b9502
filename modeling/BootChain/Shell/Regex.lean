import BootChain.Shell.Pattern

namespace BootChain.Shell

/-- A place between two characters. -/
inductive Edge where
  | wordStart
  | wordEnd
  | word
  | noWord
  deriving DecidableEq, Repr

/-- A regular expression. -/
inductive Regex where
  | empty
  | one (set : CharSet)
  | start
  | stop
  | edge (kind : Edge)
  | group (number : Nat) (inner : Regex)
  | both (first second : Regex)
  | either (first second : Regex)
  | repeated (least : Nat) (most : Option Nat) (inner : Regex)
  /-- The text that a group has matched. -/
  | again (number : Nat)
  deriving Repr

namespace Regex

/-- Reads how often something is repeated, after the opening brace. -/
def interval? (extended : Bool) (chars : Chars) : Option (Nat × Option Nat × Chars) :=
  let number (chars : Chars) : Option Nat × Chars :=
    let (digits, rest) := chars.span Char.isDigit
    (if digits = [] then none else some (digits.foldl (fun n d => n * 10 + (d.toNat - 48)) 0), rest)
  let close (rest : Chars) : Option Chars :=
    match extended, rest with
    | true, '}' :: rest => some rest
    | false, '\\' :: '}' :: rest => some rest
    | _, _ => none
  let (least, rest) := number chars
  match least, rest with
  | none, ',' :: rest =>
    let (most, rest) := number rest
    (close rest).map fun rest => (0, most, rest)
  | some least, ',' :: rest =>
    let (most, rest) := number rest
    (close rest).map fun rest => (least, most, rest)
  | some least, rest => (close rest).map fun rest => (least, some least, rest)
  | none, _ => none

/-- Reads a repetition after what is repeated. -/
def repetition? (extended : Bool) (chars : Chars) : Option (Nat × Option Nat × Chars) :=
  match extended, chars with
  | _, '*' :: rest => some (0, none, rest)
  | true, '+' :: rest => some (1, none, rest)
  | true, '?' :: rest => some (0, some 1, rest)
  | true, '{' :: rest => interval? true rest
  | false, '\\' :: '+' :: rest => some (1, none, rest)
  | false, '\\' :: '?' :: rest => some (0, some 1, rest)
  | false, '\\' :: '{' :: rest => interval? false rest
  | _, _ => none

/-- Takes in all repetitions after something. -/
def repeatAll (extended : Bool) : Nat → Regex → Chars → Regex × Chars
  | 0, regex, chars => (regex, chars)
  | fuel + 1, regex, chars =>
    match repetition? extended chars with
    | some (least, most, rest) => repeatAll extended fuel (.repeated least most regex) rest
    | none => (regex, chars)

def unquoted (chars : Chars) : List (Char × Bool) := chars.map fun c => (c, false)

/-- What a letter after a backslash stands for, other than itself. -/
def escaped? : Char → Option Regex
  | 'n' => some (.one (.single '\n'))
  | 't' => some (.one (.single '\t'))
  | 'w' => some (.one ⟨false, [('a', 'z'), ('A', 'Z'), ('0', '9'), ('_', '_')]⟩)
  | 'W' => some (.one ⟨true, [('a', 'z'), ('A', 'Z'), ('0', '9'), ('_', '_')]⟩)
  | 's' => some (.one ⟨false, [('\t', '\r'), (' ', ' ')]⟩)
  | 'S' => some (.one ⟨true, [('\t', '\r'), (' ', ' ')]⟩)
  | '<' => some (.edge .wordStart)
  | '>' => some (.edge .wordEnd)
  | 'b' => some (.edge .word)
  | 'B' => some (.edge .noWord)
  | '1' => some (.again 1)
  | '2' => some (.again 2)
  | '3' => some (.again 3)
  | '4' => some (.again 4)
  | '5' => some (.again 5)
  | '6' => some (.again 6)
  | '7' => some (.again 7)
  | '8' => some (.again 8)
  | '9' => some (.again 9)
  | _ => none

/-- The mark that opens a group, or another of the marks that a backslash turns on or off. -/
def mark? (extended : Bool) (c : Char) (chars : Chars) : Option Chars :=
  match extended, chars with
  | true, d :: rest => if d = c then some rest else none
  | false, '\\' :: d :: rest => if d = c then some rest else none
  | _, _ => none

/-- True where an expression within a group, or the whole, ends. -/
def atEnd (extended : Bool) (depth : Nat) (chars : Chars) : Bool :=
  chars = [] || (mark? extended '|' chars).isSome ||
    ((!extended || depth > 0) && (mark? extended ')' chars).isSome)

mutual

/-- Reads alternatives, within so many open groups. `opened` counts the groups so far. -/
def alternativesFrom (extended : Bool) :
    Nat → Nat → Nat → Chars → Option (Regex × Nat × Chars)
  | 0, _, _, _ => none
  | fuel + 1, depth, opened, chars => do
    let (first, opened, rest) ← sequenceFrom extended fuel depth opened true chars
    match mark? extended '|' rest with
    | some rest =>
      let (others, opened, rest) ← alternativesFrom extended fuel depth opened rest
      return (.either first others, opened, rest)
    | none => return (first, opened, rest)
termination_by structural fuel => fuel

/-- Reads parts that follow one another. -/
def sequenceFrom (extended : Bool) :
    Nat → Nat → Nat → Bool → Chars → Option (Regex × Nat × Chars)
  | 0, _, _, _, _ => none
  | fuel + 1, depth, opened, isFirst, chars =>
    if atEnd extended depth chars then some (.empty, opened, chars)
    else do
      let (part, opened, rest) ← partFrom extended fuel depth opened isFirst chars
      let isAnchor := match part with
        | .start => true
        | _ => false
      let (part, rest) :=
        if isAnchor then (part, rest) else repeatAll extended rest.length part rest
      let (others, opened, rest) ← sequenceFrom extended fuel depth opened isAnchor rest
      return (.both part others, opened, rest)
termination_by structural fuel => fuel

/-- Reads one part, before its repetitions. -/
def partFrom (extended : Bool) :
    Nat → Nat → Nat → Bool → Chars → Option (Regex × Nat × Chars)
  | 0, _, _, _, _ => none
  | fuel + 1, depth, opened, isFirst, chars =>
    match mark? extended '(' chars with
    | some rest => do
      let number := opened + 1
      let (inner, opened, rest) ← alternativesFrom extended fuel (depth + 1) number rest
      return (.group number inner, opened, ← mark? extended ')' rest)
    | none =>
      match chars with
      | '\\' :: c :: rest => some ((escaped? c).getD (.one (.single c)), opened, rest)
      | ['\\'] => none
      | '.' :: rest => some (.one .any, opened, rest)
      | '[' :: rest => do
        let (set, rest) ← CharSet.bracket? ['^'] (unquoted rest)
        return (.one set, opened, rest.map Prod.fst)
      | '^' :: rest =>
        if extended || isFirst then some (.start, opened, rest)
        else some (.one (.single '^'), opened, rest)
      | '$' :: rest =>
        if extended || atEnd extended 1 rest then some (.stop, opened, rest)
        else some (.one (.single '$'), opened, rest)
      | c :: rest =>
        if extended && !isFirst && ['*', '+', '?'].contains c then none
        else some (.one (.single c), opened, rest)
      | [] => none
termination_by structural fuel => fuel

end

/-- Reads a regular expression, basic or extended. -/
def read? (extended : Bool) (chars : Chars) : Option Regex :=
  match alternativesFrom extended (4 * chars.length + 8) 0 0 chars with
  | some (regex, _, []) => some regex
  | _ => none

/-- True of the inside of brackets with the name of a class that there is none of. -/
def hasUnknownClass : Chars → Bool
  | [] => false
  | c :: rest =>
    match c, rest with
    | '[', ':' :: after =>
      let (name, after) := after.span Char.isAlpha
      match after with
      | ':' :: ']' :: _ => (CharSet.named? (String.ofList name)).isNone || hasUnknownClass rest
      | _ => hasUnknownClass rest
    | _, _ => hasUnknownClass rest

/-- True of brackets one of whose ranges ends before it starts. -/
def hasReversedRange (set : CharSet) : Bool := set.ranges.any fun (low, high) => high < low

/-- What is wrong with a pattern, if it must be refused, from where `depth` groups are open on.
    `first` says that nothing stands here yet that could be repeated. If `lenient`, an extended
    pattern may have marks that stand for themselves because they make no sense. -/
def faultFrom (extended lenient : Bool) : Nat → Nat → Bool → Chars → Option String
  | 0, _, _, _ => none
  | fuel + 1, depth, first, chars =>
    match mark? extended '(' chars, mark? extended ')' chars, mark? extended '|' chars with
    | some rest, _, _ => faultFrom extended lenient fuel (depth + 1) true rest
    | _, some rest, _ =>
      if depth > 0 then faultFrom extended lenient fuel (depth - 1) false rest
      else if lenient && extended then faultFrom extended lenient fuel depth false rest
      else some "Unmatched ) or \\)"
    | _, _, some rest => faultFrom extended lenient fuel depth true rest
    | none, none, none =>
      match chars with
      | [] => if depth > 0 then some "Unmatched ( or \\(" else none
      | ['\\'] => some "Trailing backslash"
      | '[' :: rest =>
        match CharSet.bracket? ['^'] (unquoted rest) with
        | none =>
          some (if lenient ∧ (rest = [] ∨ rest = ['^']) then "Invalid regular expression"
            else "Unmatched [, [^, [:, [., or [=")
        | some (set, after) =>
          if hasReversedRange set then some "Invalid range end"
          else if hasUnknownClass ('[' :: rest.take (rest.length - after.length)) then
            some "Invalid character class name"
          else faultFrom extended lenient fuel depth false (after.map Prod.fst)
      | c :: rest =>
        match mark? extended '{' chars with
        | some rest =>
          if extended ∧ first ∧ !lenient then some "Invalid preceding regular expression"
          else match interval? extended rest with
          | some (least, most, rest) =>
            if most.any (· < least) then some "Invalid content of \\\x7b\\\x7d"
            else faultFrom extended lenient fuel depth false rest
          | none =>
            let isClosed := if extended then rest.contains '}'
              else (rest.zip rest.tail).contains ('\\', '}')
            if lenient && extended then faultFrom extended lenient fuel depth false rest
            else some (if isClosed then "Invalid content of \\\x7b\\\x7d" else "Unmatched \\\x7b")
        | none =>
          if extended && !lenient && first && ['*', '+', '?'].contains c then
            some "Invalid preceding regular expression"
          else
            let rest := if c = '\\' then rest.drop 1 else rest
            let starts := c = '^' ∧ (first ∨ extended)
            faultFrom extended lenient fuel depth starts rest

/-- How many groups an expression has. -/
def groupCount : Regex → Nat
  | group _ inner => inner.groupCount + 1
  | both first second => first.groupCount + second.groupCount
  | either first second => first.groupCount + second.groupCount
  | repeated _ _ inner => inner.groupCount
  | _ => 0

/-- The greatest number of a group whose text an expression asks for again. -/
def greatestAgain : Regex → Nat
  | again number => number
  | group _ inner => inner.greatestAgain
  | both first second => max first.greatestAgain second.greatestAgain
  | either first second => max first.greatestAgain second.greatestAgain
  | repeated _ _ inner => inner.greatestAgain
  | _ => 0

/-- Reads a regular expression, or tells what is wrong with it. -/
def compile (extended lenient : Bool) (chars : Chars) : Except String Regex :=
  match faultFrom extended lenient (chars.length + 1) 0 true chars with
  | some message => .error message
  | none =>
    match read? extended chars with
    | some regex =>
      if regex.greatestAgain > regex.groupCount then .error "Invalid back reference" else .ok regex
    | none => .error "Invalid regular expression"

/-- The expression for exactly one text. -/
def literal (text : Chars) : Regex :=
  text.foldr (fun c regex => .both (.one (.single c)) regex) .empty

/-- The expression that takes letters of either case for each other. -/
def ignoringCase : Regex → Regex
  | one set =>
    let both (c d : Char) : List (Char × Char) :=
      [(c, d)] ++
      (if 'a' ≤ c && d ≤ 'z' then [(c.toUpper, d.toUpper)] else []) ++
      (if 'A' ≤ c && d ≤ 'Z' then [(c.toLower, d.toLower)] else [])
    one { set with ranges := set.ranges.flatMap fun (low, high) => both low high }
  | group number inner => group number (ignoringCase inner)
  | both first second => both (ignoringCase first) (ignoringCase second)
  | either first second => either (ignoringCase first) (ignoringCase second)
  | repeated least most inner => repeated least most (ignoringCase inner)
  | regex => regex

def size : Regex → Nat
  | group _ inner => inner.size + 1
  | both first second => first.size + second.size + 1
  | either first second => first.size + second.size + 1
  | repeated least most inner => (inner.size + 1) * (least + most.getD 1 + 1)
  | _ => 1

end Regex

/-- A match under way: the character before its end, what follows it, and for each group how many
    characters were left where it started and where it ended. -/
structure Match where
  previous : Option Char := none
  rest : Chars
  groups : List (Nat × Nat × Nat) := []

namespace Match

/-- The match with some characters more. -/
def advance (found : Match) (n : Nat) : Match :=
  if n = 0 then found
  else { found with previous := found.rest[n - 1]?, rest := found.rest.drop n }

def isWordChar : Option Char → Bool
  | some c => c.isAlphanum || c = '_'
  | none => false

/-- True of a match that ends at an edge. -/
def isAt (found : Match) (edge : Edge) : Bool :=
  let before := isWordChar found.previous
  let after := isWordChar found.rest.head?
  match edge with
  | .wordStart => !before && after
  | .wordEnd => before && !after
  | .word => before != after
  | .noWord => before == after

/-- The text of a group in a match of the whole text, if it took part. -/
def group? (found : Match) (text : Chars) (number : Nat) : Option Chars :=
  (found.groups.lookup number).map fun (before, after) =>
    (text.take (text.length - after)).drop (text.length - before)

/-- Of two matches, the one that is longer. -/
def longer : Option Match → Option Match → Option Match
  | some a, some b => if b.rest.length < a.rest.length then some b else some a
  | some a, none => some a
  | none, found => found

end Match

namespace Regex

/-- Matches an expression in a text from the end of a match on, and then what is left to do. Of
    alternatives the one that leads to the longer match is taken. -/
def matchFrom (text : Chars) : Nat → Regex → Match → (Match → Option Match) → Option Match
  | 0, _, _, _ => none
  | fuel + 1, regex, found, next =>
    match regex with
    | empty => next found
    | one set =>
      match found.rest with
      | c :: _ => if set.contains c then next (found.advance 1) else none
      | [] => none
    | start => if found.rest.length = text.length then next found else none
    | stop => if found.rest = [] then next found else none
    | edge kind => if found.isAt kind then next found else none
    | group number inner =>
      let left := found.rest.length
      matchFrom text fuel inner found fun ended =>
        next { ended with groups := (number, left, ended.rest.length) :: ended.groups }
    | both first second =>
      matchFrom text fuel first found fun found => matchFrom text fuel second found next
    | either first second =>
      Match.longer (matchFrom text fuel first found next) (matchFrom text fuel second found next)
    | again number =>
      match found.group? text number with
      | none => none
      | some same =>
        if same.isPrefixOf found.rest then next (found.advance same.length) else none
    | repeated least most (one set) =>
      let run := (found.rest.takeWhile set.contains).length
      let longest := min run (most.getD run)
      (List.range' least (longest + 1 - least)).reverse.findSome? fun n => next (found.advance n)
    | repeated least most inner =>
      let more :=
        if most = some 0 then none
        else
          matchFrom text fuel inner found fun ended =>
            if ended.rest.length = found.rest.length then none
            else matchFrom text fuel (.repeated (least - 1) (most.map (· - 1)) inner) ended next
      match more with
      | some found => some found
      | none => if least = 0 then next found else none

/-- Matches an expression at a place of a text. -/
def matchAt (regex : Regex) (text : Chars) (place : Nat) : Option Match :=
  let fuel := (regex.size + 2) * (text.length + 2)
  matchFrom text fuel regex (Match.advance { rest := text } place) some

/-- The first place of a text from `skipped` on where an expression matches, and the match. -/
def find? (regex : Regex) (text : Chars) (skipped : Nat) : Option (Nat × Match) :=
  (List.range' skipped (text.length + 1 - skipped)).findSome? fun place =>
    (regex.matchAt text place).map fun found => (place, found)

def isIn (regex : Regex) (text : Chars) : Bool := (regex.find? text 0).isSome

end Regex

end BootChain.Shell
