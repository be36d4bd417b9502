import BootChain.Shell.Numeral
import BootChain.Shell.Regex
import BootChain.Shell.Utility

/-!
The utility that evaluates an expression whose parts are words.
-/

namespace BootChain.Shell.Expression

/-- Why words are no expression. -/
inductive Fault where
  | message (text : String)
  | missing (after : Chars)
  | unexpected (word : Chars)

/-- The number that a word is as a whole. -/
def number? (word : Chars) : Option Int :=
  let (negative, digits) := match word with
    | '-' :: rest => (true, rest)
    | rest => (false, rest)
  if digits ≠ [] ∧ digits.all Char.isDigit then
    some (if negative then -(numberAt digits).1 else (numberAt digits).1)
  else none

def ofInt (n : Int) : Chars := (toString n).toList

def ofBool (b : Bool) : Chars := if b then ['1'] else ['0']

/-- True of a value that counts as none. -/
def isNull (value : Chars) : Bool := value = [] || number? value = some 0

/-- The words that are left, and the one before them. -/
structure Rest where
  words : List Chars
  last : Chars := []

def Rest.drop (rest : Rest) : Rest :=
  { words := rest.words.drop 1, last := rest.words.headD rest.last }

/-- What a pattern makes of a text: its first group, or how much it matches. -/
def matched (text pattern : Chars) : Except Fault Chars :=
  match Regex.read? false pattern with
  | none => .error (.message "Invalid regular expression")
  | some regex =>
    let hasGroup := ['\\', '('].isPrefixOf pattern || (pattern.zip pattern.tail).contains ('\\', '(')
    match regex.matchAt text 0 with
    | none => .ok (if hasGroup then [] else ['0'])
    | some found =>
      if hasGroup then .ok ((found.group? text 1).getD [])
      else .ok (ofInt (text.length - found.rest.length))

/-- How tight an operator binds. -/
def level : Chars → Nat
  | ['|'] => 1
  | ['&'] => 2
  | ['<'] => 3
  | ['<', '='] => 3
  | ['='] => 3
  | ['=', '='] => 3
  | ['!', '='] => 3
  | ['>'] => 3
  | ['>', '='] => 3
  | ['+'] => 4
  | ['-'] => 4
  | ['*'] => 5
  | ['/'] => 5
  | ['%'] => 5
  | [':'] => 6
  | _ => 0

def arithmetic (a b : Chars) (f : Int → Int → Except Fault Int) : Except Fault Chars :=
  match number? a, number? b with
  | some m, some n => (f m n).map ofInt
  | _, _ => .error (.message "non-integer argument")

def comparison (a b : Chars) (f : Ordering → Bool) : Except Fault Chars :=
  match number? a, number? b with
  | some m, some n => .ok (ofBool (f (compare m n)))
  | _, _ => .ok (ofBool (f (compare a b)))

/-- The value of an operator for two values. -/
def combine (operator a b : Chars) : Except Fault Chars :=
  match String.ofList operator with
  | "|" => .ok (if !isNull a then a else if !isNull b then b else ['0'])
  | "&" => .ok (if isNull a || isNull b then ['0'] else a)
  | "<" => comparison a b (· == .lt)
  | "<=" => comparison a b (· != .gt)
  | "=" => comparison a b (· == .eq)
  | "==" => comparison a b (· == .eq)
  | "!=" => comparison a b (· != .eq)
  | ">" => comparison a b (· == .gt)
  | ">=" => comparison a b (· != .lt)
  | "+" => arithmetic a b fun m n => .ok (m + n)
  | "-" => arithmetic a b fun m n => .ok (m - n)
  | "*" => arithmetic a b fun m n => .ok (m * n)
  | "/" => arithmetic a b fun m n =>
    if n = 0 then .error (.message "division by zero") else .ok (m.tdiv n)
  | "%" => arithmetic a b fun m n =>
    if n = 0 then .error (.message "division by zero") else .ok (m.tmod n)
  | _ => matched a b

mutual

/-- Reads operators that bind at least so tight, after a first value. -/
def operationsFrom : Nat → Nat → Chars → Rest → Except Fault (Chars × Rest)
  | 0, _, _, rest => .error (.missing rest.last)
  | fuel + 1, least, first, rest =>
    match rest.words with
    | [] => .ok (first, rest)
    | operator :: _ =>
      let level := level operator
      if level = 0 ∨ level < least then .ok (first, rest)
      else do
        let (second, rest) ← operandFrom fuel rest.drop
        let (second, rest) ← operationsFrom fuel (level + 1) second rest
        operationsFrom fuel least (← combine operator first second) rest
termination_by structural fuel => fuel

/-- Reads one value. -/
def operandFrom : Nat → Rest → Except Fault (Chars × Rest)
  | 0, rest => .error (.missing rest.last)
  | fuel + 1, rest =>
    match rest.words with
    | [] => .error (.missing rest.last)
    | word :: _ =>
      match String.ofList word with
      | "(" => do
        let (first, rest) ← operandFrom fuel rest.drop
        let (value, rest) ← operationsFrom fuel 1 first rest
        match rest.words with
        | [')'] :: _ => return (value, rest.drop)
        | [] => throw (.message ("syntax error: expecting ')' after " ++ inQuotes rest.last))
        | word :: _ =>
          throw (.message ("syntax error: expecting ')' instead of " ++ inQuotes word))
      | ")" => .error (.message "syntax error: unexpected ')'")
      | "+" =>
        match rest.words with
        | _ :: quoted :: _ => .ok (quoted, rest.drop.drop)
        | _ => .error (.missing word)
      | "length" => do
        let (text, rest) ← operandFrom fuel rest.drop
        return (ofInt text.length, rest)
      | "match" => do
        let (text, rest) ← operandFrom fuel rest.drop
        let (pattern, rest) ← operandFrom fuel rest
        return (← matched text pattern, rest)
      | "index" => do
        let (text, rest) ← operandFrom fuel rest.drop
        let (set, rest) ← operandFrom fuel rest
        let place := (text.takeWhile (!set.contains ·)).length
        return (ofInt (if place = text.length then 0 else place + 1), rest)
      | "substr" => do
        let (text, rest) ← operandFrom fuel rest.drop
        let (start, rest) ← operandFrom fuel rest
        let (count, rest) ← operandFrom fuel rest
        match number? start, number? count with
        | some m, some n =>
          if m ≤ 0 ∨ n ≤ 0 then return ([], rest)
          else return ((text.drop (m.toNat - 1)).take n.toNat, rest)
        | _, _ => return ([], rest)
      | _ => .ok (word, rest.drop)
termination_by structural fuel => fuel

end

def evaluate (words : List Chars) : Except Fault Chars := do
  let fuel := 4 * words.length + 8
  let (first, rest) ← operandFrom fuel { words }
  let (value, rest) ← operationsFrom fuel 1 first rest
  match rest.words with
  | [] => return value
  | word :: _ => throw (.unexpected word)

def expr (task : Task) (args : List Chars) : Task :=
  if args = [] then task.misused "missing operand" 2
  else match evaluate args with
  | .ok value => (task.printLine value).withStatus (if isNull value then 1 else 0)
  | .error (.message text) => task.complain text 2
  | .error (.missing word) =>
    task.complain ("syntax error: missing argument after " ++ inQuotes word) 2
  | .error (.unexpected word) =>
    task.complain ("syntax error: unexpected argument " ++ inQuotes word) 2

end BootChain.Shell.Expression
