import BootChain.Shell.Numeral
import BootChain.Shell.Reader

/-!
Arithmetic expressions. They count in machine words, which wrap around, and may assign to
variables.
-/

namespace BootChain.Shell.Arithmetic

/-- A token of an expression. -/
inductive Token where
  | number (n : Int64)
  | name (name : Chars)
  | operator (text : String)
  /-- The end, or something that is no part of an expression. -/
  | stop
  deriving DecidableEq

/-- The operators, longer ones before those that they start with. -/
def operators : List String :=
  ["<<=", ">>=", "<<", ">>", "<=", ">=", "==", "!=", "&&", "||", "+=", "-=", "*=", "/=", "%=",
    "&=", "^=", "|=", "+", "-", "*", "/", "%", "<", ">", "=", "!", "~", "&", "^", "|", "?", ":",
    "(", ")"]

/-- Takes off a token. -/
def token (chars : Chars) : Token × Chars :=
  let chars := chars.dropWhile isSpace
  match chars with
  | [] => (.stop, [])
  | c :: _ =>
    if c.isDigit then
      let numeral := Numeral.marked chars
      (.number (Int64.ofInt (Numeral.clamped numeral.value)), numeral.rest)
    else if isNameStart c then
      let (name, rest) := chars.span isNameChar
      (.name name, rest)
    else
      match operators.find? fun operator => operator.toList.isPrefixOf chars with
      | some operator => (.operator operator, chars.drop operator.length)
      | none => (.stop, chars)

/-- How tightly an operator of two operands binds. -/
def level : String → Nat
  | "*" => 10
  | "/" => 10
  | "%" => 10
  | "+" => 9
  | "-" => 9
  | "<<" => 8
  | ">>" => 8
  | "<" => 7
  | "<=" => 7
  | ">" => 7
  | ">=" => 7
  | "==" => 6
  | "!=" => 6
  | "&" => 5
  | "^" => 4
  | "|" => 3
  | _ => 0

/-- The operators that assign, each with the one that it applies before. -/
def assigning? : String → Option (Option String)
  | "=" => some none
  | "+=" => some (some "+")
  | "-=" => some (some "-")
  | "*=" => some (some "*")
  | "/=" => some (some "/")
  | "%=" => some (some "%")
  | "<<=" => some (some "<<")
  | ">>=" => some (some ">>")
  | "&=" => some (some "&")
  | "^=" => some (some "^")
  | "|=" => some (some "|")
  | _ => none

def ofBool (b : Bool) : Int64 := if b then 1 else 0

/-- The value of an operator. Nothing is divided by zero. -/
def combine (operator : String) (a b : Int64) : Except String Int64 :=
  match operator with
  | "*" => .ok (a * b)
  | "/" => if b = 0 then .error "division by zero" else .ok (a / b)
  | "%" => if b = 0 then .error "division by zero" else .ok (a % b)
  | "+" => .ok (a + b)
  | "-" => .ok (a - b)
  | "<<" => .ok (a <<< b)
  | ">>" => .ok (a >>> b)
  | "<" => .ok (ofBool (a < b))
  | "<=" => .ok (ofBool (a ≤ b))
  | ">" => .ok (ofBool (b < a))
  | ">=" => .ok (ofBool (b ≤ a))
  | "==" => .ok (ofBool (a = b))
  | "!=" => .ok (ofBool (a ≠ b))
  | "&" => .ok (a &&& b)
  | "^" => .ok (a ^^^ b)
  | "|" => .ok (a ||| b)
  | _ => .error "expecting EOF"

/-- Why an expression has no value. -/
inductive Fault where
  /-- It is no expression, or divides by zero. -/
  | senseless (message : String)
  /-- A variable holds no number. -/
  | notNumber (value : Chars)
  | readOnly (name : Chars)

/-- What is left of an expression, and what it has assigned so far, last first. -/
structure Calculation where
  chars : Chars
  assigned : List (Chars × Int64) := []

abbrev Calculating := StateT Calculation (Except Fault)

/-- Takes off a token. -/
def next : Calculating Token := do
  let calculation ← get
  let (found, chars) := token calculation.chars
  set { calculation with chars }
  return found

/-- The token that comes next. -/
def peek : Calculating Token := do return (token (← get).chars).1

def fail {α : Type} (message : String) : Calculating α := throw (.senseless message)

/-- Takes off an operator that has to be there. -/
def expectOperator (text : String) : Calculating Unit := do
  if (← next) ≠ .operator text then fail ("expecting '" ++ text ++ "'")

/-- The value of a variable, which is zero if it is blank or not set. -/
def valueOf (values : Chars → Chars) (name : Chars) : Calculating Int64 := do
  match (← get).assigned.lookup name with
  | some n => return n
  | none =>
    match Numeral.ofValue? (values name) with
    | some n => return Int64.ofInt n
    | none => throw (.notNumber (values name))

/-- Takes off the operator of an assignment that follows a name. -/
def assigningNext? : Calculating (Option (Option String)) := do
  match ← peek with
  | .operator text =>
    match assigning? text with
    | some operator =>
      let _ ← next
      return some operator
    | none => return none
  | _ => return none

mutual

/-- Evaluates an assignment, or an expression that is none. What is `idle` is only read. -/
def assignmentFrom (values : Chars → Chars) (idle : Bool) : Nat → Calculating Int64
  | 0 => fail "expecting primary"
  | fuel + 1 => do
    let before ← get
    match ← next with
    | .name name =>
      match ← assigningNext? with
      | some operator =>
        let right ← assignmentFrom values idle fuel
        if idle then return right
        else
          let value ← match operator with
            | none => pure right
            | some operator => do
              let left ← valueOf values name
              match combine operator left right with
              | .ok value => pure value
              | .error message => fail message
          modify fun state => { state with assigned := (name, value) :: state.assigned }
          return value
      | none =>
        set before
        choiceFrom values idle fuel
    | _ =>
      set before
      choiceFrom values idle fuel
termination_by structural fuel => fuel

/-- Evaluates a choice between two values, or an expression that is none. -/
def choiceFrom (values : Chars → Chars) (idle : Bool) : Nat → Calculating Int64
  | 0 => fail "expecting primary"
  | fuel + 1 => do
    let condition ← eitherFrom values idle fuel
    if (← peek) = .operator "?" then
      let _ ← next
      let yes ← assignmentFrom values (idle || condition = 0) fuel
      expectOperator ":"
      let no ← choiceFrom values (idle || condition ≠ 0) fuel
      return if condition = 0 then no else yes
    else return condition
termination_by structural fuel => fuel

def eitherFrom (values : Chars → Chars) (idle : Bool) : Nat → Calculating Int64
  | 0 => fail "expecting primary"
  | fuel + 1 => do
    let first ← bothFrom values idle fuel
    if (← peek) = .operator "||" then
      let _ ← next
      let second ← eitherFrom values (idle || first ≠ 0) fuel
      return ofBool (first ≠ 0 || second ≠ 0)
    else return first
termination_by structural fuel => fuel

def bothFrom (values : Chars → Chars) (idle : Bool) : Nat → Calculating Int64
  | 0 => fail "expecting primary"
  | fuel + 1 => do
    let first ← operandFrom values idle fuel
    let first ← operationsFrom values idle fuel 1 first
    if (← peek) = .operator "&&" then
      let _ ← next
      let second ← bothFrom values (idle || first = 0) fuel
      return ofBool (first ≠ 0 && second ≠ 0)
    else return first
termination_by structural fuel => fuel

/-- Goes on after an operand with the operators that bind at least as tightly as a level. -/
def operationsFrom (values : Chars → Chars) (idle : Bool) : Nat → Nat → Int64 → Calculating Int64
  | 0, _, _ => fail "expecting primary"
  | fuel + 1, least, first => do
    match ← peek with
    | .operator text =>
      if level text < max 1 least then return first
      else
        let _ ← next
        let second ← operandFrom values idle fuel
        let second ← operationsFrom values idle fuel (level text + 1) second
        if idle then operationsFrom values idle fuel least second
        else
          match combine text first second with
          | .ok value => operationsFrom values idle fuel least value
          | .error message => fail message
    | _ => return first
termination_by structural fuel => fuel

def operandFrom (values : Chars → Chars) (idle : Bool) : Nat → Calculating Int64
  | 0 => fail "expecting primary"
  | fuel + 1 => do
    match ← next with
    | .number n => return n
    | .name name => if idle then return 0 else valueOf values name
    | .operator "(" =>
      let value ← assignmentFrom values idle fuel
      expectOperator ")"
      return value
    | .operator "+" => operandFrom values idle fuel
    | .operator "-" => return -(← operandFrom values idle fuel)
    | .operator "!" => return ofBool ((← operandFrom values idle fuel) = 0)
    | .operator "~" => return ~~~(← operandFrom values idle fuel)
    | _ => fail "expecting primary"
termination_by structural fuel => fuel

end

/-- The value of an expression, and what it assigns, last first. -/
def evaluate (values : Chars → Chars) (chars : Chars) :
    Except Fault (Int64 × List (Chars × Int64)) := do
  let (value, left) ← (assignmentFrom values false (8 * chars.length + 16)).run { chars }
  if left.chars.all isSpace then return (value, left.assigned)
  else throw (.senseless "expecting EOF")

/-- The wording of a fault of an expression. -/
def Fault.message (expression : Chars) : Fault → Chars
  | .senseless message =>
    ("arithmetic expression: " ++ message ++ ": \"").toList ++ expression ++ ['"']
  | .notNumber value => "Illegal number: ".toList ++ value
  | .readOnly name => name ++ ": is read only".toList

end BootChain.Shell.Arithmetic
