import BootChain.Shell.Numeral
import BootChain.Shell.Print
import BootChain.Shell.Regex
import BootChain.Shell.Utility

/-!
The language of rules: a program is a list of patterns with what is done with each line that they
match. This module reads programs.
-/

namespace BootChain.Shell.Awk

inductive Expr where
  | number (x : Float)
  | text (chars : Chars)
  /-- True if the line matches. -/
  | regex (regex : Regex)
  | field (index : Expr)
  | variable (name : Chars)
  | element (name : Chars) (index : List Expr)
  /-- Gives a variable, an element or a field a value, which an operator may first combine with the
      one that it has. -/
  | assign (target : Expr) (operator : Option String) (value : Expr)
  /-- Adds one to a target, or takes it away. The value is the one after that if `before`. -/
  | step (target : Expr) (up before : Bool)
  | negate (e : Expr)
  | not (e : Expr)
  | binary (operator : String) (a b : Expr)
  | both (a b : Expr)
  | either (a b : Expr)
  | choice (condition yes no : Expr)
  | isMatch (negated : Bool) (a b : Expr)
  | isIn (index : List Expr) (name : Chars)
  | call (name : Chars) (args : List Expr)
  | group (e : Expr)

/-- Where something is printed. -/
inductive Output where
  | standard
  | file (appends : Bool) (name : Expr)

inductive Statement where
  | nothing
  | expr (e : Expr)
  | print (values : List Expr) (output : Output)
  | printf (values : List Expr) (output : Output)
  | sequence (first second : Statement)
  | branch (condition : Expr) (yes no : Statement)
  /-- The body runs once before the condition counts if `first`. -/
  | loop (first : Bool) (condition : Expr) (body step : Statement)
  | each (name array : Chars) (body : Statement)
  | next
  | exit (status : Option Expr)
  | break
  | continue
  | return (value : Option Expr)
  | delete (name : Chars) (index : List Expr)

inductive Pattern where
  /-- Before the first line. -/
  | start
  /-- After the last line. -/
  | finish
  | always
  | holds (e : Expr)
  | range (first last : Expr)

structure Rule where
  pattern : Pattern
  action : Statement

structure Function where
  params : List Chars
  body : Statement

structure Program where
  rules : List Rule := []
  functions : List (Chars × Function) := []

inductive Token where
  | number (x : Float)
  | text (chars : Chars)
  | regex (chars : Chars)
  | name (chars : Chars)
  /-- A name directly before a parenthesis. -/
  | called (chars : Chars)
  | mark (text : String)
  | newline
  deriving BEq

def marks : List String :=
  ["**=", "&&", "||", "++", "--", "+=", "-=", "*=", "/=", "%=", "^=", "**", "==", "<=", ">=", "!=",
    ">>", "!~", "\x7b", "\x7d", "(", ")", "[", "]", ";", ",", "+", "-", "*", "/", "%", "^", "!", ">",
    "<", "|", "?", ":", "~", "$", "="]

def keywords : List String :=
  ["BEGIN", "END", "if", "else", "while", "for", "do", "in", "next", "exit", "delete", "print",
    "printf", "break", "continue", "function", "return", "getline"]

/-- True of a token after which a slash divides. -/
def endsOperand : Option Token → Bool
  | some (.number _) => true
  | some (.text _) => true
  | some (.regex _) => true
  | some (.name chars) => !keywords.contains (String.ofList chars)
  | some (.mark text) => [")", "]", "$", "++", "--"].contains text
  | _ => false

/-- The characters up to an end that is not quoted. The backslashes of what is quoted stay. -/
def upTo (stop : Char) : Chars → Chars → Option (Chars × Chars)
  | _, [] => none
  | read, '\\' :: c :: rest => upTo stop (c :: '\\' :: read) rest
  | read, c :: rest =>
    if c = stop then some (read.reverse, rest)
    else if c = '\n' then none
    else upTo stop (c :: read) rest

/-- A text without the backslashes of its escapes. -/
def plain : Nat → Chars → Chars
  | 0, _ => []
  | _ + 1, [] => []
  | fuel + 1, '\\' :: c :: rest =>
    if isOctal c then
      let digits := ((c :: rest).take 3).takeWhile isOctal
      octalChar digits :: plain fuel ((c :: rest).drop digits.length)
    else
      match c with
      | '"' => '"' :: plain fuel rest
      | '/' => '/' :: plain fuel rest
      | '\n' => plain fuel rest
      | c =>
        match escapeFor? c with
        | some d => d :: plain fuel rest
        | none => '\\' :: c :: plain fuel rest
  | fuel + 1, c :: rest => c :: plain fuel rest

def isNameChar (c : Char) : Bool := c.isAlphanum || c = '_'

/-- Splits a program into tokens. -/
def tokensFrom : Nat → List Token → Chars → Option (List Token)
  | 0, _, _ => none
  | _ + 1, read, [] => some read.reverse
  | fuel + 1, read, c :: rest =>
    if c = ' ' ∨ c = '\t' ∨ c = '\r' then tokensFrom fuel read rest
    else if c = '\n' then tokensFrom fuel (.newline :: read) rest
    else if c = '\\' ∧ rest.head? = some '\n' then tokensFrom fuel read (rest.drop 1)
    else if c = '#' then tokensFrom fuel read (rest.dropWhile (· ≠ '\n'))
    else if c = '"' then do
      let (chars, rest) ← upTo '"' [] rest
      tokensFrom fuel (.text (plain (chars.length + 1) chars) :: read) rest
    else if c = '/' ∧ !endsOperand read.head? then do
      let (chars, rest) ← upTo '/' [] rest
      tokensFrom fuel (.regex chars :: read) rest
    else if c.isDigit ∨ (c = '.' ∧ (rest.headD ' ').isDigit) then
      let (x, _, after) := BinaryFraction.floatAt (c :: rest)
      tokensFrom fuel (.number x :: read) after
    else if c.isAlpha ∨ c = '_' then
      let (name, after) := (c :: rest).span isNameChar
      let isCall := after.head? = some '(' ∧ !keywords.contains (String.ofList name)
      tokensFrom fuel ((if isCall then .called name else .name name) :: read) after
    else do
      let mark ← marks.find? fun mark => mark.toList.isPrefixOf (c :: rest)
      tokensFrom fuel (.mark mark :: read) ((c :: rest).drop mark.length)

/-- What is read of a program: tokens are taken off those that are left. -/
abbrev Reading := StateT (List Token) Option

def peek : Reading (Option Token) := return (← get).head?

def drop : Reading Unit := modify (·.drop 1)

/-- Takes a mark, if it is the next token. -/
def take (mark : String) : Reading Bool := do
  if (← peek) == some (.mark mark) then
    drop
    return true
  else return false

def expect (mark : String) : Reading Unit := do
  if !(← take mark) then failure

def isWord (token : Option Token) (word : String) : Bool :=
  match token with
  | some (.name chars) => chars = word.toList
  | _ => false

def takeWord (word : String) : Reading Bool := do
  if isWord (← peek) word then
    drop
    return true
  else return false

def skipNewlines : Reading Unit := modify (·.dropWhile (· == .newline))

/-- Functions that may be called without parentheses, on the line. -/
def lineFunctions : List String := ["length"]

/-- The operator of an assignment, if that is what a mark is. -/
def assigning? : String → Option (Option String)
  | "=" => some none
  | "+=" => some (some "+")
  | "-=" => some (some "-")
  | "*=" => some (some "*")
  | "/=" => some (some "/")
  | "%=" => some (some "%")
  | "^=" => some (some "^")
  | "**=" => some (some "^")
  | _ => none

def isTarget : Expr → Bool
  | .field _ => true
  | .variable _ => true
  | .element _ _ => true
  | _ => false

def comparisons : List String := ["<", "<=", "==", "!=", ">", ">="]

/-- True where a further operand of a joined text may start. -/
def startsOperand : Option Token → Bool
  | some (.number _) => true
  | some (.text _) => true
  | some (.name chars) => !keywords.contains (String.ofList chars)
  | some (.called _) => true
  | some (.mark text) => ["$", "!", "(", "-", "+", "++", "--"].contains text
  | _ => false

mutual

/-- Reads an expression. A sign that is greater belongs to it only if `greater`, and the word
    between an index and an array only if `membership`. -/
def exprFrom (greater membership : Bool) : Nat → Reading Expr
  | 0 => failure
  | fuel + 1 => do
    let condition ← eitherFrom greater membership fuel
    if ← take "?" then
      skipNewlines
      let yes ← exprFrom greater membership fuel
      skipNewlines
      expect ":"
      skipNewlines
      let no ← exprFrom greater membership fuel
      return .choice condition yes no
    else
      match ← peek with
      | some (.mark text) =>
        match assigning? text with
        | some operator =>
          if isTarget condition then
            drop
            skipNewlines
            return .assign condition operator (← exprFrom greater membership fuel)
          else return condition
        | none => return condition
      | _ => return condition
termination_by structural fuel => fuel

def eitherFrom (greater membership : Bool) : Nat → Reading Expr
  | 0 => failure
  | fuel + 1 => do
    let first ← bothFrom greater membership fuel
    if ← take "||" then
      skipNewlines
      return .either first (← eitherFrom greater membership fuel)
    else return first
termination_by structural fuel => fuel

def bothFrom (greater membership : Bool) : Nat → Reading Expr
  | 0 => failure
  | fuel + 1 => do
    let first ← memberFrom greater membership fuel
    if ← take "&&" then
      skipNewlines
      return .both first (← bothFrom greater membership fuel)
    else return first
termination_by structural fuel => fuel

def memberFrom (greater membership : Bool) : Nat → Reading Expr
  | 0 => failure
  | fuel + 1 => do
    let first ← matchFrom greater membership fuel
    if membership then
      if ← takeWord "in" then
        match ← peek with
        | some (.name name) =>
          drop
          return .isIn [first] name
        | _ => failure
      else return first
    else return first
termination_by structural fuel => fuel

def matchFrom (greater membership : Bool) : Nat → Reading Expr
  | 0 => failure
  | fuel + 1 => do
    let first ← comparisonFrom greater membership fuel
    if ← take "~" then return .isMatch false first (← comparisonFrom greater membership fuel)
    else if ← take "!~" then return .isMatch true first (← comparisonFrom greater membership fuel)
    else return first
termination_by structural fuel => fuel

def comparisonFrom (greater membership : Bool) : Nat → Reading Expr
  | 0 => failure
  | fuel + 1 => do
    let first ← joinedFrom greater membership fuel
    match ← peek with
    | some (.mark text) =>
      if comparisons.contains text ∧ (greater ∨ text ≠ ">") then
        drop
        return .binary text first (← joinedFrom greater membership fuel)
      else return first
    | _ => return first
termination_by structural fuel => fuel

def joinedFrom (greater membership : Bool) : Nat → Reading Expr
  | 0 => failure
  | fuel + 1 => do
    let first ← sumFrom greater membership fuel none
    joinMoreFrom greater membership fuel first
termination_by structural fuel => fuel

def joinMoreFrom (greater membership : Bool) : Nat → Expr → Reading Expr
  | 0, _ => failure
  | fuel + 1, first => do
    let token ← peek
    let isSign := token == some (.mark "+") || token == some (.mark "-")
    if startsOperand token ∧ !isSign then
      let second ← sumFrom greater membership fuel none
      joinMoreFrom greater membership fuel (.binary "" first second)
    else return first
termination_by structural fuel => fuel

def sumFrom (greater membership : Bool) : Nat → Option Expr → Reading Expr
  | 0, _ => failure
  | fuel + 1, first => do
    let first ← match first with
      | some first => pure first
      | none => productFrom greater membership fuel none
    match ← peek with
    | some (.mark text) =>
      if text = "+" ∨ text = "-" then
        drop
        let second ← productFrom greater membership fuel none
        sumFrom greater membership fuel (some (.binary text first second))
      else return first
    | _ => return first
termination_by structural fuel => fuel

def productFrom (greater membership : Bool) : Nat → Option Expr → Reading Expr
  | 0, _ => failure
  | fuel + 1, first => do
    let first ← match first with
      | some first => pure first
      | none => signedFrom greater membership fuel
    match ← peek with
    | some (.mark text) =>
      if text = "*" ∨ text = "/" ∨ text = "%" then
        drop
        let second ← signedFrom greater membership fuel
        productFrom greater membership fuel (some (.binary text first second))
      else return first
    | _ => return first
termination_by structural fuel => fuel

def signedFrom (greater membership : Bool) : Nat → Reading Expr
  | 0 => failure
  | fuel + 1 => do
    if ← take "!" then return .not (← signedFrom greater membership fuel)
    else if ← take "-" then return .negate (← signedFrom greater membership fuel)
    else if ← take "+" then
      return .binary "+" (.number 0) (← signedFrom greater membership fuel)
    else powerFrom greater membership fuel
termination_by structural fuel => fuel

def powerFrom (greater membership : Bool) : Nat → Reading Expr
  | 0 => failure
  | fuel + 1 => do
    let first ← steppedFrom greater membership fuel
    if (← take "^") || (← take "**") then
      -- A sign may stand before the exponent.
      let negative ← take "-"
      let second ← powerFrom greater membership fuel
      return .binary "^" first (if negative then .negate second else second)
    else return first
termination_by structural fuel => fuel

def steppedFrom (greater membership : Bool) : Nat → Reading Expr
  | 0 => failure
  | fuel + 1 => do
    if ← take "++" then return .step (← operandFrom greater membership fuel) true true
    else if ← take "--" then return .step (← operandFrom greater membership fuel) false true
    else
      let first ← operandFrom greater membership fuel
      if isTarget first then
        if ← take "++" then return .step first true false
        else if ← take "--" then return .step first false false
        else return first
      else return first
termination_by structural fuel => fuel

def operandFrom (greater membership : Bool) : Nat → Reading Expr
  | 0 => failure
  | fuel + 1 => do
    match ← peek with
    | some (.number x) =>
      drop
      return .number x
    | some (.text chars) =>
      drop
      return .text chars
    | some (.regex chars) =>
      drop
      match Regex.read? true chars with
      | some regex => return .regex regex
      | none => failure
    | some (.mark "$") =>
      drop
      if ← take "++" then return .field (.step (← operandFrom greater membership fuel) true true)
      else if ← take "-" then return .field (.negate (← operandFrom greater membership fuel))
      else return .field (← operandFrom greater membership fuel)
    | some (.mark "(") =>
      drop
      let values ← valuesFrom true fuel
      expect ")"
      match values with
      | [value] => return .group value
      | values =>
        if values ≠ [] ∧ (← takeWord "in") then
          match ← peek with
          | some (.name name) =>
            drop
            return .isIn values name
          | _ => failure
        else failure
    | some (.called name) =>
      drop
      drop
      let args ← if ← take ")" then pure [] else do
        let args ← valuesFrom true fuel
        expect ")"
        pure args
      return .call name args
    | some (.name name) =>
      if keywords.contains (String.ofList name) then failure
      else
        drop
        if lineFunctions.contains (String.ofList name) then return .call name []
        else if ← take "[" then
          let index ← valuesFrom true fuel
          expect "]"
          return .element name index
        else return .variable name
    | _ => failure
termination_by structural fuel => fuel

/-- Reads expressions with commas between them. -/
def valuesFrom (greater : Bool) : Nat → Reading (List Expr)
  | 0 => failure
  | fuel + 1 => do
    skipNewlines
    let first ← exprFrom greater true fuel
    skipNewlines
    if ← take "," then
      skipNewlines
      return first :: (← valuesFrom greater fuel)
    else return [first]
termination_by structural fuel => fuel

end

/-- Takes what ends a statement. -/
def endStatement : Reading Unit := do
  match ← peek with
  | some .newline => skipNewlines
  | some (.mark ";") =>
    drop
    skipNewlines
  | some (.mark "\x7d") => return ()
  | none => return ()
  | _ => failure

/-- Reads what is printed, and where. The values may stand in parentheses. -/
def printedFrom (fuel : Nat) : Reading (List Expr × Output) := do
  let atEnd (token : Option Token) : Bool :=
    match token with
    | none => true
    | some .newline => true
    | some (.mark text) => [";", "\x7d", ">", ">>", "|"].contains text
    | _ => false
  let values ←
    if atEnd (← peek) then pure []
    else do
      let tokens ← get
      -- A list in parentheses stands for all that is printed only if nothing follows it.
      let grouped : Option (List Expr × List Token) := match tokens with
        | .mark "(" :: rest =>
          match (do
              let values ← valuesFrom true fuel
              expect ")"
              return values : Reading (List Expr)).run rest with
          | some (values, left) => if atEnd left.head? then some (values, left) else none
          | none => none
        | _ => none
      match grouped with
      | some (values, left) =>
        set left
        pure values
      | none => valuesFromPlain fuel
  if ← take ">" then return (values, .file false (← target fuel))
  else if ← take ">>" then return (values, .file true (← target fuel))
  else return (values, .standard)
where
  valuesFromPlain (fuel : Nat) : Reading (List Expr) := do
    let first ← exprFrom false true fuel
    more fuel [first]
  more : Nat → List Expr → Reading (List Expr)
    | 0, read => return read.reverse
    | fuel + 1, read => do
      if ← take "," then
        skipNewlines
        let next ← exprFrom false true fuel
        more fuel (next :: read)
      else return read.reverse
  target (fuel : Nat) : Reading Expr := joinedFrom false false fuel

/-- Reads a statement that holds no others. -/
def simpleFrom (fuel : Nat) : Reading Statement := do
  let atEnd (token : Option Token) : Bool :=
    match token with
    | none => true
    | some .newline => true
    | some (.mark text) => [";", "\x7d"].contains text
    | _ => false
  if ← takeWord "print" then
    let (values, output) ← printedFrom fuel
    return .print values output
  else if ← takeWord "printf" then
    let (values, output) ← printedFrom fuel
    return .printf values output
  else if ← takeWord "next" then return .next
  else if ← takeWord "break" then return .break
  else if ← takeWord "continue" then return .continue
  else if ← takeWord "exit" then
    if atEnd (← peek) then return .exit none
    else return .exit (some (← exprFrom true true fuel))
  else if ← takeWord "return" then
    if atEnd (← peek) then return .return none
    else return .return (some (← exprFrom true true fuel))
  else if ← takeWord "delete" then
    match ← peek with
    | some (.name name) =>
      drop
      if ← take "[" then
        let index ← valuesFrom true fuel
        expect "]"
        return .delete name index
      else return .delete name []
    | _ => failure
  else return .expr (← exprFrom true true fuel)

mutual

/-- Reads a statement with what ends it. -/
def statementFrom : Nat → Reading Statement
  | 0 => failure
  | fuel + 1 => do
    match ← peek with
    | some (.mark ";") =>
      drop
      skipNewlines
      return .nothing
    | some (.mark "\x7b") => do
      let block ← blockFrom fuel
      let _ ← take ";"
      skipNewlines
      return block
    | some (.name chars) =>
      match String.ofList chars with
      | "if" => do
        drop
        expect "("
        let condition ← exprFrom true true fuel
        expect ")"
        skipNewlines
        let yes ← statementFrom fuel
        let rest ← get
        if ← take ";" then skipNewlines
        if ← takeWord "else" then
          skipNewlines
          return .branch condition yes (← statementFrom fuel)
        else
          set rest
          return .branch condition yes .nothing
      | "while" => do
        drop
        expect "("
        let condition ← exprFrom true true fuel
        expect ")"
        if ← take ";" then
          skipNewlines
          return .loop false condition .nothing .nothing
        else
          skipNewlines
          return .loop false condition (← statementFrom fuel) .nothing
      | "do" => do
        drop
        skipNewlines
        let body ← statementFrom fuel
        if !(← takeWord "while") then failure
        expect "("
        let condition ← exprFrom true true fuel
        expect ")"
        endStatement
        return .loop true condition body .nothing
      | "for" => do
        drop
        expect "("
        let tokens ← get
        match tokens with
        | .name name :: .name word :: .name array :: .mark ")" :: rest =>
          if word = "in".toList then
            set rest
            skipNewlines
            return .each name array (← statementFrom fuel)
          else failure
        | _ =>
          let start ← if ← take ";" then pure Statement.nothing else do
            let start ← simpleFrom fuel
            expect ";"
            pure start
          skipNewlines
          let condition ← if ← take ";" then pure (Expr.number 1) else do
            let condition ← exprFrom true true fuel
            expect ";"
            pure condition
          skipNewlines
          let step ← if ← take ")" then pure Statement.nothing else do
            let step ← simpleFrom fuel
            expect ")"
            pure step
          if ← take ";" then
            skipNewlines
            return .sequence start (.loop false condition .nothing step)
          else
            skipNewlines
            return .sequence start (.loop false condition (← statementFrom fuel) step)
      | _ => do
        let statement ← simpleFrom fuel
        endStatement
        return statement
    | _ => do
      let statement ← simpleFrom fuel
      endStatement
      return statement
termination_by structural fuel => fuel

/-- Reads statements in braces. -/
def blockFrom : Nat → Reading Statement
  | 0 => failure
  | fuel + 1 => do
    expect "\x7b"
    skipNewlines
    let statement ← statementsFrom fuel
    expect "\x7d"
    return statement
termination_by structural fuel => fuel

def statementsFrom : Nat → Reading Statement
  | 0 => failure
  | fuel + 1 => do
    match ← peek with
    | some (.mark "\x7d") => return .nothing
    | none => failure
    | _ =>
      let first ← statementFrom fuel
      return .sequence first (← statementsFrom fuel)
termination_by structural fuel => fuel

end

/-- Reads the names of the parameters of a function. -/
def paramsFrom : Nat → List Chars → Reading (List Chars)
  | 0, _ => failure
  | fuel + 1, read => do
    skipNewlines
    match ← peek with
    | some (.name name) =>
      drop
      skipNewlines
      if ← take "," then paramsFrom fuel (name :: read)
      else
        expect ")"
        return (name :: read).reverse
    | some (.mark ")") =>
      drop
      return read.reverse
    | _ => failure

/-- Reads rules and functions. -/
def programFrom : Nat → Program → Reading Program
  | 0, _ => failure
  | fuel + 1, program => do
    modify (·.dropWhile fun token => token == .newline || token == .mark ";")
    let action (pattern : Pattern) (isOptional : Bool) : Reading Rule := do
      if (← peek) == some (.mark "\x7b") then return ⟨pattern, ← blockFrom fuel⟩
      else if isOptional then return ⟨pattern, .print [] .standard⟩
      else failure
    match ← peek with
    | none => return program
    | some (.mark "\x7b") =>
      let rule ← action .always false
      programFrom fuel { program with rules := program.rules ++ [rule] }
    | some (.name name) =>
      match String.ofList name with
      | "BEGIN" =>
        drop
        let rule ← action .start false
        programFrom fuel { program with rules := program.rules ++ [rule] }
      | "END" =>
        drop
        let rule ← action .finish false
        programFrom fuel { program with rules := program.rules ++ [rule] }
      | "function" =>
        drop
        match ← peek with
        | some (.called name) =>
          drop
          drop
          let params ← paramsFrom fuel []
          skipNewlines
          let body ← blockFrom fuel
          programFrom fuel { program with functions := (name, ⟨params, body⟩) :: program.functions }
        | _ => failure
      | _ => patternFrom program fuel action
    | _ => patternFrom program fuel action
where
  patternFrom (program : Program) (fuel : Nat) (action : Pattern → Bool → Reading Rule) :
      Reading Program := do
    let first ← exprFrom true true fuel
    if ← take "," then
      skipNewlines
      let last ← exprFrom true true fuel
      let rule ← action (.range first last) true
      programFrom fuel { program with rules := program.rules ++ [rule] }
    else
      let rule ← action (.holds first) true
      programFrom fuel { program with rules := program.rules ++ [rule] }

/-- Reads a program. -/
def read? (text : Chars) : Option Program := do
  let tokens ← tokensFrom (text.length + 2) [] text
  let fuel := 20 * tokens.length + 40
  let (program, rest) ← (programFrom fuel {}).run tokens
  if rest.isEmpty then return program else failure

end BootChain.Shell.Awk
