import BootChain.FileSystem
import BootChain.Shell.Numeral

/-!
Conditions: what the command `test` finds of words and files.
-/

namespace BootChain.Shell.Condition

/-- What a word means where an operator may stand. -/
inductive Sign where
  | unary (operator : String)
  | binary (operator : String)
  | negation
  | conjunction
  | disjunction
  | opening
  | closing
  deriving DecidableEq

def unaryOperators : List String :=
  ["-r", "-w", "-x", "-e", "-f", "-d", "-c", "-b", "-p", "-u", "-g", "-k", "-s", "-t", "-z", "-n",
    "-h", "-O", "-G", "-L", "-S"]

def binaryOperators : List String :=
  ["=", "!=", "<", ">", "-eq", "-ne", "-ge", "-gt", "-le", "-lt", "-nt", "-ot", "-ef"]

def sign? (word : Chars) : Option Sign :=
  let text := String.ofList word
  if unaryOperators.contains text then some (.unary text)
  else if binaryOperators.contains text then some (.binary text)
  else match text with
    | "!" => some .negation
    | "-a" => some .conjunction
    | "-o" => some .disjunction
    | "(" => some .opening
    | ")" => some .closing
    | _ => none

def isBinary : Option Sign → Bool
  | some (.binary _) => true
  | _ => false

/-- What the first of some words is. -/
inductive Token where
  | missing
  | operand
  | sign (sign : Sign)
  deriving DecidableEq

/-- Reads the first of some words. An operator for one operand is an operand itself if none
    follows, or if it stands before an operator for two. -/
def token : List Chars → Token
  | [] => .missing
  | word :: rest =>
    match sign? word with
    | none => .operand
    | some (.unary operator) =>
      match rest with
      | [] => .operand
      | [_] => .sign (.unary operator)
      | next :: _ => if isBinary (sign? next) then .operand else .sign (.unary operator)
    | some .opening => if rest = [] then .operand else .sign .opening
    | some sign => .sign sign

/-- The truth of an operator for one operand. -/
def unary (files : FileSystem) (operator : String) (word : Chars) : Except String Bool :=
  let path : Path := ⟨bytesOf word⟩
  let node := (files.stat path).toOption.map Prod.snd
  let isLink := match files.resolve false path with
    | .ok (.found _ (.link _) _) => true
    | _ => false
  match operator with
  | "-n" => .ok (word ≠ [])
  | "-z" => .ok (word = [])
  | "-f" => .ok (files.isFile path)
  | "-d" => .ok (files.isDirectory path)
  | "-x" => .ok (files.isExecutable path || files.isDirectory path)
  | "-s" => .ok (match node with
    | some (.file content _) => content ≠ []
    | some .dir => true
    | _ => false)
  | "-c" => .ok (match node with
    | some (.device _) => true
    | _ => false)
  | "-h" => .ok isLink
  | "-L" => .ok isLink
  | "-t" =>
    match Numeral.decimal? word with
    | some _ => .ok false
    | none => .error ("Illegal number: " ++ String.ofList word)
  | _ => .ok (["-e", "-r", "-w", "-O", "-G"].contains operator && node.isSome)

/-- The truth of an operator for two operands. Files have no age, so that one is newer than
    another only if that is not there. -/
def binary (files : FileSystem) (a : Chars) (operator : String) (b : Chars) :
    Except String Bool :=
  let numbers (f : Int → Int → Bool) : Except String Bool :=
    match Numeral.decimal? a, Numeral.decimal? b with
    | some m, some n => .ok (f m n)
    | none, _ => .error ("Illegal number: " ++ String.ofList a)
    | _, none => .error ("Illegal number: " ++ String.ofList b)
  let place (word : Chars) : Option Location :=
    (files.stat ⟨bytesOf word⟩).toOption.map Prod.fst
  match operator with
  | "=" => .ok (a = b)
  | "!=" => .ok (a ≠ b)
  | "<" => .ok (a < b)
  | ">" => .ok (b < a)
  | "-eq" => numbers fun m n => m = n
  | "-ne" => numbers fun m n => m ≠ n
  | "-lt" => numbers fun m n => m < n
  | "-le" => numbers fun m n => m ≤ n
  | "-gt" => numbers fun m n => m > n
  | "-ge" => numbers fun m n => m ≥ n
  | "-nt" => .ok ((place a).isSome && (place b).isNone)
  | "-ot" => .ok ((place a).isNone && (place b).isSome)
  | _ => .ok ((place a).isSome && place a = place b)

mutual

/-- The truth of conditions joined by `-o`, and the words from the last one on that was taken. -/
def disjunctionFrom (files : FileSystem) :
    Nat → Token → List Chars → Except String (Bool × List Chars)
  | 0, _, words => .ok (false, words)
  | fuel + 1, first, words => do
    let (holds, words) ← conjunctionFrom files fuel first words
    if token (words.drop 1) = .sign .disjunction then
      let (others, words) ← disjunctionFrom files fuel (token (words.drop 2)) (words.drop 2)
      return (holds || others, words)
    else return (holds, words)
termination_by structural fuel => fuel

/-- The truth of conditions joined by `-a`. -/
def conjunctionFrom (files : FileSystem) :
    Nat → Token → List Chars → Except String (Bool × List Chars)
  | 0, _, words => .ok (false, words)
  | fuel + 1, first, words => do
    let (holds, words) ← negationFrom files fuel first words
    if token (words.drop 1) = .sign .conjunction then
      let (others, words) ← conjunctionFrom files fuel (token (words.drop 2)) (words.drop 2)
      return (holds && others, words)
    else return (holds, words)
termination_by structural fuel => fuel

def negationFrom (files : FileSystem) :
    Nat → Token → List Chars → Except String (Bool × List Chars)
  | 0, _, words => .ok (false, words)
  | fuel + 1, first, words => do
    if first = .sign .negation then
      let next := token (words.drop 1)
      let (holds, words) ← negationFrom files fuel next
        (if next = .missing then words else words.drop 1)
      return (!holds, words)
    else primaryFrom files fuel first words
termination_by structural fuel => fuel

/-- The truth of a condition that is not joined. -/
def primaryFrom (files : FileSystem) :
    Nat → Token → List Chars → Except String (Bool × List Chars)
  | 0, _, words => .ok (false, words)
  | fuel + 1, first, words =>
    match first with
    | .missing => .ok (false, words)
    | .sign .opening =>
      let words := words.drop 1
      if token words = .sign .closing then .ok (false, words)
      else do
        let (holds, words) ← disjunctionFrom files fuel (token words) words
        if token (words.drop 1) = .sign .closing then return (holds, words.drop 1)
        else throw "closing paren expected"
    | .sign (.unary operator) =>
      match words with
      | _ :: word :: rest => (unary files operator word).map fun holds => (holds, word :: rest)
      | _ => .error (operator ++ ": argument expected")
    | _ =>
      match token (words.drop 1), words with
      | .sign (.binary operator), a :: _ :: b :: rest =>
        (binary files a operator b).map fun holds => (holds, b :: rest)
      | .sign (.binary operator), _ => .error (operator ++ ": argument expected")
      | _, words => .ok (words.head? ≠ some [], words)
termination_by structural fuel => fuel

end

/-- The truth of a condition as a whole. Three or four words mean what they would on their own
    before they mean anything else. -/
def holdsFrom (files : FileSystem) : Nat → List Chars → Except String Bool
  | 0, _ => .ok false
  | fuel + 1, words => do
    let whole (first : Token) (words : List Chars) : Except String Bool := do
      let (holds, left) ← disjunctionFrom files (8 * words.length + 8) first words
      match left with
      | word :: _ :: _ => throw (String.ofList word ++ ": unexpected operator")
      | _ => return holds
    match words with
    | [] => return false
    | [a, operator, b] =>
      if isBinary (sign? operator) then whole .operand words
      else if a = ['('] ∧ b = [')'] then whole (token [operator]) [operator]
      else if a = ['!'] then return !(← holdsFrom files fuel [operator, b])
      else whole (token words) words
    | [a, b, c, d] =>
      if a = ['('] ∧ d = [')'] then whole (token [b, c]) [b, c]
      else if a = ['!'] then return !(← holdsFrom files fuel [b, c, d])
      else whole (token words) words
    | words => whole (token words) words

/-- The truth of a condition, or what is wrong with its words. -/
def holds (files : FileSystem) (words : List Chars) : Except String Bool :=
  holdsFrom files (words.length + 1) words

end BootChain.Shell.Condition
