import BootChain.Text.Hexadecimal
import BootChain.Toml
import BootChain.Toml.Moment

namespace BootChain.Toml

/-- Blanks within a line. -/
def isBlank (c : Char) : Bool := c = ' ' || c = '\t'

def skipBlanks (chars : List Char) : List Char := chars.dropWhile isBlank

/-- Control characters other than the tab. No document holds them, save line ends. -/
def isControl (c : Char) : Bool := (c.toNat < 0x20 && c ≠ '\t') || c.toNat = 0x7F

/-- True where a line ends: at a line feed, or at a carriage return with a line feed after it. -/
def endsLine (c : Char) (rest : List Char) : Bool :=
  c = '\n' || (c = '\r' && rest.head? = some '\n')

/-- Takes off a line end. -/
def lineEnd? : List Char → Option (List Char)
  | '\n' :: rest => some rest
  | '\r' :: '\n' :: rest => some rest
  | _ => none

/-- Takes off blanks, line ends and comments. The flag says that a comment is under way. -/
def skipGaps : Bool → List Char → Option (List Char)
  | _, [] => some []
  | true, c :: rest =>
    if c = '\n' then skipGaps false rest
    else if endsLine c rest then skipGaps true rest
    else if isControl c then none
    else skipGaps true rest
  | false, c :: rest =>
    if isBlank c || endsLine c rest then skipGaps false rest
    else if c = '#' then skipGaps true rest
    else some (c :: rest)

/-- Takes off what may stand after a statement: blanks, a comment and a line end. -/
def endStatement? (chars : List Char) : Option (List Char) :=
  let rest := skipBlanks chars
  let (comment, rest) := match rest with
    | '#' :: after => after.span fun c => c ≠ '\n' && c ≠ '\r'
    | _ => ([], rest)
  if comment.any isControl then none
  else if rest = [] then some []
  else lineEnd? rest

/-- Where the reader of a text with escapes stands. -/
inductive Mode where
  | plain
  /-- After a backslash. -/
  | escape
  /-- Within the digits of a numbered escape: how many are left, and the value of the others. -/
  | code (wanted value : Nat)
  /-- After a backslash at the end of a line, where blanks and line ends are passed over. -/
  | fold
  deriving DecidableEq, Repr

/-- What the character after a backslash stands for, or what it starts. -/
def afterBackslash? : Char → Option (Mode × List Char)
  | 'b' => some (.plain, ['\x08'])
  | 't' => some (.plain, ['\t'])
  | 'n' => some (.plain, ['\n'])
  | 'f' => some (.plain, ['\x0C'])
  | 'r' => some (.plain, ['\r'])
  | 'e' => some (.plain, ['\x1B'])
  | '"' => some (.plain, ['"'])
  | '\\' => some (.plain, ['\\'])
  | 'x' => some (.code 2 0, [])
  | 'u' => some (.code 4 0, [])
  | 'U' => some (.code 8 0, [])
  | _ => none

/-- Takes in a digit of a numbered escape, which must denote a character in the end. -/
def afterDigit? (wanted value : Nat) (c : Char) : Option (Mode × List Char) :=
  match Hexadecimal.digit? c with
  | none => none
  | some digit =>
    let value := value * 16 + digit
    if wanted > 1 then some (.code (wanted - 1) value, [])
    else if value.isValidChar then some (.plain, [Char.ofNat value])
    else none

/-- The text of characters that were read, last first. -/
def textOf (read : List Char) : String := String.ofList read.reverse

/-- Reads a text with escapes on one line, after its opening quote. -/
def basicRest : Mode → List Char → List Char → Option (String × List Char)
  | _, _, [] => none
  | .code wanted value, read, c :: rest =>
    match afterDigit? wanted value c with
    | some (mode, chars) => basicRest mode (chars ++ read) rest
    | none => none
  | .escape, read, c :: rest =>
    match afterBackslash? c with
    | some (mode, chars) => basicRest mode (chars ++ read) rest
    | none => none
  | _, read, c :: rest =>
    if c = '"' then some (textOf read, rest)
    else if c = '\\' then basicRest .escape read rest
    else if isControl c then none
    else basicRest .plain (c :: read) rest

/-- Ends a text over lines after three quotes: up to two more of them belong to the text. -/
def closeLong (quote : Char) (read rest : List Char) : String × List Char :=
  match rest with
  | c :: d :: after =>
    if c = quote then
      if d = quote then (textOf (quote :: quote :: read), after)
      else (textOf (quote :: read), d :: after)
    else (textOf read, rest)
  | [c] => if c = quote then (textOf (quote :: read), []) else (textOf read, rest)
  | [] => (textOf read, [])

/-- True where a backslash has nothing but blanks between it and the end of its line. -/
def foldsLine (rest : List Char) : Bool := (lineEnd? (skipBlanks rest)).isSome

/-- Reads a text with escapes over lines, after its opening quotes. -/
def longBasicRest : Mode → List Char → List Char → Option (String × List Char)
  | _, _, [] => none
  | .code wanted value, read, c :: rest =>
    match afterDigit? wanted value c with
    | some (mode, chars) => longBasicRest mode (chars ++ read) rest
    | none => none
  | .escape, read, c :: rest =>
    if foldsLine (c :: rest) then longBasicRest .fold read rest
    else match afterBackslash? c with
      | some (mode, chars) => longBasicRest mode (chars ++ read) rest
      | none => none
  | mode, read, c :: rest =>
    if mode = .fold ∧ (isBlank c ∨ endsLine c rest) then longBasicRest .fold read rest
    else if c = '"' then
      match rest with
      | '"' :: '"' :: after => some (closeLong '"' read after)
      | _ => longBasicRest .plain ('"' :: read) rest
    else if c = '\\' then longBasicRest .escape read rest
    else if isControl c && !endsLine c rest then none
    else longBasicRest .plain (c :: read) rest

/-- Reads a text without escapes on one line, after its opening quote. -/
def literalRest (chars : List Char) : Option (String × List Char) :=
  match chars.span (· ≠ '\'') with
  | (content, _ :: rest) =>
    if content.any isControl then none else some (String.ofList content, rest)
  | (_, []) => none

/-- Reads a text without escapes over lines, after its opening quotes. -/
def longLiteralRest : List Char → List Char → Option (String × List Char)
  | _, [] => none
  | read, c :: rest =>
    if c = '\'' then
      match rest with
      | '\'' :: '\'' :: after => some (closeLong '\'' read after)
      | _ => longLiteralRest ('\'' :: read) rest
    else if isControl c && !endsLine c rest then none
    else longLiteralRest (c :: read) rest

/-- The characters after a line end, if they start with one. -/
def dropLineEnd (chars : List Char) : List Char := (lineEnd? chars).getD chars

/-- Reads a text on one line. -/
def shortText? : List Char → Option (String × List Char)
  | '"' :: rest => basicRest .plain [] rest
  | '\'' :: rest => literalRest rest
  | _ => none

/-- Reads a text. A line end right after three opening quotes is dropped. -/
def text? : List Char → Option (String × List Char)
  | '"' :: '"' :: '"' :: rest => longBasicRest .plain [] (dropLineEnd rest)
  | '\'' :: '\'' :: '\'' :: rest => longLiteralRest [] (dropLineEnd rest)
  | chars => shortText? chars

/-- Characters of a key without quotes. -/
def isKeyChar (c : Char) : Bool :=
  ('a' ≤ c && c ≤ 'z') || ('A' ≤ c && c ≤ 'Z') || ('0' ≤ c && c ≤ '9') || c = '_' || c = '-'

/-- Reads one part of a key. -/
def keyPart? (chars : List Char) : Option (String × List Char) :=
  match chars.span isKeyChar with
  | ([], _) => shortText? chars
  | (name, rest) => some (String.ofList name, rest)

/-- Reads the digits of a number, among which single underscores may stand. The flag says that
    the last character was a digit. -/
def digitsFrom (base : Nat) : Bool → Nat → List Char → Option Nat
  | afterDigit, n, [] => if afterDigit then some n else none
  | afterDigit, n, c :: rest =>
    if c = '_' then if afterDigit then digitsFrom base false n rest else none
    else match Hexadecimal.digit? c with
      | none => none
      | some digit => if digit < base then digitsFrom base true (n * base + digit) rest else none

/-- Reads a decimal number, which has no leading zero. -/
def decimal? (chars : List Char) : Option Nat :=
  if chars.length > 1 ∧ chars.head? = some '0' then none else digitsFrom 10 false 0 chars

/-- Reads a whole number. Only a decimal one may have a sign. -/
def integer? : List Char → Option Int
  | '0' :: 'x' :: digits => (digitsFrom 16 false 0 digits).map Int.ofNat
  | '0' :: 'o' :: digits => (digitsFrom 8 false 0 digits).map Int.ofNat
  | '0' :: 'b' :: digits => (digitsFrom 2 false 0 digits).map Int.ofNat
  | '+' :: digits => (decimal? digits).map Int.ofNat
  | '-' :: digits => (decimal? digits).map fun n => -Int.ofNat n
  | digits => (decimal? digits).map Int.ofNat

/-- The characters after a sign, if there is one. -/
def unsigned : List Char → List Char
  | '+' :: rest => rest
  | '-' :: rest => rest
  | chars => chars

/-- Takes off the longest run of digits and underscores. -/
def digitRun (chars : List Char) : List Char × List Char :=
  chars.span fun c => c.isDigit || c = '_'

/-- True of digits among which single underscores may stand. -/
def isDigits (chars : List Char) : Bool := (digitsFrom 10 false 0 chars).isSome

/-- True of an exponent from its letter on, or of nothing. -/
def isExponent : List Char → Bool
  | [] => true
  | c :: rest => (c = 'e' || c = 'E') && isDigits (unsigned rest)

/-- True of a number with a fraction or an exponent. Digits stand on both sides of the point, and
    those before it have no leading zero. -/
def isFraction (word : List Char) : Bool :=
  let (whole, rest) := digitRun (unsigned word)
  (decimal? whole).isSome &&
    match rest with
    | [] => false
    | '.' :: rest =>
      let (digits, rest) := digitRun rest
      isDigits digits && isExponent rest
    | rest => isExponent rest

/-- True of an infinite number, and of what is no number. -/
def isUnbounded (word : List Char) : Bool :=
  unsigned word = "inf".toList || unsigned word = "nan".toList

/-- Characters of a value without quotes. -/
def isWordChar (c : Char) : Bool :=
  isKeyChar c || c = '+' || c = '.' || c = ':'

/-- Takes off a value without quotes. A blank may stand between a date and a time. -/
def wordFrom (chars : List Char) : List Char × List Char :=
  match chars.span isWordChar with
  | (word, ' ' :: c :: rest) =>
    if isDate word && c.isDigit then
      let (time, rest) := (c :: rest).span isWordChar
      (word ++ ' ' :: time, rest)
    else (word, ' ' :: c :: rest)
  | (word, rest) => (word, rest)

/-- The value that a word without quotes denotes. -/
def word? (word : List Char) : Option Value :=
  if word = "true".toList then some (.flag true)
  else if word = "false".toList then some (.flag false)
  else if isFraction word || isUnbounded word then some (.fraction (String.ofList word))
  else if isMoment word then some (.moment (String.ofList word))
  else (integer? word).map .integer

end BootChain.Toml
