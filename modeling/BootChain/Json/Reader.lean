import BootChain.Json
import BootChain.Text.Decimal
import BootChain.Text.Hexadecimal

namespace BootChain.Json

/-- The blanks that may stand around a document. -/
def isGap (c : Char) : Bool :=
  c == ' ' || c == '\t' || c == '\n' || c == '\r'

/-- A text without the blanks at either end. -/
def dropGaps (chars : List Char) : List Char :=
  ((chars.dropWhile isGap).reverse.dropWhile isGap).reverse

/-- The number that four hexadecimal digits denote. -/
def hex4? (a b c d : Char) : Option Nat := do
  let digits ← [a, b, c, d].mapM Hexadecimal.digit?
  return digits.foldl (fun n digit => n * 16 + digit) 0

/-- The character for a letter after a backslash. -/
def unescape? : Char → Option Char
  | '"' => some '"'
  | '\\' => some '\\'
  | '/' => some '/'
  | 'b' => some '\x08'
  | 'f' => some '\x0C'
  | 'n' => some '\n'
  | 'r' => some '\r'
  | 't' => some '\t'
  | _ => none

/-- Reads the rest of a quoted text, and gives the characters with what follows the closing quote.
    A numbered escape of a high surrogate must be followed by one of a low surrogate. -/
def quotedRest? : List Char → Option (List Char × List Char)
  | '"' :: rest => some ([], rest)
  | '\\' :: 'u' :: a :: b :: c :: d :: rest =>
    match hex4? a b c d with
    | none => none
    | some n =>
      if n < 0xD800 ∨ 0xE000 ≤ n then
        (quotedRest? rest).map fun (chars, after) => (Char.ofNat n :: chars, after)
      else
        match rest with
        | '\\' :: 'u' :: e :: f :: g :: h :: rest =>
          match hex4? e f g h with
          | none => none
          | some m =>
            if n < 0xDC00 ∧ 0xDC00 ≤ m ∧ m < 0xE000 then
              let scalar := 0x10000 + (n - 0xD800) * 0x400 + (m - 0xDC00)
              (quotedRest? rest).map fun (chars, after) => (Char.ofNat scalar :: chars, after)
            else none
        | _ => none
  | '\\' :: c :: rest =>
    match unescape? c with
    | none => none
    | some char => (quotedRest? rest).map fun (chars, after) => (char :: chars, after)
  | c :: rest =>
    if c.toNat < 0x20 ∨ c = '\\' then none
    else (quotedRest? rest).map fun (chars, after) => (c :: chars, after)
  | [] => none

/-- Reads a document that is one quoted text. -/
def readText (document : String) : Option String :=
  match dropGaps document.toList with
  | '"' :: rest =>
    match quotedRest? rest with
    | some (chars, []) => some (String.ofList chars)
    | _ => none
  | _ => none

/-- Reads a document that is one whole number without sign, fraction or exponent. Only zero itself
    starts with a zero. -/
def readNat (document : String) : Option Nat :=
  let digits := dropGaps document.toList
  if digits.head? = some '0' ∧ digits.length > 1 then none else Decimal.digits? digits

end BootChain.Json
