import BootChain.Text.Printable

namespace BootChain.Text

/-- Lower-case hexadecimal digits of a number. -/
def hexDigits (n : Nat) : List Char :=
  Nat.toDigits 16 n

/-- How a character is shown between back quotes. One that would attach to what stands before it
    is spelled out where nothing of the text does, which is what `leading` says. -/
def showChar (leading : Bool) (c : Char) : List Char :=
  if c = '\x00' then ['\\', '0']
  else if c = '\t' then ['\\', 't']
  else if c = '\r' then ['\\', 'r']
  else if c = '\n' then ['\\', 'n']
  else if c = '\'' || c = '"' || c = '\\' then ['\\', c]
  else if (leading && isGraphemeExtend c) || !isPrintable c then
    ['\\', 'u', '{'] ++ hexDigits c.toNat ++ ['}']
  else [c]

/-- A text on one line, with every character visible. -/
def showChars : List Char → List Char
  | [] => []
  | c :: rest => showChar true c ++ rest.flatMap (showChar false)

/-- A text on one line, with every character visible. -/
def shown (text : String) : String :=
  String.ofList (showChars text.toList)

end BootChain.Text
