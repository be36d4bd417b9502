import BootChain.Text.Replace
import BootChain.Toml.Lexeme

namespace BootChain.Toml

/-- The way a text is written. -/
inductive Form where
  | basic
  | literal
  | longBasic
  | longLiteral
  deriving DecidableEq, Repr

/-- Characters that only an escape can stand for: controls but tabs and line feeds. -/
def needsEscape (c : Char) : Bool := isControl c && c ≠ '\n'

/-- True when some character stands three times in a row. -/
def hasTriple (c : Char) (chars : List Char) : Bool := Text.occursIn (List.replicate 3 c) chars

/-- The form in which a text is written: the plainest that needs no escape except for tabs, and
    otherwise one with escapes. -/
def formOf (chars : List Char) : Form :=
  let escapes := chars.any needsEscape
  let lines := chars.contains '\n'
  let backslash := chars.contains '\\'
  if !backslash && !chars.contains '"' && !lines && !escapes then .basic
  else if !chars.contains '\'' && !lines && !escapes then .literal
  else if !backslash && !escapes && !hasTriple '"' chars then .longBasic
  else if !escapes && !hasTriple '\'' chars then .longLiteral
  else if lines then .longBasic
  else .basic

/-- A character that has to be escaped wherever escapes are read, apart from quotes and line
    feeds. -/
def escapeChar (c : Char) : List Char :=
  if c = '\\' then ['\\', '\\']
  else if c = '\x08' then ['\\', 'b']
  else if c = '\t' then ['\\', 't']
  else if c = '\x0C' then ['\\', 'f']
  else if c = '\r' then ['\\', 'r']
  else if isControl c then
    ['\\', 'u', '0', '0', (c.toNat / 16).digitChar.toUpper, (c.toNat % 16).digitChar.toUpper]
  else [c]

/-- A character of a text with escapes on one line. -/
def basicChar (c : Char) : List Char :=
  if c = '"' then ['\\', '"']
  else if c = '\n' then ['\\', 'n']
  else escapeChar c

/-- The characters of a text with escapes over lines, last first, before those that are written
    already. A third quote in a row is escaped. -/
def longBasicFrom : Nat → List Char → List Char → List Char
  | _, written, [] => written
  | quotes, written, c :: rest =>
    if c = '"' then
      if quotes ≥ 2 then longBasicFrom 0 ('"' :: '\\' :: written) rest
      else longBasicFrom (quotes + 1) ('"' :: written) rest
    else if c = '\n' then longBasicFrom 0 ('\n' :: written) rest
    else longBasicFrom 0 ((escapeChar c).reverse ++ written) rest

/-- A text between three quotes at either end. One that has lines starts on a line of its own. -/
def long (quote : Char) (chars written : List Char) : List Char :=
  let quotes := List.replicate 3 quote
  quotes ++ (if chars.contains '\n' then ['\n'] else []) ++ written ++ quotes

/-- A text as it is written. -/
def quoted (chars : List Char) : List Char :=
  match formOf chars with
  | .basic => '"' :: (chars.flatMap basicChar ++ ['"'])
  | .literal => '\'' :: (chars ++ ['\''])
  | .longBasic => long '"' chars (longBasicFrom 0 [] chars).reverse
  | .longLiteral => long '\'' chars chars

/-- What a setting can be in a document that is written. -/
inductive Setting where
  | text (content : String)
  | number (value : Nat)
  | flag (value : Bool)
  | texts (items : List String)
  deriving DecidableEq, Repr

namespace Setting

/-- The value that is read back. -/
def value : Setting → Value
  | text content => .text content
  | number n => .integer n
  | flag b => .flag b
  | texts items => .list false (items.map .text)

def chars : Setting → List Char
  | text content => quoted content.toList
  | number n => (toString n).toList
  | flag true => "true".toList
  | flag false => "false".toList
  | texts items =>
    '[' :: ([',', ' '].intercalate (items.map fun item => quoted item.toList) ++ [']'])

end Setting

/-- A line that gives a key a value. -/
def settingLine (key : String) (setting : Setting) : List Char :=
  key.toList ++ [' ', '=', ' '] ++ setting.chars ++ ['\n']

/-- A table with its header. -/
def tableText (name : String) (settings : List (String × Setting)) : List Char :=
  let lines := settings.flatMap fun (key, setting) => settingLine key setting
  '[' :: name.toList ++ [']', '\n'] ++ lines

/-- A document: its tables, with an empty line between two of them. -/
def written (tables : List (String × List (String × Setting))) : String :=
  String.ofList (['\n'].intercalate (tables.map fun (name, settings) => tableText name settings))

end BootChain.Toml
