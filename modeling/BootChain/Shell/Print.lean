import BootChain.Shell.Numeral

/-!
The commands that print: `echo`, which joins its words, and `printf`, which fits them in a format.
-/

namespace BootChain.Shell

/-- The octet that up to three octal digits denote. -/
def octalChar (digits : Chars) : Char :=
  Char.ofNat (digits.foldl (fun n d => n * 8 + (d.toNat - '0'.toNat)) 0 % 256)

/-- The character for a letter after a backslash. -/
def escapeFor? : Char → Option Char
  | 'a' => some '\x07'
  | 'b' => some '\x08'
  | 'f' => some '\x0C'
  | 'n' => some '\n'
  | 'r' => some '\r'
  | 't' => some '\t'
  | 'v' => some '\x0B'
  | '\\' => some '\\'
  | _ => none

/-- A text with its escapes replaced, and whether it was cut short by the escape that ends all
    output. An octal escape starts with a zero, if `zeroed`, and has up to three digits more. -/
def unescapeFrom (zeroed : Bool) : Nat → Chars → Chars → Chars × Bool
  | 0, read, _ => (read.reverse, false)
  | fuel + 1, read, chars =>
    match chars with
    | '\\' :: c :: rest =>
      if c = 'c' then (read.reverse, true)
      else if isOctal c ∧ (!zeroed ∨ c = '0') then
        let digits := ((if zeroed then rest else c :: rest).take 3).takeWhile isOctal
        let rest := (if zeroed then rest else c :: rest).drop digits.length
        unescapeFrom zeroed fuel (octalChar digits :: read) rest
      else
        match escapeFor? c with
        | some d => unescapeFrom zeroed fuel (d :: read) rest
        | none => unescapeFrom zeroed fuel (c :: '\\' :: read) rest
    | c :: rest => unescapeFrom zeroed fuel (c :: read) rest
    | [] => (read.reverse, false)

def unescape (zeroed : Bool) (chars : Chars) : Chars × Bool :=
  unescapeFrom zeroed (chars.length + 1) [] chars

/-- The output of the command that prints its arguments, which knows escapes. -/
def echoed (args : List Chars) : Chars :=
  let (words, newline) := match args with
    | ['-', 'n'] :: words => (words, false)
    | words => (words, true)
  let (text, cut) := unescape true ([' '].intercalate words)
  if newline && !cut then text ++ ['\n'] else text

/-- The output of the program that prints its arguments, which knows escapes only if it is asked
    to. Options are words of the letters `n`, `e` and `E`. -/
def echoedPlainly (args : List Chars) : Chars :=
  let isOption (word : Chars) : Bool :=
    match word with
    | '-' :: c :: letters => (c :: letters).all ['n', 'e', 'E'].contains
    | _ => false
  let (options, words) := args.span isOption
  let letters := options.flatten
  let escapes := (letters.filter fun c => c = 'e' || c = 'E').getLast? = some 'e'
  let text := [' '].intercalate words
  let (text, cut) := if escapes then unescape true text else (text, false)
  if letters.contains 'n' || cut then text else text ++ ['\n']

/-- How a value is laid out in a format. -/
structure Layout where
  flags : Chars := []
  width : Nat := 0
  precision : Option Nat := none

namespace Layout

def has (layout : Layout) (flag : Char) : Bool := layout.flags.contains flag

/-- A text with blanks up to the width. -/
def pad (layout : Layout) (text : Chars) : Chars :=
  let missing := List.replicate (layout.width - text.length) ' '
  if layout.has '-' then text ++ missing else missing ++ text

/-- A number with its sign, its mark and its digits, filled up with zeros if they are asked
    for. -/
def padNumber (layout : Layout) (zeros : Bool) (sign digits : Chars) : Chars :=
  let missing := layout.width - (sign.length + digits.length)
  if zeros ∧ layout.has '0' ∧ !layout.has '-' then
    sign ++ List.replicate missing '0' ++ digits
  else layout.pad (sign ++ digits)

def signOf (layout : Layout) (negative : Bool) : Chars :=
  if negative then ['-']
  else if layout.has '+' then ['+']
  else if layout.has ' ' then [' ']
  else []

/-- Digits with zeros up to the precision. No digits are left of a zero that needs none. -/
def precise (layout : Layout) (digits : Chars) : Chars :=
  match layout.precision with
  | some 0 => if digits = ['0'] then [] else digits
  | some n => List.replicate (n - digits.length) '0' ++ digits
  | none => digits

/-- A whole number in a base, with the mark of that base if it is asked for. -/
def whole (layout : Layout) (sign : Chars) (base : Nat) (mark : String) (n : Nat) : Chars :=
  let digits := layout.precise (Nat.toDigits base n)
  let marked := layout.has '#' ∧ n ≠ 0
  let sign := if marked ∧ base = 16 then sign ++ mark.toList else sign
  let digits := if marked ∧ base = 8 ∧ digits.head? ≠ some '0' then '0' :: digits else digits
  layout.padNumber layout.precision.isNone sign digits

/-- A floating-point number in the form that a letter asks for. -/
def floating (layout : Layout) (letter : Char) (x : Float) : Chars :=
  match BinaryFraction.ofFloat? x with
  | none =>
    let negative := x < 0
    layout.pad (layout.signOf negative ++ (if x.isNaN then "nan" else "inf").toList)
  | some fraction =>
    let places := layout.precision.getD 6
    let digits :=
      if letter.toLower = 'f' then fraction.fixed places
      else if letter.toLower = 'e' then fraction.scientific places
      else fraction.general places
    let digits := if letter.isUpper then digits.map Char.toUpper else digits
    layout.padNumber true (layout.signOf fraction.negative) digits

end Layout

/-- What a format has printed so far, last first, the arguments that are left, and the complaints
    about those that did not fit. -/
structure Printing where
  printed : Chars := []
  args : List Chars := []
  complaints : List String := []
  /-- True once nothing more is printed. -/
  finished : Bool := false

namespace Printing

def put (printing : Printing) (text : Chars) : Printing :=
  { printing with printed := text.reverse ++ printing.printed }

def complain (printing : Printing) (word : Chars) (message : String) : Printing :=
  let complaint := String.ofList word ++ ": " ++ message
  { printing with complaints := printing.complaints ++ [complaint] }

/-- The next argument. -/
def next (printing : Printing) : Option Chars × Printing :=
  (printing.args.head?, { printing with args := printing.args.tail })

/-- Complains of a word that is no number as a whole. -/
def checked (printing : Printing) (word rest : Chars) (found : Bool) : Printing :=
  if rest = [] then printing
  else if found then printing.complain word "not completely converted"
  else printing.complain word "expected numeric value"

/-- The next argument as a whole number. A quotation mark gives the number of the character after
    it. -/
def nextInt (printing : Printing) : Int × Printing :=
  match printing.next with
  | (none, printing) => (0, printing)
  | (some word, printing) =>
    match word with
    | '"' :: rest => ((rest.head?.map fun c => Int.ofNat c.toNat).getD 0, printing)
    | '\'' :: rest => ((rest.head?.map fun c => Int.ofNat c.toNat).getD 0, printing)
    | word =>
      let numeral := Numeral.signed Numeral.marked word
      let printing := printing.checked word numeral.rest numeral.found
      let printing :=
        if Numeral.fits numeral.value then printing
        else printing.complain word "Numerical result out of range"
      (Numeral.clamped numeral.value, printing)

/-- The next argument as a floating-point number. -/
def nextFloat (printing : Printing) : Float × Printing :=
  match printing.next with
  | (none, printing) => (0, printing)
  | (some word, printing) =>
    let (x, found, rest) := BinaryFraction.floatAt word
    (x, printing.checked word rest found)

/-- The number of a width or a precision: digits, or the next argument for a star. -/
def measure (printing : Printing) (chars : Chars) : Int × Chars × Printing :=
  match chars with
  | '*' :: rest =>
    let (n, printing) := printing.nextInt
    (n, rest, printing)
  | chars =>
    let (n, rest) := numberAt chars
    (Int.ofNat n, rest, printing)

/-- Reads the layout after a percent sign. -/
def layoutAt (printing : Printing) (chars : Chars) : Layout × Chars × Printing :=
  let (flags, rest) := chars.span ['-', '0', '+', ' ', '#'].contains
  let (width, rest, printing) := printing.measure rest
  let flags := if width < 0 then '-' :: flags else flags
  match rest with
  | '.' :: rest =>
    let (precision, rest, printing) := printing.measure rest
    let precision := if precision < 0 then none else some precision.toNat
    (⟨flags, width.natAbs, precision⟩, rest, printing)
  | rest => (⟨flags, width.natAbs, none⟩, rest, printing)

/-- Prints one value as a letter asks for it; nothing for a letter that asks for none. -/
def convert? (printing : Printing) (layout : Layout) (letter : Char) : Option Printing :=
  let unsigned (n : Int) : Nat := (if n < 0 then n + 18446744073709551616 else n).toNat
  let whole (base : Nat) (mark : String) : Printing :=
    let (n, printing) := printing.nextInt
    printing.put (layout.whole [] base mark (unsigned n))
  match letter with
  | 's' =>
    let (word, printing) := printing.next
    let word := word.getD []
    some (printing.put (layout.pad (match layout.precision with
      | some n => word.take n
      | none => word)))
  | 'b' =>
    let (word, printing) := printing.next
    let (text, cut) := unescape true (word.getD [])
    let text := match layout.precision with
      | some n => text.take n
      | none => text
    some { printing.put (if cut then text else layout.pad text) with finished := cut }
  | 'c' =>
    let (word, printing) := printing.next
    some (printing.put (layout.pad ((word.getD []).take 1)))
  | 'd' =>
    let (n, printing) := printing.nextInt
    some (printing.put (layout.whole (layout.signOf (n < 0)) 10 "" n.natAbs))
  | 'i' =>
    let (n, printing) := printing.nextInt
    some (printing.put (layout.whole (layout.signOf (n < 0)) 10 "" n.natAbs))
  | 'u' => some (whole 10 "")
  | 'o' => some (whole 8 "")
  | 'x' => some (whole 16 "0x")
  | 'X' =>
    let (n, printing) := printing.nextInt
    let text := layout.whole [] 16 "0x" (unsigned n)
    some (printing.put (text.map Char.toUpper))
  | _ =>
    if ['e', 'E', 'f', 'F', 'g', 'G'].contains letter then
      let (x, printing) := printing.nextFloat
      some (printing.put (layout.floating letter x))
    else none

/-- Goes through a format once. -/
def passFrom : Nat → Chars → Printing → Printing
  | 0, _, printing => printing
  | fuel + 1, format, printing =>
    if printing.finished then printing
    else match format with
    | [] => printing
    | '%' :: '%' :: rest => passFrom fuel rest (printing.put ['%'])
    | '%' :: rest =>
      let (layout, after, taken) := printing.layoutAt rest
      match after with
      | [] => { taken with
          complaints := taken.complaints ++ ["missing format character"], finished := true }
      | letter :: after =>
        match taken.convert? layout letter with
        | some printing => passFrom fuel after printing
        | none =>
          let directive := format.take (format.length - after.length)
          { taken.complain directive "invalid directive" with finished := true }
    | '\\' :: c :: rest =>
      if isOctal c then
        let digits := ((c :: rest).take 3).takeWhile isOctal
        passFrom fuel ((c :: rest).drop digits.length) (printing.put [octalChar digits])
      else
        match escapeFor? c with
        | some d => passFrom fuel rest (printing.put [d])
        | none => passFrom fuel rest (printing.put ['\\', c])
    | c :: rest => passFrom fuel rest (printing.put [c])

/-- Goes through a format as long as arguments are left and it takes some. -/
def passesFrom (format : Chars) : Nat → Printing → Printing
  | 0, printing => printing
  | fuel + 1, printing =>
    let after := passFrom (format.length + 1) format printing
    if after.finished ∨ after.args = [] ∨ after.args.length = printing.args.length then after
    else passesFrom format fuel after

end Printing

/-- What a format prints with some arguments, and the complaints about them. -/
def formatted (format : Chars) (args : List Chars) : Chars × List String :=
  let printing := Printing.passesFrom format (args.length + 1) { args }
  (printing.printed.reverse, printing.complaints)

end BootChain.Shell
