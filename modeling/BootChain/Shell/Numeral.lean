import BootChain.Shell

/-!
Numbers in words: how much of a word is a number, and how a number is laid out.
-/

namespace BootChain.Shell

/-- The decimal number at the start of some characters, and what follows. -/
def numberAt (chars : Chars) : Nat × Chars :=
  let (digits, rest) := chars.span Char.isDigit
  (digits.foldl (fun n d => n * 10 + (d.toNat - '0'.toNat)) 0, rest)

def isOctal (c : Char) : Bool := '0' ≤ c && c ≤ '7'

/-- The value of a digit of a base up to sixteen. -/
def digitOf? (base : Nat) (c : Char) : Option Nat :=
  let value :=
    if c.isDigit then c.toNat - '0'.toNat
    else if 'a' ≤ c.toLower ∧ c.toLower ≤ 'f' then c.toLower.toNat - 'a'.toNat + 10
    else 16
  if value < base then some value else none

def isSpace (c : Char) : Bool := c = ' ' || ('\t' ≤ c && c ≤ '\r')

/-- A number at the start of a word. -/
structure Numeral where
  value : Int
  /-- True if it has any digits. -/
  found : Bool
  rest : Chars

namespace Numeral

/-- Reads the digits of a base. -/
def digits (base : Nat) (chars : Chars) : Numeral :=
  let (run, rest) := chars.span fun c => (digitOf? base c).isSome
  ⟨Int.ofNat (run.foldl (fun n c => n * base + (digitOf? base c).getD 0) 0), run ≠ [], rest⟩

/-- Reads digits in the base that they are marked with: `0x` for sixteen, a zero for eight. -/
def marked (chars : Chars) : Numeral :=
  match chars with
  | '0' :: x :: rest =>
    if (x = 'x' ∨ x = 'X') ∧ (digits 16 rest).found then digits 16 rest else digits 8 chars
  | chars => digits 10 chars

/-- Reads a number with blanks and a sign before it. -/
def signed (read : Chars → Numeral) (word : Chars) : Numeral :=
  let chars := word.dropWhile isSpace
  let (negative, chars) := match chars with
    | '-' :: rest => (true, rest)
    | '+' :: rest => (false, rest)
    | chars => (false, chars)
  let numeral := read chars
  if numeral.found then { numeral with value := if negative then -numeral.value else numeral.value }
  else ⟨0, false, word⟩

def maxWord : Int := 9223372036854775807

def minWord : Int := -9223372036854775808

/-- True of a number that a machine word holds. -/
def fits (n : Int) : Bool := minWord ≤ n && n ≤ maxWord

/-- The nearest number that a machine word holds. -/
def clamped (n : Int) : Int := max minWord (min maxWord n)

/-- The number that a whole word denotes, with blanks around it. -/
def whole? (read : Chars → Numeral) (word : Chars) : Option Int :=
  let numeral := signed read word
  if numeral.found ∧ fits numeral.value ∧ numeral.rest.all isSpace then some numeral.value
  else none

/-- The decimal number that a whole word denotes. -/
def decimal? (word : Chars) : Option Int := whole? (digits 10) word

/-- The number that the value of a variable stands for in arithmetic: zero if it is blank. -/
def ofValue? (word : Chars) : Option Int :=
  if word.all isSpace then some 0 else whole? marked word

end Numeral

/-- A binary fraction: a whole number times a power of two. -/
structure BinaryFraction where
  negative : Bool
  mantissa : Nat
  exponent : Int
  deriving DecidableEq, Repr

namespace BinaryFraction

/-- The exact value of a floating-point number, unless it is infinite or none. -/
def ofFloat? (x : Float) : Option BinaryFraction :=
  let bits := x.toBits.toNat
  let negative := bits / 9223372036854775808 = 1
  let exponent := bits / 4503599627370496 % 2048
  let fraction := bits % 4503599627370496
  if exponent = 2047 then none
  else if exponent = 0 then some ⟨negative, fraction, -1074⟩
  else some ⟨negative, fraction + 4503599627370496, Int.ofNat exponent - 1075⟩

/-- The nearest whole number to a quotient; of two that are as near, the even one. -/
def roundedQuotient (n d : Nat) : Nat :=
  let q := n / d
  let twice := 2 * (n % d)
  if twice > d ∨ (twice = d ∧ q % 2 = 1) then q + 1 else q

/-- The nearest whole number to the value times a power of ten. -/
def scaled (x : BinaryFraction) (places : Int) : Nat :=
  let above := x.mantissa * (1 <<< x.exponent.toNat) * Nat.pow 10 places.toNat
  let below := (1 <<< (-x.exponent).toNat) * Nat.pow 10 (-places).toNat
  roundedQuotient above below

/-- A number's digits with so many of them after the point. -/
def pointed (n places : Nat) : Chars :=
  let digits := (toString n).toList
  let digits := List.replicate (places + 1 - digits.length) '0' ++ digits
  let whole := digits.take (digits.length - places)
  if places = 0 then whole else whole ++ '.' :: digits.drop (digits.length - places)

/-- The value with so many decimals, without its sign. -/
def fixed (x : BinaryFraction) (places : Nat) : Chars := pointed (x.scaled places) places

/-- The power of ten of the value's first digit. -/
def decade (x : BinaryFraction) : Int :=
  if x.mantissa = 0 then 0
  else
    let isBelow (d : Int) : Bool :=
      x.mantissa * (1 <<< x.exponent.toNat) * Nat.pow 10 (-d).toNat <
        (1 <<< (-x.exponent).toNat) * Nat.pow 10 d.toNat
    -- Off by at most one, because the binary logarithm is cut off.
    let estimate : Int := (Int.ofNat x.mantissa.log2 + x.exponent) * 30103 / 100000
    if isBelow estimate then estimate - 1
    else if isBelow (estimate + 1) then estimate
    else estimate + 1

/-- The digits of the value in scientific form, one of them before the point, and its decade. -/
def digitsAndDecade (x : BinaryFraction) (places : Nat) : Nat × Int :=
  let decade := x.decade
  let n := x.scaled (Int.ofNat places - decade)
  if n ≥ Nat.pow 10 (places + 1) then (n / 10, decade + 1) else (n, decade)

/-- A power of ten in scientific form: a sign and at least two digits. -/
def exponentText (decade : Int) : Chars :=
  let digits := (toString decade.natAbs).toList
  (if decade < 0 then '-' else '+') :: (if digits.length < 2 then '0' :: digits else digits)

/-- The value in scientific form, without its sign. -/
def scientific (x : BinaryFraction) (places : Nat) : Chars :=
  let (n, decade) := x.digitsAndDecade places
  pointed n places ++ 'e' :: exponentText decade

/-- A number's text without the zeros at the end of its decimals. -/
def withoutZeros (text : Chars) : Chars :=
  if text.contains '.' then
    ((text.reverse.dropWhile (· = '0')).dropWhile (· = '.')).reverse
  else text

/-- The value with so many digits, in scientific form only if it is very great or very small,
    without its sign. -/
def general (x : BinaryFraction) (digits : Nat) : Chars :=
  let digits := max 1 digits
  let (n, decade) := x.digitsAndDecade (digits - 1)
  if decade < -4 ∨ decade ≥ digits then
    withoutZeros (pointed n (digits - 1)) ++ 'e' :: exponentText decade
  else withoutZeros (x.fixed (Int.ofNat digits - 1 - decade).toNat)

/-- The floating-point number at the start of a word. -/
def floatAt (word : Chars) : Float × Bool × Chars :=
  let chars := word.dropWhile isSpace
  let (negative, chars) := match chars with
    | '-' :: rest => (true, rest)
    | '+' :: rest => (false, rest)
    | chars => (false, chars)
  let (whole, rest) := chars.span Char.isDigit
  let (decimals, rest) := match rest with
    | '.' :: after =>
      let (decimals, rest) := after.span Char.isDigit
      if whole = [] ∧ decimals = [] then ([], '.' :: after) else (decimals, rest)
    | rest => ([], rest)
  if whole = [] ∧ decimals = [] then (0, false, word)
  else
    let (power, rest) := match rest with
      | e :: after =>
        let numeral := Numeral.signed (Numeral.digits 10) after
        if (e = 'e' ∨ e = 'E') ∧ numeral.found ∧ !isSpace (after.headD ' ') then
          (numeral.value, numeral.rest)
        else (0, rest)
      | rest => (0, rest)
    let mantissa := (numberAt (whole ++ decimals)).1
    let power := power - decimals.length
    let x := Float.ofScientific mantissa (power < 0) power.natAbs
    (if negative then -x else x, true, rest)

end BinaryFraction

end BootChain.Shell
