namespace BootChain.Decimal

def isDigit (c : Char) : Bool :=
  '0' ≤ c && c ≤ '9'

/-- The number that a run of decimal digits denotes. -/
def value (digits : List Char) : Nat :=
  digits.foldl (fun n c => n * 10 + (c.toNat - '0'.toNat)) 0

/-- Reads one or more digits, and nothing else. -/
def digits? (chars : List Char) : Option Nat :=
  if !chars.isEmpty && chars.all isDigit then some (value chars) else none

/-- Reads digits after at most one plus sign, up to `bound`. -/
def readUpTo (bound : Nat) (chars : List Char) : Option Nat :=
  let unsigned := match chars with
    | '+' :: rest => rest
    | _ => chars
  (digits? unsigned).filter (· ≤ bound)

/-- The greatest number that 32 bits hold. -/
def maxHalfWord : Nat := 4294967295

/-- The greatest number that a 64-bit word holds. -/
def maxWord : Nat := 18446744073709551615

end BootChain.Decimal
