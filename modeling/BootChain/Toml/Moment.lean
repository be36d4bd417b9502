namespace BootChain.Toml

/-- Takes off exactly two digits and gives their number. -/
def twoDigits? : List Char → Option (Nat × List Char)
  | a :: b :: rest =>
    if a.isDigit ∧ b.isDigit then
      some ((a.toNat - '0'.toNat) * 10 + (b.toNat - '0'.toNat), rest)
    else none
  | _ => none

/-- Takes off two digits, the number of which is at most `maximum`. -/
def twoDigitsUpTo? (maximum : Nat) (chars : List Char) : Option (List Char) :=
  match twoDigits? chars with
  | some (n, rest) => if n ≤ maximum then some rest else none
  | none => none

/-- Every fourth year is a leap year, but of the full centuries only every fourth. -/
def isLeapYear (year : Nat) : Bool := year % 4 = 0 && (year % 100 ≠ 0 || year % 400 = 0)

def daysOfMonth (year month : Nat) : Nat :=
  if month = 2 then if isLeapYear year then 29 else 28
  else if month = 4 ∨ month = 6 ∨ month = 9 ∨ month = 11 then 30
  else 31

/-- Takes off a date: four digits of a year and two each of a month and of a day that it has. -/
def dateRest? (chars : List Char) : Option (List Char) := do
  let (century, rest) ← twoDigits? chars
  let (yearOfCentury, rest) ← twoDigits? rest
  let '-' :: rest := rest | none
  let (month, rest) ← twoDigits? rest
  let '-' :: rest := rest | none
  let (day, rest) ← twoDigits? rest
  if 1 ≤ month ∧ month ≤ 12 ∧ 1 ≤ day ∧ day ≤ daysOfMonth (century * 100 + yearOfCentury) month
  then some rest else none

/-- Takes off a fraction of a second, if there is one. -/
def fractionRest? : List Char → Option (List Char)
  | '.' :: c :: rest => if c.isDigit then some (rest.dropWhile Char.isDigit) else none
  | '.' :: [] => none
  | rest => some rest

/-- Takes off a time of day. Its seconds may be left out, or be those of a leap second. -/
def timeRest? (chars : List Char) : Option (List Char) := do
  match ← twoDigitsUpTo? 23 chars with
  | ':' :: rest =>
    match ← twoDigitsUpTo? 59 rest with
    | ':' :: rest => fractionRest? (← twoDigitsUpTo? 60 rest)
    | rest => return rest
  | _ => none

/-- Takes off the offset of a zone, if there is one. -/
def offsetRest? : List Char → Option (List Char)
  | [] => some []
  | c :: rest =>
    if c = 'Z' ∨ c = 'z' then some rest
    else if c = '+' ∨ c = '-' then do
      let ':' :: rest ← twoDigitsUpTo? 23 rest | none
      twoDigitsUpTo? 59 rest
    else none

/-- A date alone. -/
def isDate (word : List Char) : Bool := dateRest? word = some []

/-- A date, a time of day, or a date and a time of it with the offset of a zone or without. The
    letter between the two may be replaced with a blank. -/
def isMoment (word : List Char) : Bool :=
  match dateRest? word with
  | some [] => true
  | some (c :: rest) =>
    (c = 'T' || c = 't' || c = ' ') && (timeRest? rest).bind offsetRest? = some []
  | none => timeRest? word = some []

end BootChain.Toml
