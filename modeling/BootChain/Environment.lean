import BootChain.Path
import BootChain.Text.Blank
import BootChain.Text.Decimal

namespace BootChain

/-- The variables that are set, with their values. -/
structure Environment where
  values : List (String × Bytes) := []

/-- Why the value of a variable is refused. Each cause names the variable. -/
inductive SettingError where
  | notUtf8 (name : String)
  | blank (name : String)
  | notANumber (name : String)
  | zero (name : String)
  | aboveMaximum (name : String) (maximum : Nat)
  | notAFlag (name : String)
  deriving DecidableEq, Repr

def SettingError.message : SettingError → String
  | notUtf8 name => name ++ " must be valid UTF-8"
  | blank name => name ++ " must not be empty"
  | notANumber name => name ++ " must be a positive integer"
  | zero name => name ++ " must be greater than zero"
  | aboveMaximum name maximum => name ++ " must be at most " ++ toString maximum
  | notAFlag name => name ++ " must be 1, 0, true, or false"

namespace Environment

/-- The text of a variable, if it is set. -/
def text? (env : Environment) (name : String) : Except SettingError (Option String) :=
  match env.values.lookup name with
  | none => .ok none
  | some bytes =>
    match Utf8.text? bytes with
    | some text => .ok (some text)
    | none => .error (.notUtf8 name)

/-- The text of a variable, if it is set; it must not be blank then. -/
def filled? (env : Environment) (name : String) : Except SettingError (Option String) := do
  match ← env.text? name with
  | some text => if Text.isBlankText text then .error (.blank name) else return some text
  | none => return none

/-- Reads a number from one to `maximum`, with blanks around it and perhaps a plus sign. -/
def boundedOf (name : String) (maximum : Nat) (text : String) : Except SettingError Nat :=
  match Decimal.readUpTo Decimal.maxWord (Text.trim text).toList with
  | none => .error (.notANumber name)
  | some n =>
    if n = 0 then .error (.zero name)
    else if n > maximum then .error (.aboveMaximum name maximum)
    else .ok n

/-- Reads a flag, with blanks around it; the case of letters does not matter. -/
def flagOf (name text : String) : Except SettingError Bool :=
  let word := (Text.trim text).toList.map Char.toLower
  if word = "true".toList ∨ word = ['1'] then .ok true
  else if word = "false".toList ∨ word = ['0'] then .ok false
  else .error (.notAFlag name)

/-- A variable that holds a number from one to `maximum`, if it is set. -/
def bounded? (env : Environment) (name : String) (maximum : Nat) :
    Except SettingError (Option Nat) := do
  match ← env.filled? name with
  | some text => return some (← boundedOf name maximum text)
  | none => return none

/-- A variable that holds a flag, if it is set. -/
def flag? (env : Environment) (name : String) : Except SettingError (Option Bool) := do
  match ← env.filled? name with
  | some text => return some (← flagOf name text)
  | none => return none

/-- A variable that holds a path, if it is set. -/
def path? (env : Environment) (name : String) : Except SettingError (Option Path) := do
  return (← env.filled? name).map Path.ofText

end Environment

end BootChain
