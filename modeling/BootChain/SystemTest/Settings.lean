import BootChain.Environment

namespace BootChain.SystemTest

/-- What the environment says about system tests. -/
structure Settings where
  runRoot : Option Path := none
  /-- The least time that a program is given, in milliseconds. -/
  limitMs : Option Nat := none
  allowOverwrite : Bool := false
  deriving DecidableEq, Repr

namespace Settings

def maxLimitSec : Nat := 3600

def nameOf (key : String) : String := "BOOTSTRAP_CHECK_SYSTEM_TEST_" ++ key

def ofEnvironment (env : Environment) : Except SettingError Settings := do
  let runRoot ← env.path? (nameOf "RUN_ROOT")
  let limitSec ← env.bounded? (nameOf "TIMEOUT_SEC") maxLimitSec
  let allowOverwrite ← env.flag? (nameOf "ALLOW_OVERWRITE")
  return { runRoot, limitMs := limitSec.map (· * 1000)
           allowOverwrite := allowOverwrite.getD false }

/-- The time that a program is given, which is never shorter than what was asked for. -/
def effectiveLimitMs (settings : Settings) (requestedMs : Nat) : Nat :=
  max (settings.limitMs.getD 0) requestedMs

end Settings

end BootChain.SystemTest
