namespace BootChain

/-- A flag that is raised once at most, and whether someone is left who could raise it. -/
structure Cancellation where
  raised : Bool := false
  held : Bool := true
  deriving DecidableEq, Repr

namespace Cancellation

/-- Raises the flag, if someone is left to do so. -/
def raise (c : Cancellation) : Cancellation :=
  if c.held then { c with raised := true } else c

/-- Leaves the flag as it is for good. -/
def release (c : Cancellation) : Cancellation := { c with held := false }

end Cancellation

/-- A view of a flag, or of none at all, which is never raised. -/
inductive Signal where
  | watching
  | never
  deriving DecidableEq, Repr

/-- What a signal shows of the flag. Waiting for it ends exactly when it shows the flag raised. -/
def Signal.isRaised (signal : Signal) (c : Cancellation) : Bool :=
  match signal with
  | watching => c.raised
  | never => false

end BootChain
