import BootChain.Json
import BootChain.Path

namespace BootChain

/-- Why a value has no JSON form. -/
inductive EncodeError where
  | pathNotText
  deriving DecidableEq, Repr

def EncodeError.message : EncodeError → String
  | .pathNotText => "path contains invalid UTF-8 characters"

/-- A path as a JSON text; one that is not well-formed UTF-8 has none. -/
def Path.json (p : Path) : Except EncodeError Json :=
  match p.text? with
  | some text => .ok (.str text)
  | none => .error .pathNotText

end BootChain
