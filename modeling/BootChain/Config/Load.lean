import BootChain.Config.Document
import BootChain.Config.Overrides

namespace BootChain.Config

/-- Where a config is looked for if nobody says where. -/
def defaultPath : Path := .ofText "bootstrap-check.toml"

/-- Where a config is looked for. -/
structure Place where
  path : Path
  /-- True if the config must be there. -/
  named : Bool

/-- Where to look for the config: at the path that is given, or at the one in the environment, or
    at the default. -/
def place (env : Environment) (given : Option Path) : Except ConfigProblem Place :=
  match given with
  | some path => .ok ⟨path, true⟩
  | none =>
    match env.filled? Variable.configPath.name with
    | .error cause => .error (.badVariable cause)
    | .ok none => .ok ⟨defaultPath, false⟩
    | .ok (some text) =>
      if text.utf8ByteSize > maxPathLength then .error .pathTooLong else .ok ⟨.ofText text, true⟩

/-- How long a step of a path is when it is shown. -/
def shownLength : Path.Component → Nat
  | .name bytes => (Utf8.lossy bytes).utf8ByteSize
  | component => component.length

def Place.check (place : Place) : Check := do
  require (place.path.shown.utf8ByteSize ≤ maxPathLength) .pathTooLong
  require (place.path.components.all fun c => shownLength c ≤ maxNameLength) .pathComponentTooLong

/-- Loads a config. Where nobody says that there is one, none is needed. -/
def load (files : FileSystem) (env : Environment) (given : Option Path) :
    Except ConfigError Config :=
  match place env given with
  | .error problem => .error (.invalid problem)
  | .ok place =>
    match place.check with
    | .error problem => .error (.invalid problem)
    | .ok () =>
      match files.read place.path with
      | .ok bytes => (ofBytes bytes).map fun config => { config with source := some place.path }
      | .error cause =>
        if cause = .notFound ∧ !place.named then validated {}
        else .error (.unreadable place.path cause)

end BootChain.Config
