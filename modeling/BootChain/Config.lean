import BootChain.Catalog
import BootChain.Template

namespace BootChain

namespace Config

/-- Where compilers are looked for, and where artifacts go. -/
structure Build where
  directory : Path := .ofText "build"
  baseName : String := "c"
  maxGeneration : Nat := 3
  artifactDir : Option Path := none
  keepArtifacts : Bool := true
  deriving DecidableEq, Repr

/-- Where test programs are looked for. -/
structure Fixtures where
  directory : Path := .ofText "tests"
  layout : FixtureLayout := {}
  deriving DecidableEq, Repr

/-- The program that links, and its arguments. -/
structure Toolchain where
  program : String := "clang"
  args : List String := Template.linkDefault.words
  deriving DecidableEq, Repr

/-- How trials are run. -/
structure Execution where
  limitSec : Nat := 60
  jobs : Nat := 1
  deriving DecidableEq, Repr

/-- Where events are written to. -/
inductive Sink where
  | stderr
  | file
  | none
  deriving DecidableEq, Repr

def Sink.all : List Sink := [.stderr, .file, .none]

def Sink.label : Sink → String
  | .stderr => "stderr"
  | .file => "file"
  | .none => "none"

structure Events where
  sink : Sink := .none
  path : Option Path := Option.none
  deriving DecidableEq, Repr

end Config

/-- The settings of a run, and the file that they were read from, if there was one. -/
structure Config where
  build : Config.Build := {}
  fixtures : Config.Fixtures := {}
  compilerArgs : List String := Template.compileDefault.words
  toolchain : Config.Toolchain := {}
  execution : Config.Execution := {}
  events : Config.Events := {}
  source : Option Path := none
  deriving DecidableEq, Repr

/-- The directory for artifacts: the one that is set, or else one in the build directory. -/
def Config.artifactDir (config : Config) : Path :=
  config.build.artifactDir.getD (config.build.directory.join (.ofText "bootstrap-check"))

end BootChain
