import BootChain.Path

namespace BootChain.CommandLine

/-- The form of what a command prints. -/
inductive Format where
  | text
  | json
  deriving DecidableEq, Repr

def Format.all : List Format := [.text, .json]

def Format.label : Format → String
  | .text => "text"
  | .json => "json"

/-- Where a command is told to look. -/
structure Layout where
  config : Option Path := none
  buildDir : Option Path := none
  fixturesDir : Option Path := none
  deriving DecidableEq, Repr

/-- What a run of the matrix is asked for. Empty lists select everything. -/
structure RunOptions where
  layout : Layout := {}
  toolchain : Option String := none
  limitSec : Option Nat := none
  jobs : Option Nat := none
  fixtures : List String := []
  generations : List Nat := []
  discardArtifacts : Bool := false
  report : Option Path := none
  format : Format := .text
  deriving DecidableEq, Repr

/-- What a listing is asked for. -/
structure ListingOptions where
  layout : Layout := {}
  format : Format := .text
  deriving DecidableEq, Repr

/-- What a check of the config is asked for. -/
structure CheckOptions where
  config : Option Path := none
  print : Bool := false
  deriving DecidableEq, Repr

/-- Something that the program can be asked to do. -/
inductive Request where
  | run (options : RunOptions)
  | stages (options : ListingOptions)
  | fixtures (options : ListingOptions)
  | checkConfig (options : CheckOptions)
  deriving DecidableEq, Repr

/-- Something that there is a help text about. -/
inductive Topic where
  | program
  | run
  | stages
  | fixtures
  | config
  | checkConfig
  deriving DecidableEq, Repr

end BootChain.CommandLine
