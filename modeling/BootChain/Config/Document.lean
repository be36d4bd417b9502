import BootChain.Config.Validity
import BootChain.Text.Decimal
import BootChain.Toml.Printer
import BootChain.Toml.Reader

namespace BootChain.Config

/-- The parts of a composite by their names. A table must have no other keys; a list gives its
    items to the names in their order. -/
def partsOf? (names : List String) : Toml.Value → Option (String → Option Toml.Value)
  | .table _ members =>
    if members.all fun member => names.contains member.1 then some fun name => members.lookup name
    else none
  | .list _ items => some fun name => (names.zip items).lookup name
  | _ => none

/-- A part that may be left out. -/
def part {α : Type} (read? : Toml.Value → Option α) (default : α) : Option Toml.Value → Option α
  | some value => read? value
  | none => some default

def textOf? : Toml.Value → Option String
  | .text content => some content
  | _ => none

def flagOf? : Toml.Value → Option Bool
  | .flag b => some b
  | _ => none

def pathOf? (value : Toml.Value) : Option Path := (textOf? value).map Path.ofText

/-- A number from zero to `maximum`. -/
def natOf? (maximum : Nat) : Toml.Value → Option Nat
  | .integer (.ofNat n) => if n ≤ maximum then some n else none
  | _ => none

def textsOf? : Toml.Value → Option (List String)
  | .list _ items => items.mapM textOf?
  | _ => none

/-- A sink by its name, or as a table with nothing but an empty part under that name. -/
def sinkOf? : Toml.Value → Option Sink
  | .text label => Sink.all.find? fun sink => sink.label = label
  | .table _ [(label, .table _ [])] => Sink.all.find? fun sink => sink.label = label
  | .table _ [(label, .list _ [])] => Sink.all.find? fun sink => sink.label = label
  | _ => none

def buildOf? (value : Toml.Value) : Option Build := do
  let names := ["dir", "stage_base_name", "max_generation", "artifact_dir", "keep_artifacts"]
  let parts ← partsOf? names value
  let default : Build := {}
  return { directory := ← part pathOf? default.directory (parts "dir")
           baseName := ← part textOf? default.baseName (parts "stage_base_name")
           maxGeneration :=
             ← part (natOf? Decimal.maxHalfWord) default.maxGeneration (parts "max_generation")
           artifactDir := ← part (fun v => (pathOf? v).map some) none (parts "artifact_dir")
           keepArtifacts := ← part flagOf? default.keepArtifacts (parts "keep_artifacts") }

def fixturesOf? (value : Toml.Value) : Option Fixtures := do
  let parts ← partsOf? ["dir", "source_extension", "expected_extension"] value
  let default : Fixtures := {}
  return { directory := ← part pathOf? default.directory (parts "dir")
           layout :=
             { source := ← part textOf? default.layout.source (parts "source_extension")
               expected := ← part textOf? default.layout.expected (parts "expected_extension") } }

def compilerArgsOf? (value : Toml.Value) : Option (List String) := do
  let parts ← partsOf? ["args"] value
  part textsOf? Template.compileDefault.words (parts "args")

def toolchainOf? (value : Toml.Value) : Option Toolchain := do
  let parts ← partsOf? ["program", "args"] value
  let default : Toolchain := {}
  return { program := ← part textOf? default.program (parts "program")
           args := ← part textsOf? default.args (parts "args") }

def executionOf? (value : Toml.Value) : Option Execution := do
  let parts ← partsOf? ["timeout_sec", "jobs"] value
  let default : Execution := {}
  return { limitSec := ← part (natOf? Decimal.maxWord) default.limitSec (parts "timeout_sec")
           jobs := ← part (natOf? Decimal.maxWord) default.jobs (parts "jobs") }

def eventsOf? (value : Toml.Value) : Option Events := do
  let parts ← partsOf? ["sink", "path"] value
  let default : Events := {}
  return { sink := ← part sinkOf? default.sink (parts "sink")
           path := ← part (fun v => (pathOf? v).map some) none (parts "path") }

/-- The config in the tables of a document. Unknown keys and values of the wrong kind are refused,
    and what is left out has its default. -/
def ofMembers? (members : Toml.Members) : Option Config := do
  let parts ← partsOf? ["build", "fixtures", "compiler", "toolchain", "execution", "events"]
    (.table .headed members)
  return { build := ← part buildOf? {} (parts "build")
           fixtures := ← part fixturesOf? {} (parts "fixtures")
           compilerArgs :=
             ← part compilerArgsOf? Template.compileDefault.words (parts "compiler")
           toolchain := ← part toolchainOf? {} (parts "toolchain")
           execution := ← part executionOf? {} (parts "execution")
           events := ← part eventsOf? {} (parts "events") }

/-- How many octets a config file may have. -/
def maxFileSize : Nat := 1048576

/-- Reads a config file, which must be valid. -/
def ofBytes (bytes : Bytes) : Except ConfigError Config :=
  if bytes.length > maxFileSize then .error (.invalid .fileTooLarge)
  else match Utf8.text? bytes with
    | none => .error (.invalid .fileNotUtf8)
    | some document =>
      match (Toml.read? document).bind ofMembers? with
      | none => .error .malformed
      | some config => config.validated

/-- A path as a setting. -/
def pathSetting (path : Path) : Except EncodeError Toml.Setting :=
  match path.text? with
  | some content => .ok (.text content)
  | none => .error .pathNotText

/-- A setting under its key, if there is one. -/
def optional (key : String) (path : Option Path) :
    Except EncodeError (List (String × Toml.Setting)) :=
  match path with
  | none => .ok []
  | some path => return [(key, ← pathSetting path)]

/-- The tables of a config with all settings, in their order. -/
def tables (config : Config) :
    Except EncodeError (List (String × List (String × Toml.Setting))) := do
  let build := config.build
  let fixtures := config.fixtures
  let buildTable :=
    [("dir", ← pathSetting build.directory), ("stage_base_name", .text build.baseName),
      ("max_generation", .number build.maxGeneration)] ++
    (← optional "artifact_dir" build.artifactDir) ++
    [("keep_artifacts", .flag build.keepArtifacts)]
  let fixturesTable :=
    [("dir", ← pathSetting fixtures.directory),
      ("source_extension", .text fixtures.layout.source),
      ("expected_extension", .text fixtures.layout.expected)]
  let toolchainTable :=
    [("program", .text config.toolchain.program), ("args", .texts config.toolchain.args)]
  let executionTable :=
    [("timeout_sec", .number config.execution.limitSec), ("jobs", .number config.execution.jobs)]
  let eventsTable :=
    [("sink", .text config.events.sink.label)] ++ (← optional "path" config.events.path)
  return [("build", buildTable), ("fixtures", fixturesTable),
    ("compiler", [("args", .texts config.compilerArgs)]), ("toolchain", toolchainTable),
    ("execution", executionTable), ("events", eventsTable)]

/-- A config as the text of a file. Its source is not written. -/
def toText (config : Config) : Except ConfigError String :=
  match config.tables with
  | .ok tables => .ok (Toml.written tables)
  | .error cause => .error (.invalid (.notWritable cause))

end BootChain.Config
