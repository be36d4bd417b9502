import BootChain.Config.Load
import BootChain.Proofs.Config.RoundTrip
import BootChain.Proofs.Environment

namespace BootChain.Config

/-- The tables that a config file can have. -/
inductive Table where
  | build
  | fixtures
  | compiler
  | toolchain
  | execution
  | events
  deriving DecidableEq, Repr

namespace Table

def name : Table → String
  | build => "build"
  | fixtures => "fixtures"
  | compiler => "compiler"
  | toolchain => "toolchain"
  | execution => "execution"
  | events => "events"

/-- The keys of a table, in the order in which a list gives their values. -/
def keys : Table → List String
  | build => ["dir", "stage_base_name", "max_generation", "artifact_dir", "keep_artifacts"]
  | fixtures => ["dir", "source_extension", "expected_extension"]
  | compiler => ["args"]
  | toolchain => ["program", "args"]
  | execution => ["timeout_sec", "jobs"]
  | events => ["sink", "path"]

end Table

/-- What a composite holds under one of its keys. -/
def member? (keys : List String) (key : String) : Toml.Value → Option Toml.Value
  | .table _ members => members.lookup key
  | .list _ items => (keys.zip items).lookup key
  | _ => none

/-- What a config file says under a key of a table. -/
def written? (members : Toml.Members) (table : Table) (key : String) : Option Toml.Value :=
  (members.lookup table.name).bind (member? table.keys key)

/-- Some settings of a config, each of which may be there or not. -/
structure Layer where
  directory : Option Path := none
  baseName : Option String := none
  maxGeneration : Option Nat := none
  artifactDir : Option Path := none
  keepArtifacts : Option Bool := none
  fixturesDir : Option Path := none
  sourceExtension : Option String := none
  expectedExtension : Option String := none
  compilerArgs : Option (List String) := none
  program : Option String := none
  linkArgs : Option (List String) := none
  limitSec : Option Nat := none
  jobs : Option Nat := none
  sink : Option Sink := none
  eventsPath : Option Path := none

/-- A config with the settings of a layer in the place of its own. -/
def Layer.onto (layer : Layer) (config : Config) : Config where
  build :=
    { directory := layer.directory.getD config.build.directory
      baseName := layer.baseName.getD config.build.baseName
      maxGeneration := layer.maxGeneration.getD config.build.maxGeneration
      artifactDir := layer.artifactDir.or config.build.artifactDir
      keepArtifacts := layer.keepArtifacts.getD config.build.keepArtifacts }
  fixtures :=
    { directory := layer.fixturesDir.getD config.fixtures.directory
      layout :=
        { source := layer.sourceExtension.getD config.fixtures.layout.source
          expected := layer.expectedExtension.getD config.fixtures.layout.expected } }
  compilerArgs := layer.compilerArgs.getD config.compilerArgs
  toolchain :=
    { program := layer.program.getD config.toolchain.program
      args := layer.linkArgs.getD config.toolchain.args }
  execution :=
    { limitSec := layer.limitSec.getD config.execution.limitSec
      jobs := layer.jobs.getD config.execution.jobs }
  events :=
    { sink := layer.sink.getD config.events.sink
      path := layer.eventsPath.or config.events.path }
  source := config.source

/-- A layer has a setting just if it is written, and then as it is read. -/
def Reads {α : Type} (read? : Toml.Value → Option α) (written : Option Toml.Value)
    (setting : Option α) : Prop :=
  written.map read? = setting.map some

/-- The settings of a layer are those that a config file gives. -/
structure Layer.OfMembers (members : Toml.Members) (layer : Layer) : Prop where
  directory : Reads pathOf? (written? members .build "dir") layer.directory
  baseName : Reads textOf? (written? members .build "stage_base_name") layer.baseName
  maxGeneration : Reads (natOf? Decimal.maxHalfWord) (written? members .build "max_generation")
    layer.maxGeneration
  artifactDir : Reads pathOf? (written? members .build "artifact_dir") layer.artifactDir
  keepArtifacts : Reads flagOf? (written? members .build "keep_artifacts") layer.keepArtifacts
  fixturesDir : Reads pathOf? (written? members .fixtures "dir") layer.fixturesDir
  sourceExtension : Reads textOf? (written? members .fixtures "source_extension")
    layer.sourceExtension
  expectedExtension : Reads textOf? (written? members .fixtures "expected_extension")
    layer.expectedExtension
  compilerArgs : Reads textsOf? (written? members .compiler "args") layer.compilerArgs
  program : Reads textOf? (written? members .toolchain "program") layer.program
  linkArgs : Reads textsOf? (written? members .toolchain "args") layer.linkArgs
  limitSec : Reads (natOf? Decimal.maxWord) (written? members .execution "timeout_sec")
    layer.limitSec
  jobs : Reads (natOf? Decimal.maxWord) (written? members .execution "jobs") layer.jobs
  sink : Reads sinkOf? (written? members .events "sink") layer.sink
  eventsPath : Reads pathOf? (written? members .events "path") layer.eventsPath

section Members

variable {α : Type} {read? : Toml.Value → Option α} {default value : α}
  {written : Option Toml.Value} {members : Toml.Members}

/-- A part that is read is a setting of the layer below the default. -/
theorem exists_reads (hpart : part read? default written = some value) :
    ∃ setting, Reads read? written setting ∧ value = setting.getD default := by
  cases written with
  | none => exact ⟨none, rfl, (Option.some.inj hpart).symm⟩
  | some found => exact ⟨some value, congrArg some hpart, rfl⟩

theorem reads_path {path : Option Path}
    (hpart : part (fun value => (pathOf? value).map some) none written = some path) :
    Reads pathOf? written path := by
  cases written with
  | none =>
    cases hpart
    rfl
  | some found =>
    obtain ⟨read, hread, rfl⟩ := Option.map_eq_some_iff.1 hpart
    exact congrArg some hread

/-- The parts of a composite are what it holds under its keys. -/
theorem partsOf?_eq_some {names : List String} {composite : Toml.Value}
    {parts : String → Option Toml.Value} (hparts : partsOf? names composite = some parts) :
    parts = fun key => member? names key composite := by
  unfold partsOf? at hparts
  split at hparts
  next =>
    split at hparts
    · cases hparts
      rfl
    · cases hparts
  next =>
    cases hparts
    rfl
  next => cases hparts

variable {table : Option Toml.Value}

theorem parts_build {build : Build} (htable : part buildOf? {} table = some build) :
    let written := fun key => table.bind (member? Table.build.keys key)
    part pathOf? ({} : Build).directory (written "dir") = some build.directory ∧
      part textOf? ({} : Build).baseName (written "stage_base_name") = some build.baseName ∧
      part (natOf? Decimal.maxHalfWord) ({} : Build).maxGeneration (written "max_generation") =
        some build.maxGeneration ∧
      part (fun value => (pathOf? value).map some) none (written "artifact_dir") =
        some build.artifactDir ∧
      part flagOf? ({} : Build).keepArtifacts (written "keep_artifacts") =
        some build.keepArtifacts := by
  cases table with
  | none =>
    cases htable
    exact ⟨rfl, rfl, rfl, rfl, rfl⟩
  | some composite =>
    simp only [part, buildOf?, bind, pure, Option.bind_eq_some_iff] at htable
    obtain ⟨parts, hparts, directory, hdirectory, baseName, hbaseName, maxGeneration,
      hmaxGeneration, artifactDir, hartifactDir, keepArtifacts, hkeepArtifacts, hbuild⟩ := htable
    cases hbuild
    cases partsOf?_eq_some hparts
    exact ⟨hdirectory, hbaseName, hmaxGeneration, hartifactDir, hkeepArtifacts⟩

theorem parts_fixtures {fixtures : Fixtures} (htable : part fixturesOf? {} table = some fixtures) :
    let written := fun key => table.bind (member? Table.fixtures.keys key)
    part pathOf? ({} : Fixtures).directory (written "dir") = some fixtures.directory ∧
      part textOf? ({} : Fixtures).layout.source (written "source_extension") =
        some fixtures.layout.source ∧
      part textOf? ({} : Fixtures).layout.expected (written "expected_extension") =
        some fixtures.layout.expected := by
  cases table with
  | none =>
    cases htable
    exact ⟨rfl, rfl, rfl⟩
  | some composite =>
    simp only [part, fixturesOf?, bind, pure, Option.bind_eq_some_iff] at htable
    obtain ⟨parts, hparts, directory, hdirectory, source, hsource, expected, hexpected,
      hfixtures⟩ := htable
    cases hfixtures
    cases partsOf?_eq_some hparts
    exact ⟨hdirectory, hsource, hexpected⟩

theorem parts_compiler {args : List String}
    (htable : part compilerArgsOf? Template.compileDefault.words table = some args) :
    part textsOf? Template.compileDefault.words
      (table.bind (member? Table.compiler.keys "args")) = some args := by
  cases table with
  | none =>
    cases htable
    rfl
  | some composite =>
    simp only [part, compilerArgsOf?, bind, Option.bind_eq_some_iff] at htable
    obtain ⟨parts, hparts, hargs⟩ := htable
    cases partsOf?_eq_some hparts
    exact hargs

theorem parts_toolchain {toolchain : Toolchain}
    (htable : part toolchainOf? {} table = some toolchain) :
    let written := fun key => table.bind (member? Table.toolchain.keys key)
    part textOf? ({} : Toolchain).program (written "program") = some toolchain.program ∧
      part textsOf? ({} : Toolchain).args (written "args") = some toolchain.args := by
  cases table with
  | none =>
    cases htable
    exact ⟨rfl, rfl⟩
  | some composite =>
    simp only [part, toolchainOf?, bind, pure, Option.bind_eq_some_iff] at htable
    obtain ⟨parts, hparts, program, hprogram, args, hargs, htoolchain⟩ := htable
    cases htoolchain
    cases partsOf?_eq_some hparts
    exact ⟨hprogram, hargs⟩

theorem parts_execution {execution : Execution}
    (htable : part executionOf? {} table = some execution) :
    let written := fun key => table.bind (member? Table.execution.keys key)
    part (natOf? Decimal.maxWord) ({} : Execution).limitSec (written "timeout_sec") =
        some execution.limitSec ∧
      part (natOf? Decimal.maxWord) ({} : Execution).jobs (written "jobs") =
        some execution.jobs := by
  cases table with
  | none =>
    cases htable
    exact ⟨rfl, rfl⟩
  | some composite =>
    simp only [part, executionOf?, bind, pure, Option.bind_eq_some_iff] at htable
    obtain ⟨parts, hparts, limitSec, hlimitSec, jobs, hjobs, hexecution⟩ := htable
    cases hexecution
    cases partsOf?_eq_some hparts
    exact ⟨hlimitSec, hjobs⟩

theorem parts_events {events : Events} (htable : part eventsOf? {} table = some events) :
    let written := fun key => table.bind (member? Table.events.keys key)
    part sinkOf? ({} : Events).sink (written "sink") = some events.sink ∧
      part (fun value => (pathOf? value).map some) none (written "path") = some events.path := by
  cases table with
  | none =>
    cases htable
    exact ⟨rfl, rfl⟩
  | some composite =>
    simp only [part, eventsOf?, bind, pure, Option.bind_eq_some_iff] at htable
    obtain ⟨parts, hparts, sink, hsink, path, hpath, hevents⟩ := htable
    cases hevents
    cases partsOf?_eq_some hparts
    exact ⟨hsink, hpath⟩

/-- A config file gives a layer of settings, and the defaults stand under that. -/
theorem exists_layer {config : Config} (hconfig : ofMembers? members = some config) :
    ∃ layer : Layer, layer.OfMembers members ∧ config = layer.onto {} := by
  simp only [ofMembers?, bind, pure, Option.bind_eq_some_iff] at hconfig
  obtain ⟨parts, hparts, build, hbuild, fixtures, hfixtures, args, hargs, toolchain, htoolchain,
    execution, hexecution, events, hevents, hconfig⟩ := hconfig
  cases hconfig
  cases partsOf?_eq_some hparts
  obtain ⟨hdirectory, hbaseName, hmaxGeneration, hartifactDir, hkeepArtifacts⟩ := parts_build hbuild
  obtain ⟨hfixturesDir, hsource, hexpected⟩ := parts_fixtures hfixtures
  obtain ⟨hprogram, hlinkArgs⟩ := parts_toolchain htoolchain
  obtain ⟨hlimitSec, hjobs⟩ := parts_execution hexecution
  obtain ⟨hsink, hpath⟩ := parts_events hevents
  obtain ⟨directory, hdirectory, hdirectoryEq⟩ := exists_reads hdirectory
  obtain ⟨baseName, hbaseName, hbaseNameEq⟩ := exists_reads hbaseName
  obtain ⟨maxGeneration, hmaxGeneration, hmaxGenerationEq⟩ := exists_reads hmaxGeneration
  obtain ⟨keepArtifacts, hkeepArtifacts, hkeepArtifactsEq⟩ := exists_reads hkeepArtifacts
  obtain ⟨fixturesDir, hfixturesDir, hfixturesDirEq⟩ := exists_reads hfixturesDir
  obtain ⟨source, hsource, hsourceEq⟩ := exists_reads hsource
  obtain ⟨expected, hexpected, hexpectedEq⟩ := exists_reads hexpected
  obtain ⟨compilerArgs, hcompilerArgs, rfl⟩ := exists_reads (parts_compiler hargs)
  obtain ⟨program, hprogram, hprogramEq⟩ := exists_reads hprogram
  obtain ⟨linkArgs, hlinkArgs, hlinkArgsEq⟩ := exists_reads hlinkArgs
  obtain ⟨limitSec, hlimitSec, hlimitSecEq⟩ := exists_reads hlimitSec
  obtain ⟨jobs, hjobs, hjobsEq⟩ := exists_reads hjobs
  obtain ⟨sink, hsink, hsinkEq⟩ := exists_reads hsink
  refine ⟨⟨directory, baseName, maxGeneration, build.artifactDir, keepArtifacts, fixturesDir,
    source, expected, compilerArgs, program, linkArgs, limitSec, jobs, sink, events.path⟩,
    ⟨hdirectory, hbaseName, hmaxGeneration, reads_path hartifactDir, hkeepArtifacts,
      hfixturesDir, hsource, hexpected, hcompilerArgs, hprogram, hlinkArgs, hlimitSec, hjobs,
      hsink, reads_path hpath⟩, ?_⟩
  simp only [Layer.onto, ← hdirectoryEq, ← hbaseNameEq, ← hmaxGenerationEq, ← hkeepArtifactsEq,
    ← hfixturesDirEq, ← hsourceEq, ← hexpectedEq, ← hprogramEq, ← hlinkArgsEq, ← hlimitSecEq,
    ← hjobsEq, ← hsinkEq, Option.or_none]

end Members

/-- Where a config is looked for: at the path that is given, else at the one in the environment,
    else at the default. -/
inductive Whence (env : Environment) (given : Option Path) : Place → Prop
  | flag {path : Path} (hgiven : given = some path) : Whence env given ⟨path, true⟩
  | environment {text : String} (hgiven : given = none)
    (hset : env.filled? Variable.configPath.name = .ok (some text)) :
    Whence env given ⟨.ofText text, true⟩
  | default (hgiven : given = none)
    (hunset : env.values.lookup Variable.configPath.name = none) :
    Whence env given ⟨defaultPath, false⟩

/-- The ways in which the octets of a file can be no config. -/
inductive Unfit (bytes : Bytes) : Prop
  | tooLarge (hsize : maxFileSize < bytes.length)
  | notText (htext : Utf8.text? bytes = none)
  | malformed {text : String} (htext : Utf8.text? bytes = some text)
    (hmembers : (Toml.read? text).bind ofMembers? = none)
  | invalid {text : String} {config : Config} (htext : Utf8.text? bytes = some text)
    (hmembers : (Toml.read? text).bind ofMembers? = some config)
    (hinvalid : config.check ≠ .ok ())

/-- What a config rests on: a valid file in the place where it is looked for, over the defaults, or
    the defaults alone, if nobody says that there is a file and there is none. -/
inductive Founded (files : FileSystem) (env : Environment) (given : Option Path) : Config → Prop
  | read {place : Place} {bytes : Bytes} {text : String} {members : Toml.Members} {layer : Layer}
    (hplace : Whence env given place) (hread : files.read place.path = .ok bytes)
    (hfit : ¬ Unfit bytes) (htext : Utf8.text? bytes = some text)
    (hmembers : Toml.read? text = some members) (hlayer : layer.OfMembers members) :
    Founded files env given { layer.onto {} with source := some place.path }
  | absent (hplace : Whence env given ⟨defaultPath, false⟩)
    (habsent : files.read defaultPath = .error .notFound) : Founded files env given {}

section Load

variable {env : Environment} {given : Option Path} {files : FileSystem} {config found : Config}
  {bytes : Bytes} {place : Place}

theorem filled?_eq_none_iff {name : String} :
    env.filled? name = .ok none ↔ env.values.lookup name = none := by
  rw [Environment.filled?_eq_ok_iff]
  refine ⟨fun hgives => ?_, .unset⟩
  cases hgives with
  | unset hunset => exact hunset

theorem whence_of_place_eq_ok (hplace : Config.place env given = .ok place) :
    Whence env given place := by
  unfold Config.place at hplace
  split at hplace
  next path =>
    cases hplace
    exact .flag rfl
  next =>
    split at hplace
    next => cases hplace
    next hunset =>
      cases hplace
      exact .default rfl (filled?_eq_none_iff.1 hunset)
    next text hset =>
      split at hplace
      · cases hplace
      · cases hplace
        exact .environment rfl hset

/-- A config is looked for in just one place. -/
theorem Whence.unique {other : Place} (hplace : Whence env given place)
    (hother : Whence env given other) : place = other := by
  cases hplace with
  | flag hgiven => cases hother <;> simp_all
  | environment hgiven hset =>
    cases hother with
    | flag hother => cases hgiven.symm.trans hother
    | environment _ hother =>
      cases hset.symm.trans hother
      rfl
    | default _ hunset => cases hset.symm.trans (filled?_eq_none_iff.2 hunset)
  | default hgiven hunset =>
    cases hother with
    | flag hother => cases hgiven.symm.trans hother
    | environment _ hset => cases hset.symm.trans (filled?_eq_none_iff.2 hunset)
    | default => rfl

theorem ofBytes_eq_ok (hconfig : ofBytes bytes = .ok config) :
    ∃ text members layer, Utf8.text? bytes = some text ∧ Toml.read? text = some members ∧
      Layer.OfMembers members layer ∧ config = layer.onto {} := by
  unfold ofBytes at hconfig
  split at hconfig
  · cases hconfig
  · split at hconfig
    · cases hconfig
    next text htext =>
      split at hconfig
      · cases hconfig
      next read hread =>
        obtain ⟨-, rfl⟩ := validated_eq_ok_iff.1 hconfig
        obtain ⟨members, hmembers, hread⟩ := Option.bind_eq_some_iff.1 hread
        obtain ⟨layer, hlayer, rfl⟩ := exists_layer hread
        exact ⟨text, members, layer, htext, hmembers, hlayer, rfl⟩

/-- What is read as a config is fit to be one. -/
theorem not_unfit_of_ofBytes (hconfig : ofBytes bytes = .ok config) : ¬ Unfit bytes := by
  intro hunfit
  unfold ofBytes at hconfig
  cases hunfit with
  | tooLarge hsize =>
    rw [if_pos hsize] at hconfig
    cases hconfig
  | notText htext => split at hconfig <;> simp [htext] at hconfig
  | malformed htext hmembers => split at hconfig <;> simp [htext, hmembers] at hconfig
  | invalid htext hmembers hinvalid =>
    split at hconfig
    · cases hconfig
    · simp only [htext, hmembers] at hconfig
      exact hinvalid (validated_eq_ok_iff.1 hconfig).1

theorem founded_of_load (hload : load files env given = .ok config) :
    Founded files env given config := by
  unfold load at hload
  split at hload
  · cases hload
  next place hplace =>
    have hwhence := whence_of_place_eq_ok hplace
    split at hload
    · cases hload
    · split at hload
      next bytes hread =>
        cases hconfig : ofBytes bytes with
        | error problem =>
          rw [hconfig] at hload
          cases hload
        | ok read =>
          rw [hconfig] at hload
          cases hload
          obtain ⟨text, members, layer, htext, hmembers, hlayer, rfl⟩ := ofBytes_eq_ok hconfig
          exact .read hwhence hread (not_unfit_of_ofBytes hconfig) htext hmembers hlayer
      next cause hread =>
        split at hload
        next hmissing =>
          obtain ⟨-, rfl⟩ := validated_eq_ok_iff.1 hload
          obtain ⟨rfl, hunnamed⟩ := hmissing
          cases hwhence with
          | flag => cases hunnamed
          | environment => cases hunnamed
          | default hgiven hunset => exact .absent (.default hgiven hunset) hread
        next => cases hload

/-- Nothing is founded on a file that is named and cannot be read, or on one that is not fit. -/
theorem Founded.exists_fit (hfounded : Founded files env given config)
    (hplace : Whence env given place) :
    (place.named = true → ∃ bytes, files.read place.path = .ok bytes) ∧
      ∀ bytes, files.read place.path = .ok bytes → ¬ Unfit bytes := by
  cases hfounded with
  | @read found bytes _ _ _ hfound hread hfit =>
    cases hplace.unique hfound
    refine ⟨fun _ => ⟨bytes, hread⟩, fun other hother => ?_⟩
    cases hread.symm.trans hother
    exact hfit
  | absent hdefault habsent =>
    cases hplace.unique hdefault
    exact ⟨nofun, fun bytes hread => nomatch habsent.symm.trans hread⟩

end Load

end BootChain.Config
