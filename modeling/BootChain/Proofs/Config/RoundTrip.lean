import BootChain.Config.Document
import BootChain.Proofs.Config.Validity
import BootChain.Proofs.Path
import BootChain.Proofs.Toml.Document

namespace BootChain.Config

variable {config : Config}

section Tables

/-- The paths that a config names, but for its source. -/
def paths (config : Config) : List Path :=
  config.build.directory :: config.build.artifactDir.toList ++
    config.fixtures.directory :: config.events.path.toList

theorem forall_mem_paths {p : Path → Prop} :
    (∀ path ∈ config.paths, p path) ↔
      p config.build.directory ∧ (∀ path ∈ config.build.artifactDir.toList, p path) ∧
        p config.fixtures.directory ∧ ∀ path ∈ config.events.path.toList, p path := by
  simp only [paths, List.cons_append, List.forall_mem_cons, List.forall_mem_append]

def optionalSetting (key : String) (path : Option Path) : List (String × Toml.Setting) :=
  (path.map fun path => (key, .text path.shown)).toList

def buildSettings (build : Build) : List (String × Toml.Setting) :=
  [("dir", .text build.directory.shown), ("stage_base_name", .text build.baseName),
      ("max_generation", .number build.maxGeneration)] ++
    optionalSetting "artifact_dir" build.artifactDir ++
    [("keep_artifacts", .flag build.keepArtifacts)]

def fixturesSettings (fixtures : Fixtures) : List (String × Toml.Setting) :=
  [("dir", .text fixtures.directory.shown), ("source_extension", .text fixtures.layout.source),
    ("expected_extension", .text fixtures.layout.expected)]

def toolchainSettings (toolchain : Toolchain) : List (String × Toml.Setting) :=
  [("program", .text toolchain.program), ("args", .texts toolchain.args)]

def executionSettings (execution : Execution) : List (String × Toml.Setting) :=
  [("timeout_sec", .number execution.limitSec), ("jobs", .number execution.jobs)]

def eventsSettings (events : Events) : List (String × Toml.Setting) :=
  ("sink", .text events.sink.label) :: optionalSetting "path" events.path

/-- The tables of a config whose paths are text. -/
def settingTables (config : Config) : List (String × List (String × Toml.Setting)) :=
  [("build", buildSettings config.build), ("fixtures", fixturesSettings config.fixtures),
    ("compiler", [("args", .texts config.compilerArgs)]),
    ("toolchain", toolchainSettings config.toolchain),
    ("execution", executionSettings config.execution),
    ("events", eventsSettings config.events)]

theorem pathSetting_eq {path : Path} (htext : path.text?.isSome) :
    pathSetting path = .ok (.text path.shown) := by
  rw [pathSetting, Path.text?_eq_shown htext]

theorem optional_eq {path : Option Path} (key : String)
    (htext : ∀ found ∈ path.toList, found.text?.isSome) :
    optional key path = .ok (optionalSetting key path) := by
  cases path with
  | none => rfl
  | some path =>
    rw [optional, pathSetting_eq (htext path List.mem_cons_self)]
    rfl

theorem tables_eq (hpaths : ∀ path ∈ config.paths, path.text?.isSome) :
    config.tables = .ok config.settingTables := by
  obtain ⟨hbuild, hartifacts, hfixtures, hevents⟩ := forall_mem_paths.1 hpaths
  rw [tables, pathSetting_eq hbuild, optional_eq "artifact_dir" hartifacts,
    pathSetting_eq hfixtures, optional_eq "path" hevents]
  rfl

theorem toText_eq (hpaths : ∀ path ∈ config.paths, path.text?.isSome) :
    config.toText = .ok (Toml.written config.settingTables) := by
  rw [toText, tables_eq hpaths]

/-- The keys in the tables of a config, in which two paths may be there or not. -/
def settingKeys (artifacts events : Bool) : List (List String) :=
  [["dir", "stage_base_name", "max_generation"] ++ (if artifacts then ["artifact_dir"] else []) ++
      ["keep_artifacts"],
    ["dir", "source_extension", "expected_extension"], ["args"], ["program", "args"],
    ["timeout_sec", "jobs"], "sink" :: if events then ["path"] else []]

theorem keys_settingTables (config : Config) :
    (config.settingTables.map fun table => table.2.map Prod.fst) =
      settingKeys config.build.artifactDir.isSome config.events.path.isSome := by
  rw [settingTables, buildSettings, eventsSettings]
  cases config.build.artifactDir <;> cases config.events.path <;> rfl

theorem wellNamed_settingTables (config : Config) : Toml.WellNamed config.settingTables := by
  have hnames : config.settingTables.map Prod.fst =
      ["build", "fixtures", "compiler", "toolchain", "execution", "events"] := rfl
  have hkeys : ∀ artifacts events, ∀ keys ∈ settingKeys artifacts events,
      keys.Nodup ∧ ∀ key ∈ keys, Toml.IsBare key := by
    decide
  refine .of_keys ?_ ?_ ?_
  · rw [hnames]
    decide
  · rw [hnames]
    decide
  · rw [keys_settingTables]
    exact hkeys _ _

end Tables

section Parts

theorem pathOf?_shown {path : Path} (htext : path.text?.isSome) :
    pathOf? (.text path.shown) = some path :=
  congrArg some (Path.ofText_shown htext)

theorem natOf?_of_le {maximum n : Nat} (hn : n ≤ maximum) : natOf? maximum (.integer n) = some n :=
  if_pos hn

theorem textsOf?_map (grows : Bool) (items : List String) :
    textsOf? (.list grows (items.map .text)) = some items := by
  induction items with
  | nil => rfl
  | cons item items ih =>
    rw [textsOf?] at ih ⊢
    rw [List.map_cons, List.mapM_cons, ih]
    rfl

theorem sinkOf?_label (sink : Sink) : sinkOf? (.text sink.label) = some sink := by
  cases sink <;> decide

variable {build : Build} {fixtures : Fixtures} {execution : Execution} {events : Events}

theorem buildOf?_valuesOf (hgeneration : build.maxGeneration ≤ Decimal.maxHalfWord)
    (hdirectory : build.directory.text?.isSome)
    (hartifacts : ∀ path ∈ build.artifactDir.toList, path.text?.isSome) :
    buildOf? (.table .headed (Toml.valuesOf (buildSettings build))) = some build := by
  obtain ⟨directory, baseName, maxGeneration, artifactDir, keepArtifacts⟩ := build
  cases artifactDir with
  | none =>
    change ((pathOf? (.text directory.shown)).bind fun directory =>
      (natOf? Decimal.maxHalfWord (.integer maxGeneration)).bind fun maxGeneration =>
        some (Build.mk directory baseName maxGeneration none keepArtifacts)) = _
    rw [pathOf?_shown hdirectory, natOf?_of_le hgeneration]
    rfl
  | some path =>
    change ((pathOf? (.text directory.shown)).bind fun directory =>
      (natOf? Decimal.maxHalfWord (.integer maxGeneration)).bind fun maxGeneration =>
        ((pathOf? (.text path.shown)).map some).bind fun artifactDir =>
          some (Build.mk directory baseName maxGeneration artifactDir keepArtifacts)) = _
    rw [pathOf?_shown hdirectory, natOf?_of_le hgeneration,
      pathOf?_shown (hartifacts path List.mem_cons_self)]
    rfl

theorem fixturesOf?_valuesOf (hdirectory : fixtures.directory.text?.isSome) :
    fixturesOf? (.table .headed (Toml.valuesOf (fixturesSettings fixtures))) = some fixtures := by
  change ((pathOf? (.text fixtures.directory.shown)).bind fun directory =>
    some { fixtures with directory }) = _
  rw [pathOf?_shown hdirectory]
  rfl

theorem compilerArgsOf?_valuesOf (args : List String) :
    compilerArgsOf? (.table .headed (Toml.valuesOf [("args", .texts args)])) = some args :=
  textsOf?_map false args

theorem toolchainOf?_valuesOf (toolchain : Toolchain) :
    toolchainOf? (.table .headed (Toml.valuesOf (toolchainSettings toolchain))) =
      some toolchain := by
  change ((textsOf? (.list false (toolchain.args.map .text))).bind fun args =>
    some { toolchain with args }) = _
  rw [textsOf?_map]
  rfl

theorem executionOf?_valuesOf (hlimit : execution.limitSec ≤ Decimal.maxWord)
    (hjobs : execution.jobs ≤ Decimal.maxWord) :
    executionOf? (.table .headed (Toml.valuesOf (executionSettings execution))) =
      some execution := by
  change ((natOf? Decimal.maxWord (.integer execution.limitSec)).bind fun limitSec =>
    (natOf? Decimal.maxWord (.integer execution.jobs)).bind fun jobs =>
      some (Execution.mk limitSec jobs)) = _
  rw [natOf?_of_le hlimit, natOf?_of_le hjobs]
  rfl

theorem eventsOf?_valuesOf (hpath : ∀ path ∈ events.path.toList, path.text?.isSome) :
    eventsOf? (.table .headed (Toml.valuesOf (eventsSettings events))) = some events := by
  obtain ⟨sink, path⟩ := events
  cases path with
  | none =>
    change ((sinkOf? (.text sink.label)).bind fun sink => some (Events.mk sink none)) = _
    rw [sinkOf?_label]
    rfl
  | some path =>
    change ((sinkOf? (.text sink.label)).bind fun sink =>
      ((pathOf? (.text path.shown)).map some).bind fun path => some (Events.mk sink path)) = _
    rw [sinkOf?_label, pathOf?_shown (hpath path List.mem_cons_self)]
    rfl

end Parts

section RoundTrip

/-- A config is read back from its tables. -/
theorem ofMembers?_membersOf (hvalid : config.check = .ok ())
    (hpaths : ∀ path ∈ config.paths, path.text?.isSome) :
    ofMembers? (Toml.membersOf config.settingTables) = some { config with source := none } := by
  have hchecked := check_eq_ok_iff.1 hvalid
  obtain ⟨hdirectory, hartifacts, hfixtures, hevents⟩ := forall_mem_paths.1 hpaths
  have hbuild := buildOf?_valuesOf (Nat.le_trans hchecked.maxGeneration.2 (by decide)) hdirectory
    hartifacts
  have hexecution := executionOf?_valuesOf (Nat.le_trans hchecked.limitSec.2 (by decide))
    (Nat.le_trans hchecked.jobs.2 (by decide))
  change (do
    let build ← buildOf? (.table .headed (Toml.valuesOf (buildSettings config.build)))
    let fixtures ←
      fixturesOf? (.table .headed (Toml.valuesOf (fixturesSettings config.fixtures)))
    let compilerArgs ←
      compilerArgsOf? (.table .headed (Toml.valuesOf [("args", .texts config.compilerArgs)]))
    let toolchain ←
      toolchainOf? (.table .headed (Toml.valuesOf (toolchainSettings config.toolchain)))
    let execution ←
      executionOf? (.table .headed (Toml.valuesOf (executionSettings config.execution)))
    let events ← eventsOf? (.table .headed (Toml.valuesOf (eventsSettings config.events)))
    some (Config.mk build fixtures compilerArgs toolchain execution events none)) = _
  rw [hbuild, fixturesOf?_valuesOf hfixtures, compilerArgsOf?_valuesOf, toolchainOf?_valuesOf,
    hexecution, eventsOf?_valuesOf hevents]
  rfl

/-- A valid config whose paths are text can be written, and what is written is read back as that
    config without its source, whatever characters its texts are made of, unless the file would be
    too large. -/
theorem ofBytes_toText (hvalid : config.check = .ok ())
    (hpaths : ∀ path ∈ config.paths, path.text?.isSome) :
    ∃ text, config.toText = .ok text ∧
      ((Utf8.encode text).length ≤ maxFileSize →
        ofBytes (Utf8.encode text) = .ok { config with source := none }) := by
  refine ⟨Toml.written config.settingTables, toText_eq hpaths, fun hsize => ?_⟩
  have hread : (Toml.read? (Toml.written config.settingTables)).bind ofMembers? =
      some { config with source := none } := by
    rw [Toml.read?_written (wellNamed_settingTables config), Option.bind_some,
      ofMembers?_membersOf hvalid hpaths]
  -- The check does not look at the source.
  have hsame : ({ config with source := none } : Config).check = .ok () := hvalid
  rw [ofBytes, if_neg (Nat.not_lt.2 hsize), Utf8.text?_encode]
  dsimp only
  rw [hread]
  dsimp only
  rw [validated, hsame]

/-- Texts of each of the forms that the writer has, with quotes in a row of either kind, quotes next
    to the closing ones, backslashes, line feeds, a tab, controls and letters beyond ASCII. -/
def intricate : Config where
  build :=
    { directory := .ofText "it's \"here\"", baseName := "\"\"\"'''\t\x7F"
      artifactDir := some (.ofText "\n'''\"\"\"\"\\") }
  fixtures := { layout := { source := "'c", expected := "\"\"" } }
  compilerArgs := Template.compileDefault.words ++ ["\\''", "\n\n\"\"", "\r\x01\x08é"]
  events := { sink := .file, path := some (.ofText "\u4e16'''\n") }
  source := some (.ofText "origin.toml")

theorem ofBytes_toText_intricate :
    intricate.check = .ok () ∧ (∀ path ∈ intricate.paths, path.text?.isSome) ∧
      ∃ text, intricate.toText = .ok text ∧ (Utf8.encode text).length ≤ maxFileSize ∧
        ofBytes (Utf8.encode text) = .ok { intricate with source := none } := by
  have hvalid : intricate.check = .ok () := by decide +kernel
  have hpaths : ∀ path ∈ intricate.paths, path.text?.isSome := by decide +kernel
  have hsize : (Utf8.encode (Toml.written intricate.settingTables)).length ≤ maxFileSize := by
    rw [Utf8.encode, Toml.written, String.toList_ofList]
    decide +kernel
  obtain ⟨text, htext, hread⟩ := ofBytes_toText hvalid hpaths
  obtain rfl : Toml.written intricate.settingTables = text :=
    Except.ok.inj ((toText_eq hpaths).symm.trans htext)
  exact ⟨hvalid, hpaths, _, htext, hsize, hread hsize⟩

end RoundTrip

end BootChain.Config
