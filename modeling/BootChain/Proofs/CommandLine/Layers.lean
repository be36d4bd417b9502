import BootChain.CommandLine.Layers
import BootChain.Proofs.Config.Layers

namespace BootChain

open Config (Founded Layer Unfit Whence validated_eq_ok_iff)

/-- The settings of a layer are those that the environment gives. -/
structure Config.Layer.OfEnvironment (env : Environment) (layer : Layer) : Prop where
  directory : env.path? Variable.buildDir.name = .ok layer.directory
  fixturesDir : env.path? Variable.fixturesDir.name = .ok layer.fixturesDir
  limitSec : env.bounded? Variable.limitSec.name Config.maxLimitSec = .ok layer.limitSec
  jobs : env.bounded? Variable.jobs.name Config.maxJobs = .ok layer.jobs
  keepArtifacts : env.flag? Variable.keepArtifacts.name = .ok layer.keepArtifacts
  program : env.filled? Variable.toolchain.name = .ok layer.program
  /-- Nothing else can be set there. -/
  only : layer =
    { directory := layer.directory, fixturesDir := layer.fixturesDir, limitSec := layer.limitSec
      jobs := layer.jobs, keepArtifacts := layer.keepArtifacts, program := layer.program }

/-- The overrides as a layer. -/
def Overrides.layer (overrides : Overrides) : Layer where
  directory := overrides.buildDir
  fixturesDir := overrides.fixturesDir
  limitSec := overrides.limitSec
  jobs := overrides.jobs
  keepArtifacts := overrides.keepArtifacts
  program := overrides.toolchain

theorem Overrides.apply_eq (overrides : Overrides) (config : Config) :
    overrides.apply config = overrides.layer.onto config := rfl

theorem Overrides.layer_ofEnvironment {env : Environment} {overrides : Overrides}
    (hoverrides : ofEnvironment env = .ok overrides) : overrides.layer.OfEnvironment env := by
  simp only [ofEnvironment, Except.bind_eq_ok] at hoverrides
  obtain ⟨buildDir, hbuildDir, fixturesDir, hfixturesDir, limitSec, hlimitSec, jobs, hjobs,
    keepArtifacts, hkeepArtifacts, toolchain, htoolchain, heq⟩ := hoverrides
  cases heq
  exact ⟨hbuildDir, hfixturesDir, hlimitSec, hjobs, hkeepArtifacts, htoolchain, rfl⟩

namespace CommandLine

/-- The settings that the flags of a run give. -/
def RunOptions.layer (options : RunOptions) : Layer where
  directory := options.layout.buildDir
  fixturesDir := options.layout.fixturesDir
  program := options.toolchain
  limitSec := options.limitSec
  jobs := options.jobs
  keepArtifacts := if options.discardArtifacts then some false else none

theorem RunOptions.apply_eq (options : RunOptions) (config : Config) :
    options.apply (options.layout.apply config) = options.layer.onto config := by
  cases hdiscard : options.discardArtifacts <;>
    simp [apply, Layout.apply, layer, Layer.onto, hdiscard]

/-- Each setting of a config is the one of the strongest layer that gives it: a flag, a variable,
    the file, or else the default. -/
structure Layered (options : RunOptions) (around : Surroundings) (config : Config) : Prop where
  valid : config.check = .ok ()
  eq_onto : ∃ (environment : Layer) (base : Config),
    environment.OfEnvironment around.environment ∧
      Founded around.files around.environment options.layout.config base ∧
      config = options.layer.onto (environment.onto base)

variable {options : RunOptions} {around : Surroundings} {config : Config}

theorem Layout.exists_load {layout : Layout} (heffective : layout.effective around = .ok config) :
    ∃ base overrides, Config.load around.files around.environment layout.config = .ok base ∧
      Overrides.ofEnvironment around.environment = .ok overrides ∧
      config = layout.apply (overrides.apply base) := by
  simp only [effective, Except.bind_eq_ok, Except.mapError_eq_ok_iff, validated_eq_ok_iff] at heffective
  obtain ⟨base, hbase, overrides, hoverrides, _, ⟨-, rfl⟩, -, rfl⟩ := heffective
  exact ⟨base, overrides, hbase, hoverrides, rfl⟩

theorem layered_of_effective (heffective : options.effective around = .ok config) :
    Layered options around config := by
  simp only [RunOptions.effective, Except.bind_eq_ok, Except.mapError_eq_ok_iff, validated_eq_ok_iff]
    at heffective
  obtain ⟨laid, hlaid, hvalid, rfl⟩ := heffective
  obtain ⟨base, overrides, hbase, hoverrides, rfl⟩ := Layout.exists_load hlaid
  refine ⟨hvalid, overrides.layer, base, Overrides.layer_ofEnvironment hoverrides,
    Config.founded_of_load hbase, ?_⟩
  rw [RunOptions.apply_eq, Overrides.apply_eq]

/-- The config that a run goes by is valid, and each of its settings comes from the strongest layer
    that gives it. A file that is named has to be there, and whatever file is there has to be a
    config: the defaults alone hold only where nobody names a file and the usual one is absent. -/
theorem effective_layered (options : RunOptions) (around : Surroundings) :
    (∀ config, options.effective around = .ok config → Layered options around config) ∧
      ∀ place, Whence around.environment options.layout.config place →
        (place.named = true → ∀ cause, around.files.read place.path = .error cause →
          ∃ problem, options.effective around = .error problem) ∧
        ∀ bytes, around.files.read place.path = .ok bytes → Unfit bytes →
          ∃ problem, options.effective around = .error problem := by
  refine ⟨fun config => layered_of_effective, fun place hplace => ?_⟩
  cases heffective : options.effective around with
  | error problem => exact ⟨fun _ _ _ => ⟨problem, rfl⟩, fun _ _ _ => ⟨problem, rfl⟩⟩
  | ok config =>
    obtain ⟨-, environment, base, -, hfounded, -⟩ := layered_of_effective heffective
    obtain ⟨hreadable, hfit⟩ := hfounded.exists_fit hplace
    refine ⟨fun hnamed cause hread => ?_, fun bytes hread hunfit => ?_⟩
    · obtain ⟨bytes, hbytes⟩ := hreadable hnamed
      cases hread.symm.trans hbytes
    · exact absurd hunfit (hfit bytes hread)

/-- A config file under a name. -/
def oneFile (name text : String) : FileSystem where
  nodes := [([Utf8.encode name], .file (Utf8.encode text) 0o644)]

/-- A config file that a variable names, and variables over some of its settings. -/
def threeLayers : Surroundings where
  files := oneFile "our.toml" "build = ['filed', 'cc', 2]\n[execution]\njobs = 2\ntimeout_sec = 7"
  environment :=
    ⟨[("BOOTSTRAP_CHECK_CONFIG", Utf8.encode "our.toml"),
      ("BOOTSTRAP_CHECK_BUILD_DIR", Utf8.encode "set"),
      ("BOOTSTRAP_CHECK_JOBS", Utf8.encode " +3 "),
      ("BOOTSTRAP_CHECK_KEEP_ARTIFACTS", Utf8.encode "TRUE"), ("CC", Utf8.encode "gcc")]⟩

/-- A config file in the usual place, with a setting that is not valid. -/
def blankDirectory : Surroundings where
  files := oneFile "bootstrap-check.toml" "build = [' ']"
  environment := {}

/-- Flags stand over variables, and variables over the file. They do not mend a file that is not
    valid, and do not make up for one that is not there. -/
theorem effective_layered_flagged :
    let options : RunOptions :=
      { layout := { buildDir := some (.ofText "flagged") }, discardArtifacts := true }
    let config : Config :=
      { build :=
          { directory := .ofText "flagged", baseName := "cc", maxGeneration := 2
            keepArtifacts := false }
        toolchain := { program := "gcc" }
        execution := { limitSec := 7, jobs := 3 }
        source := some (.ofText "our.toml") }
    options.effective threeLayers = .ok config ∧ Layered options threeLayers config ∧
      (∃ problem, options.effective blankDirectory = .error problem) ∧
      ∃ problem, options.effective { threeLayers with files := {} } = .error problem := by
  intro options config
  have heffective : options.effective threeLayers = .ok config := by decide +kernel
  refine ⟨heffective, (effective_layered options threeLayers).1 config heffective, ?_, ?_⟩
  · refine ((effective_layered options blankDirectory).2 ⟨Config.defaultPath, false⟩
      (.default rfl rfl)).2 (Utf8.encode "build = [' ']") (by decide +kernel) ?_
    have hmembers : (Toml.read? "build = [' ']").bind Config.ofMembers? =
        some { build := { directory := .ofText " " } } := by decide +kernel
    exact .invalid (Utf8.text?_encode _) hmembers (by decide +kernel)
  · exact ((effective_layered options { threeLayers with files := {} }).2
      ⟨.ofText "our.toml", true⟩ (.environment rfl (by decide +kernel))).1 rfl .notFound
      (by decide +kernel)

end CommandLine

end BootChain
