import BootChain.Config.Validity

namespace BootChain

/-- The variables that a run heeds. -/
inductive Variable where
  | configPath
  | buildDir
  | fixturesDir
  | limitSec
  | jobs
  | keepArtifacts
  | toolchain
  deriving DecidableEq, Repr

namespace Variable

def name : Variable → String
  | configPath => "BOOTSTRAP_CHECK_CONFIG"
  | buildDir => "BOOTSTRAP_CHECK_BUILD_DIR"
  | fixturesDir => "BOOTSTRAP_CHECK_FIXTURES_DIR"
  | limitSec => "BOOTSTRAP_CHECK_TIMEOUT_SEC"
  | jobs => "BOOTSTRAP_CHECK_JOBS"
  | keepArtifacts => "BOOTSTRAP_CHECK_KEEP_ARTIFACTS"
  | toolchain => "CC"

def all : List Variable :=
  [configPath, buildDir, fixturesDir, limitSec, jobs, keepArtifacts, toolchain]

end Variable

/-- Settings that stand over those of a config. -/
structure Overrides where
  buildDir : Option Path := none
  fixturesDir : Option Path := none
  limitSec : Option Nat := none
  jobs : Option Nat := none
  keepArtifacts : Option Bool := none
  toolchain : Option String := none
  deriving DecidableEq, Repr

namespace Overrides

/-- The settings that the environment gives. -/
def ofEnvironment (env : Environment) : Except SettingError Overrides := do
  return { buildDir := ← env.path? Variable.buildDir.name
           fixturesDir := ← env.path? Variable.fixturesDir.name
           limitSec := ← env.bounded? Variable.limitSec.name Config.maxLimitSec
           jobs := ← env.bounded? Variable.jobs.name Config.maxJobs
           keepArtifacts := ← env.flag? Variable.keepArtifacts.name
           toolchain := ← env.filled? Variable.toolchain.name }

/-- A config with the overrides in it, which need not be valid. -/
def apply (overrides : Overrides) (config : Config) : Config :=
  { config with
    build :=
      { config.build with
        directory := overrides.buildDir.getD config.build.directory
        keepArtifacts := overrides.keepArtifacts.getD config.build.keepArtifacts }
    fixtures :=
      { config.fixtures with
        directory := overrides.fixturesDir.getD config.fixtures.directory }
    toolchain :=
      { config.toolchain with program := overrides.toolchain.getD config.toolchain.program }
    execution :=
      { limitSec := overrides.limitSec.getD config.execution.limitSec
        jobs := overrides.jobs.getD config.execution.jobs } }

end Overrides

end BootChain
