import BootChain.CommandLine.Problem
import BootChain.CommandLine.Request

namespace BootChain.CommandLine

/-- What a command finds when it starts: files, variables and the moment, in milliseconds. -/
structure Surroundings where
  files : FileSystem
  environment : Environment
  momentMs : Nat := 0

/-- A config with the directories of a layout over its own. -/
def Layout.apply (layout : Layout) (config : Config) : Config :=
  { config with
    build :=
      { config.build with directory := layout.buildDir.getD config.build.directory }
    fixtures :=
      { config.fixtures with directory := layout.fixturesDir.getD config.fixtures.directory } }

/-- A config with the settings of a run over its own. -/
def RunOptions.apply (options : RunOptions) (config : Config) : Config :=
  { config with
    toolchain :=
      { config.toolchain with program := options.toolchain.getD config.toolchain.program }
    execution :=
      { limitSec := options.limitSec.getD config.execution.limitSec
        jobs := options.jobs.getD config.execution.jobs }
    build :=
      { config.build with
        keepArtifacts := config.build.keepArtifacts && !options.discardArtifacts } }

/-- The config that holds for a layout: that of a file, under the environment, under the layout.
    It is valid at each layer. -/
def Layout.effective (layout : Layout) (around : Surroundings) : Except Problem Config := do
  let config ← (Config.load around.files around.environment layout.config).mapError .noConfig
  let overrides ← (Overrides.ofEnvironment around.environment).mapError .badEnvironment
  let config ← (overrides.apply config).validated.mapError .badConfig
  (layout.apply config).validated.mapError .badConfig

/-- The config that holds for a run: that of its layout, under its own settings. -/
def RunOptions.effective (options : RunOptions) (around : Surroundings) :
    Except Problem Config := do
  let config ← options.layout.effective around
  (options.apply config).validated.mapError .badConfig

end BootChain.CommandLine
