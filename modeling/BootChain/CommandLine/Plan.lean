import BootChain.Chain.Probe
import BootChain.CommandLine.Layers
import BootChain.Matrix

namespace BootChain.CommandLine

/-- The chain in the build directory of a config. -/
def probedChain (config : Config) (files : FileSystem) : Chain :=
  .probe files config.build.directory config.build.baseName config.build.maxGeneration

/-- The test programs in the fixture directory of a config. -/
def discovered (config : Config) (files : FileSystem) : Except Problem Catalog :=
  (Catalog.discover files config.fixtures.directory config.fixtures.layout).mapError .noCatalog

/-- The fixture of a catalog that an id names. -/
def namedFixture (catalog : Catalog) (id : String) : Except Problem FixtureId :=
  if catalog.fixtures.any fun fixture => fixture.id = ⟨id⟩ then .ok ⟨id⟩
  else .error (.unknownFixture id)

/-- The generation of a chain that a number names, be its compiler there or not. -/
def namedGeneration (chain : Chain) (number : Nat) : Except Problem Generation :=
  match Generation.ofNat? number with
  | none => .error .generationZero
  | some generation =>
    if (chain.get? generation).isSome then .ok generation
    else .error (.unknownGeneration number chain.size)

/-- The part of a matrix that is named by ids and numbers, all of which must be known. -/
def namedSelection (catalog : Catalog) (chain : Chain) (ids : List String) (numbers : List Nat) :
    Except Problem Selection := do
  let fixtures ← ids.mapM (namedFixture catalog)
  let generations ← numbers.mapM (namedGeneration chain)
  return { fixtures, generations }

/-- A run that is ready to start. -/
structure Plan where
  config : Config
  chain : Chain
  catalog : Catalog
  selection : Selection
  settings : Settings

/-- Plans a run. Nothing is written for that. -/
def RunOptions.plan (options : RunOptions) (around : Surroundings) : Except Problem Plan := do
  let config ← options.effective around
  let chain := probedChain config around.files
  let catalog ← discovered config around.files
  let selection ← namedSelection catalog chain options.fixtures options.generations
  let settings ← config.settings.mapError fun problem => .badConfig (.invalid problem)
  return { config, chain, catalog, selection
           settings := settings.absolute around.files.workingPath }

/-- The matrix that a plan selects. -/
def Plan.matrix (plan : Plan) : Matrix :=
  .select plan.settings plan.config.execution.jobs plan.chain plan.catalog.fixtures plan.selection

end BootChain.CommandLine
