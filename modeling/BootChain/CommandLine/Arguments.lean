import BootChain.CommandLine.Flag

namespace BootChain.CommandLine

namespace Layout

def configFlag : Flag Layout where
  name := "config"
  about := "Config file path (defaults to bootstrap-check.toml or BOOTSTRAP_CHECK_CONFIG)"
  effect := .reading "PATH" Flag.readPath fun path layout =>
    { layout with config := some path }

def buildDirFlag : Flag Layout where
  name := "build-dir"
  about := "Directory holding the generation binaries"
  effect := .reading "DIR" Flag.readPath fun path layout =>
    { layout with buildDir := some path }

def fixturesDirFlag : Flag Layout where
  name := "fixtures-dir"
  about := "Directory walked for fixtures"
  effect := .reading "DIR" Flag.readPath fun path layout =>
    { layout with fixturesDir := some path }

def flags : List (Flag Layout) := [configFlag, buildDirFlag, fixturesDirFlag]

end Layout

/-- The flag that sets the form of what is printed. -/
def formatFlag : Flag Format where
  name := "format"
  about := "Form of the output, text or json (default: text)"
  effect := .reading "FORMAT" Flag.readFormat fun format _ => format

namespace RunOptions

def toolchainFlag : Flag RunOptions where
  name := "toolchain"
  about := "Program used for linking (overrides CC)"
  effect := .reading "PATH" Utf8.text? fun text options =>
    { options with toolchain := some text }

def limitFlag : Flag RunOptions where
  name := "timeout-sec"
  about := "Time limit of each program in seconds"
  effect := .reading "SECONDS" (Flag.readNumber Decimal.maxWord) fun n options =>
    { options with limitSec := some n }

def jobsFlag : Flag RunOptions where
  name := "jobs"
  about := "Maximum number of trials at a time"
  effect := .reading "N" (Flag.readNumber Decimal.maxWord) fun n options =>
    { options with jobs := some n }

def fixtureFlag : Flag RunOptions where
  name := "fixture"
  about := "Restrict the run to a fixture id (repeatable)"
  repeatable := true
  effect := .reading "ID" Utf8.text? fun id options =>
    { options with fixtures := options.fixtures ++ [id] }

def generationFlag : Flag RunOptions where
  name := "generation"
  about := "Restrict the run to a generation number (repeatable)"
  repeatable := true
  effect := .reading "N" (Flag.readSigned Decimal.maxHalfWord) fun n options =>
    { options with generations := options.generations ++ [n] }

def discardFlag : Flag RunOptions where
  name := "discard-artifacts"
  about := "Delete objects and executables after each trial"
  effect := .switch fun options => { options with discardArtifacts := true }

def reportFlag : Flag RunOptions where
  name := "report"
  about := "Write the canonical JSON report here, and a Markdown summary beside it"
  effect := .reading "PATH" Flag.readPath fun path options =>
    { options with report := some path }

def flags : List (Flag RunOptions) :=
  (Layout.flags.map fun flag =>
    flag.within RunOptions.layout fun layout options => { options with layout }) ++
  [toolchainFlag, limitFlag, jobsFlag, fixtureFlag, generationFlag, discardFlag, reportFlag,
    formatFlag.within RunOptions.format fun format options => { options with format }]

end RunOptions

def ListingOptions.flags : List (Flag ListingOptions) :=
  (Layout.flags.map fun flag =>
    flag.within ListingOptions.layout fun layout options => { options with layout }) ++
  [formatFlag.within ListingOptions.format fun format options => { options with format }]

namespace CheckOptions

def configFlag : Flag CheckOptions :=
  Layout.configFlag.within (fun options => { config := options.config })
    fun layout options => { options with config := layout.config }

def printFlag : Flag CheckOptions where
  name := "print"
  about := "Print the effective configuration as TOML"
  effect := .switch fun options => { options with print := true }

def flags : List (Flag CheckOptions) := [configFlag, printFlag]

end CheckOptions

namespace Request

/-- Reads the flags of a command, each of which may stand once unless it is repeatable. -/
def withFlags {σ : Type} (topic : Topic) (flags : List (Flag σ)) (options : σ)
    (request : σ → Request) (arguments : List Bytes) : Except Stop Request :=
  (Flag.readAll topic flags [] options arguments).map request

/-- Reads what comes before a command. Only the program itself has a version. -/
def beforeCommand (topic : Topic) (argument : Bytes) (rest : List Bytes) : Except Stop Request :=
  let unknown : Stop := .misuse (.unknownFlag argument)
  let versioned : Stop := if topic = .program then .version else unknown
  .error <| match Token.ofBytes argument with
    | .word => .misuse (.unknownCommand argument)
    | .dashes => .misuse (rest.head?.elim .noCommand .strayWord)
    | .short letters =>
      if letters.head? = some 'h'.toUInt8 then .help topic
      else if letters.head? = some 'V'.toUInt8 then versioned
      else unknown
    | .long name attached =>
      if name = Utf8.encode "help" then
        if attached.isSome then .misuse (.needlessValue "help") else .help topic
      else if name = Utf8.encode "version" then
        if topic = .program ∧ attached.isSome then .misuse (.needlessValue "version")
        else versioned
      else unknown

/-- Reads which command on the config is asked for. -/
def ofConfigArguments : List Bytes → Except Stop Request
  | [] => .error (.misuse .noCommand)
  | argument :: rest =>
    if argument = Utf8.encode "validate" then
      withFlags .checkConfig CheckOptions.flags {} .checkConfig rest
    else beforeCommand .config argument rest

/-- Reads the arguments of the program. -/
def ofArguments : List Bytes → Except Stop Request
  | [] => .error (.misuse .noCommand)
  | argument :: rest =>
    if argument = Utf8.encode "run" then withFlags .run RunOptions.flags {} .run rest
    else if argument = Utf8.encode "stages" then
      withFlags .stages ListingOptions.flags {} .stages rest
    else if argument = Utf8.encode "fixtures" then
      withFlags .fixtures ListingOptions.flags {} .fixtures rest
    else if argument = Utf8.encode "config" then ofConfigArguments rest
    else beforeCommand .program argument rest

end Request

end BootChain.CommandLine
