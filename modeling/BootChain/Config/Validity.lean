import BootChain.Config
import BootChain.Environment
import BootChain.Json.OfPath
import BootChain.Trial.Settings

namespace BootChain

/-- What is wrong with a config, its file or the path of that. A field is named by its table and
    its key. -/
inductive ConfigProblem where
  | blank (field : String)
  | tooLong (field : String)
  | longComponent (field : String)
  | notAFileName (field : String)
  | hasDot (field : String)
  | outOfRange (field : String) (maximum : Nat)
  | sameExtensions
  | tooManyWords (field : String)
  | badTemplate (field : String) (cause : TemplateError)
  | noEventPath
  | badVariable (cause : SettingError)
  | pathTooLong
  | pathComponentTooLong
  | fileTooLarge
  | fileNotUtf8
  | notWritable (cause : EncodeError)
  deriving DecidableEq, Repr

/-- Why there is no config. -/
inductive ConfigError where
  | unreadable (path : Path) (cause : IoError)
  | malformed
  | invalid (problem : ConfigProblem)
  deriving DecidableEq, Repr

namespace Config

/-- How many octets a path may have. -/
def maxPathLength : Nat := 4096

/-- How many octets a name in a path may have. -/
def maxNameLength : Nat := 255

def maxWords : Nat := 128

def generationLimit : Nat := 64

def maxLimitSec : Nat := 86400

def maxJobs : Nat := 256

end Config

def ConfigProblem.message : ConfigProblem → String
  | blank field => field ++ " must be non-empty"
  | tooLong field => field ++ " exceeds max length"
  | longComponent field => field ++ " path component too long"
  | notAFileName field => field ++ " must be a file name"
  | hasDot field => field ++ " must not contain '.'"
  | outOfRange field maximum => field ++ " must be between 1 and " ++ toString maximum
  | sameExtensions => "fixtures.source_extension and fixtures.expected_extension must differ"
  | tooManyWords field => field ++ " exceeds " ++ toString Config.maxWords ++ " words"
  | badTemplate field cause => field ++ ": " ++ cause.message
  | noEventPath => "events.path is required when events.sink = \"file\""
  | badVariable cause => cause.message
  | pathTooLong => "config path exceeds max length"
  | pathComponentTooLong => "config path component too long"
  | fileTooLarge => "config file exceeds size limit"
  | fileNotUtf8 => "config file must be utf-8"
  | notWritable cause => cause.message

def ConfigError.message : ConfigError → String
  | unreadable path cause => "config io error: " ++ path.shown ++ ": " ++ cause.message
  | malformed => "config parse error"
  | invalid problem => "invalid config: " ++ problem.message

namespace Config

/-- A check that names the problem it finds. -/
abbrev Check := Except ConfigProblem Unit

/-- Finds a problem unless a condition holds. -/
def require (condition : Bool) (problem : ConfigProblem) : Check :=
  if condition then .ok () else .error problem

def checkPath (field : String) (path : Path) : Check := do
  require (!Text.isBlankText path.shown) (.blank field)
  require (path.shown.utf8ByteSize ≤ maxPathLength) (.tooLong field)
  require (path.components.all fun c => c.length ≤ maxNameLength)
    (.longComponent field)

/-- The name must be one step of a path, and lead neither to the directory it starts from nor up. -/
def checkFileName (field name : String) : Check := do
  require (!Text.isBlankText name) (.blank field)
  let chars := name.toList
  require (!chars.contains '/' && !chars.contains '\\' && chars ≠ ['.'] && chars ≠ ['.', '.'])
    (.notAFileName field)
  require (name.utf8ByteSize ≤ maxNameLength) (.tooLong field)

def checkExtension (field extension : String) : Check := do
  checkFileName field extension
  require (!extension.toList.contains '.') (.hasDot field)

def checkRange (field : String) (maximum n : Nat) : Check :=
  require (1 ≤ n && n ≤ maximum) (.outOfRange field maximum)

/-- Reads the words of a template. -/
def template (field : String) (role : TemplateRole) (words : List String) :
    Except ConfigProblem Template := do
  require (words.length ≤ maxWords) (.tooManyWords field)
  match Template.ofWords role words with
  | .ok template => return template
  | .error cause => .error (.badTemplate field cause)

def compileTemplate (config : Config) : Except ConfigProblem Template :=
  template "compiler.args" .compile config.compilerArgs

def linkTemplate (config : Config) : Except ConfigProblem Template :=
  template "toolchain.args" .link config.toolchain.args

def Build.check (build : Build) : Check := do
  checkPath "build.dir" build.directory
  match build.artifactDir with
  | some path => checkPath "build.artifact_dir" path
  | none => .ok ()
  checkFileName "build.stage_base_name" build.baseName
  checkRange "build.max_generation" generationLimit build.maxGeneration

def Fixtures.check (fixtures : Fixtures) : Check := do
  checkPath "fixtures.dir" fixtures.directory
  checkExtension "fixtures.source_extension" fixtures.layout.source
  checkExtension "fixtures.expected_extension" fixtures.layout.expected
  require (fixtures.layout.source ≠ fixtures.layout.expected) .sameExtensions

def Execution.check (execution : Execution) : Check := do
  checkRange "execution.timeout_sec" maxLimitSec execution.limitSec
  checkRange "execution.jobs" maxJobs execution.jobs

def Events.check (events : Events) : Check :=
  match events.path with
  | some path => checkPath "events.path" path
  | none => require (events.sink ≠ .file) .noEventPath

/-- Finds the first problem of a config, table by table. -/
def check (config : Config) : Check := do
  config.build.check
  config.fixtures.check
  let _ ← config.compileTemplate
  checkPath "toolchain.program" (.ofText config.toolchain.program)
  let _ ← config.linkTemplate
  config.execution.check
  config.events.check

/-- The config itself, if it has no problem. -/
def validated (config : Config) : Except ConfigError Config :=
  match config.check with
  | .ok () => .ok config
  | .error problem => .error (.invalid problem)

/-- What trials need of a config. -/
def settings (config : Config) : Except ConfigProblem Settings := do
  let compileArgs ← config.compileTemplate
  let linkArgs ← config.linkTemplate
  return { toolchain := .ofText config.toolchain.program, compileArgs, linkArgs
           artifactDir := config.artifactDir, limitMs := config.execution.limitSec * 1000
           keepArtifacts := config.build.keepArtifacts }

end Config

end BootChain
