import BootChain.Catalog
import BootChain.Config.Load

namespace BootChain.CommandLine

/-- Why a command cannot be carried out. -/
inductive Problem where
  | noConfig (cause : ConfigError)
  | badEnvironment (cause : SettingError)
  | badConfig (cause : ConfigError)
  | noCatalog (cause : CatalogError)
  | unknownFixture (id : String)
  | generationZero
  | unknownGeneration (number maximum : Nat)
  | summaryCollision (report : Path)
  | notCreated (directory : Path) (cause : IoError)
  | notWritten (file : Path) (cause : IoError)
  | noEventPath
  | noEventLog (log : Path) (cause : IoError)
  | reportNotEncoded (cause : EncodeError)
  | outputNotEncoded (cause : EncodeError)
  | configNotWritten (cause : ConfigError)
  deriving DecidableEq, Repr

def Problem.message : Problem → String
  | noConfig cause => "failed to load config: " ++ cause.message
  | badEnvironment cause => "invalid environment: " ++ cause.message
  | badConfig cause => "invalid configuration: " ++ cause.message
  | noCatalog cause => "fixture discovery failed: " ++ cause.message
  | unknownFixture id => "unknown fixture `" ++ id ++ "`"
  | generationZero => "generation numbers start at 1"
  | unknownGeneration number maximum =>
    "unknown generation `" ++ toString number ++ "`: max_generation is " ++ toString maximum
  | summaryCollision report =>
    "report path " ++ report.shown ++ " would collide with its Markdown summary"
  | notCreated directory cause =>
    "failed to create " ++ directory.shown ++ ": " ++ cause.message
  | notWritten file cause => "failed to write " ++ file.shown ++ ": " ++ cause.message
  | noEventPath => "events.path is required"
  | noEventLog log cause => "failed to open event log " ++ log.shown ++ ": " ++ cause.message
  | reportNotEncoded cause => "failed to serialize report: " ++ cause.message
  | outputNotEncoded cause => "failed to serialize output: " ++ cause.message
  | configNotWritten cause => "failed to render config: " ++ cause.message

end BootChain.CommandLine
