import BootChain.CommandLine.Arguments

namespace BootChain.CommandLine

def programName : String := "bootstrap-check"

def programVersion : String := "0.1.0"

def versionText : String := programName ++ " " ++ programVersion ++ "\n"

/-- A line about one thing: its name, and what is said about it. -/
structure HelpEntry where
  name : String
  about : String

/-- Lines with the names in one column and the rest in another. -/
def HelpEntry.table (entries : List HelpEntry) : String :=
  let width := (entries.map (·.name.length)).foldl max 0
  String.join <| entries.map fun entry =>
    "  " ++ entry.name.pushn ' ' (width - entry.name.length) ++ "  " ++ entry.about ++ "\n"

def Flag.entry {σ : Type} (flag : Flag σ) : HelpEntry where
  name := match flag.effect with
    | .switch _ => "--" ++ flag.name
    | .value shape _ => "--" ++ flag.name ++ " <" ++ shape ++ ">"
  about := flag.about

namespace Topic

/-- The words that lead to a command. -/
def words : Topic → List String
  | .program => [programName]
  | .run => [programName, "run"]
  | .stages => [programName, "stages"]
  | .fixtures => [programName, "fixtures"]
  | .config => [programName, "config"]
  | .checkConfig => [programName, "config", "validate"]

def about : Topic → String
  | .program => "Verify a self-hosting compiler's bootstrap chain"
  | .run => "Run every fixture through every available generation"
  | .stages => "List probed compiler generations"
  | .fixtures => "List discovered fixtures and orphaned sources"
  | .config => "Configuration utilities"
  | .checkConfig => "Validate the effective configuration"

/-- The commands that a command leads to. -/
def commands : Topic → List Topic
  | .program => [.run, .stages, .fixtures, .config]
  | .config => [.checkConfig]
  | _ => []

/-- What can be said after a command with dashes. -/
def flagEntries : Topic → List HelpEntry
  | .run => RunOptions.flags.map Flag.entry
  | .stages => ListingOptions.flags.map Flag.entry
  | .fixtures => ListingOptions.flags.map Flag.entry
  | .checkConfig => CheckOptions.flags.map Flag.entry
  | .program => [⟨"-V, --version", "Print version"⟩]
  | .config => []

def usage (topic : Topic) : String :=
  let rest := if topic.commands.isEmpty then "[OPTIONS]" else "<COMMAND>"
  "Usage: " ++ " ".intercalate (topic.words ++ [rest]) ++ "\n"

def commandTable (topic : Topic) : String :=
  if topic.commands.isEmpty then ""
  else
    "\nCommands:\n" ++ HelpEntry.table (topic.commands.map fun command =>
      ⟨command.words.getLast?.getD "", command.about⟩)

def help (topic : Topic) : String :=
  topic.about ++ "\n\n" ++ topic.usage ++ topic.commandTable ++ "\nOptions:\n" ++
    HelpEntry.table (topic.flagEntries ++ [⟨"-h, --help", "Print help"⟩])

end Topic

def Misuse.message : Misuse → String
  | noCommand => "a command is missing"
  | unknownCommand word => "unknown command '" ++ Utf8.lossy word ++ "'"
  | unknownFlag argument => "unexpected argument '" ++ Utf8.lossy argument ++ "'"
  | strayWord word => "unexpected argument '" ++ Utf8.lossy word ++ "'"
  | noValue flag => "a value is required for '--" ++ flag ++ "'"
  | needlessValue flag => "'--" ++ flag ++ "' takes no value"
  | badValue flag value => "invalid value '" ++ Utf8.lossy value ++ "' for '--" ++ flag ++ "'"
  | repeatedFlag flag => "'--" ++ flag ++ "' cannot be used more than once"

/-- What a misuse is answered with. -/
def Misuse.report (cause : Misuse) : String :=
  "error: " ++ cause.message ++ "\n\n" ++ Topic.program.usage ++
    "\nFor more information, try '--help'.\n"

end BootChain.CommandLine
