import BootChain.Path
import BootChain.Text.Blank

namespace BootChain

/-- A program with its arguments. -/
structure Command where
  program : Path
  args : List Bytes
  deriving DecidableEq, Repr

namespace Command

/-- True of a word that would not be read back as one word as it stands. -/
def needsQuotes (word : List Char) : Bool :=
  word.isEmpty || word.any fun c => Text.isBlank c || c == '\'' || c == '"'

/-- A word on a command line. Inside the quotes a quote is written as a closed quote, an escaped
    one and an opened one. -/
def quote (word : List Char) : List Char :=
  if needsQuotes word then
    '\'' :: (word.flatMap fun c => if c = '\'' then ['\'', '\\', '\'', '\''] else [c]) ++ ['\'']
  else word

/-- The words of a command: its program, then its arguments. -/
def words (command : Command) : List Bytes := command.program.bytes :: command.args

/-- The command as reports show it. -/
def line (command : Command) : String :=
  String.ofList ([' '].intercalate (command.words.map fun w => quote (Utf8.lossy w).toList))

end Command

end BootChain
