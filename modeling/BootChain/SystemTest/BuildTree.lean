import BootChain.Chain.Probe
import BootChain.Path.Extension

namespace BootChain.SystemTest

/-- How a scripted compiler treats a source. -/
inductive CompilerScript where
  /-- Takes the line that the source prints as its object. -/
  | faithful
  /-- Does that and adds a line of its own. -/
  | diverging
  /-- Compiles nothing. -/
  | failing
  deriving DecidableEq, Repr

/-- What a scripted linker makes of an object. -/
inductive LinkerScript where
  /-- A program that prints the object. -/
  | wrapping
  /-- A program that does not end in time. -/
  | hanging
  deriving DecidableEq, Repr

/-- The first line of every script. -/
def interpreterLine : String := "#!/bin/sh\n"

/-- The command that takes what a source prints out of its text. -/
def extraction : String := "sed -n 's/^.*puts(\"\\(.*\\)\").*$/\\1/p' \"$1\" > \"$3\"\n"

def CompilerScript.content : CompilerScript → String
  | .faithful => interpreterLine ++ extraction
  | .diverging => interpreterLine ++ extraction ++ "echo drift >> \"$3\"\n"
  | .failing => interpreterLine ++ "echo \"$1: internal compiler error\" >&2\nexit 3\n"

def LinkerScript.content : LinkerScript → String
  | .wrapping =>
    interpreterLine ++ "printf '#!/bin/sh\\ncat \"%s\"\\n' \"$1\" > \"$3\"\nchmod +x \"$3\"\n"
  | .hanging =>
    interpreterLine ++ "printf '#!/bin/sh\\nexec sleep 600\\n' > \"$3\"\nchmod +x \"$3\"\n"

/-- A directory with scripted compilers, a scripted linker and test programs. -/
structure BuildTree where
  root : Path

namespace BuildTree

def buildDir (tree : BuildTree) : Path := tree.root.join (.ofText "build")

def fixturesDir (tree : BuildTree) : Path := tree.root.join (.ofText "fixtures")

def linker (tree : BuildTree) : Path := tree.root.join (.ofText "ld.sh")

def artifactDir (tree : BuildTree) : Path := tree.buildDir.join (.ofText "bootstrap-check")

/-- Makes the directories of a tree. -/
def create (tree : BuildTree) (files : FileSystem) : Except IoError FileSystem := do
  let files ← files.withDirs tree.buildDir
  files.withDirs tree.fixturesDir

def writeExecutable (files : FileSystem) (path : Path) (content : String) :
    Except IoError FileSystem := do
  let files ← files.write path (Utf8.encode content)
  files.setMode path fun _ => 0o755

/-- The place of the compiler of a generation. -/
def stagePath (tree : BuildTree) (generation : Generation) : Path :=
  Chain.expectedPath tree.buildDir "c" generation

def installStage (tree : BuildTree) (files : FileSystem) (generation : Generation)
    (script : CompilerScript) : Except IoError FileSystem :=
  writeExecutable files (tree.stagePath generation) script.content

def installLinker (tree : BuildTree) (files : FileSystem) (script : LinkerScript) :
    Except IoError FileSystem :=
  writeExecutable files tree.linker script.content

/-- The place of the source of a test program. -/
def sourcePath (tree : BuildTree) (id : String) : Path :=
  tree.fixturesDir.join (.ofText (id ++ ".c"))

/-- The source of a program that prints one line. -/
def sourceText (line : String) : String :=
  "int main(void) \x7b puts(\"" ++ line ++ "\"); return 0; \x7d\n"

/-- Adds a test program that prints one line, and what is expected of it. -/
def addFixture (tree : BuildTree) (files : FileSystem) (id line : String) :
    Except IoError FileSystem := do
  let source := tree.sourcePath id
  let files ← match source.parent? with
    | some parent => files.withDirs parent
    | none => .ok files
  let files ← files.write source (Utf8.encode (sourceText line))
  files.write (source.withExtension (Utf8.encode "expected")) (Utf8.encode (line ++ "\n"))

end BuildTree

end BootChain.SystemTest
