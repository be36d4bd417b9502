import BootChain.CommandLine.Problem
import BootChain.Path.Extension

namespace BootChain.CommandLine

/-- Work that may end in a problem. What it has written until then stays written. -/
abbrev Work := ExceptT Problem (StateM FileSystem)

/-- Goes on with changed files, or ends in a problem and leaves them as they are. -/
def Work.update (change : FileSystem → Except IoError FileSystem) (problem : IoError → Problem) :
    Work Unit := do
  match change (← get) with
  | .ok files => set files
  | .error cause => throw (problem cause)

namespace ReportFiles

/-- The extension of a summary. -/
def summaryExtension : Bytes := Utf8.encode "md"

/-- The place of the summary of a report: beside it, under the same name with an extension of its
    own. A report may not take that place itself. -/
def summaryPath (report : Path) : Except Problem Path :=
  if report.extension? = some summaryExtension then .error (.summaryCollision report)
  else .ok (report.withExtension summaryExtension)

/-- Makes the directory that a file is to stand in. -/
def makeParent (file : Path) : Work Unit :=
  match file.parent? with
  | none => return ()
  | some parent =>
    if parent.bytes = [] then return ()
    else ExceptT.mk fun files =>
      let (result, files) := files.createDirs parent
      (result.mapError (.notCreated parent), files)

def writeText (file : Path) (text : String) : Work Unit :=
  Work.update (·.write file (Utf8.encode text)) (.notWritten file)

/-- Writes a report and its summary. -/
def save (report : Path) (document : Except EncodeError String) (summary : String) :
    Work Unit := do
  let summaryPath ← ExceptT.mk (pure (summaryPath report))
  makeParent report
  let document ← ExceptT.mk (pure (document.mapError .reportNotEncoded))
  writeText report document
  writeText summaryPath summary

end ReportFiles

end BootChain.CommandLine
