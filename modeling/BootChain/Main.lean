import BootChain.CommandLine.Perform
import BootChain.Installation
import Std.Time.DateTime.Timestamp

/-!
The program. It works on a picture of the files below the working directory, and then brings the
host's files to the state in which the command has left that picture.
-/

namespace BootChain.Main

/-- The host's name for a location, if all names on the way to it are text. -/
def hostPath? (place : Location) : Option String :=
  (place.mapM Utf8.text?).map fun names => "/" ++ "/".intercalate names

/-- The host does not tell modes, so scripts and programs are known by their first octets. -/
def modeOf (content : Bytes) : Nat :=
  if [0x23, 0x21].isPrefixOf content || [0x7F, 0x45, 0x4C, 0x46].isPrefixOf content then 0o755
  else 0o644

/-- The nodes at and below an entry of a directory. What cannot be read is left out. -/
partial def picture (place : Location) : IO (List (Location × Node)) := do
  let some path := hostPath? place | return []
  try
    match (← (System.mkFilePath [path]).symlinkMetadata).type with
    | .dir =>
      let entries ← (System.mkFilePath [path]).readDir
      let below ← entries.toList.mapM fun entry => picture (place ++ [Utf8.encode entry.fileName])
      return (place, .dir) :: below.flatten
    | .file =>
      let content := (← IO.FS.readBinFile path).toList
      return [(place, .file content (modeOf content))]
    | .symlink =>
      let target ← IO.FS.realPath path
      return [(place, .link (.ofText target.toString))]
    | .other => return []
  catch _ => return []

/-- The picture of the files below the working directory. -/
def snapshot : IO FileSystem := do
  let here := Path.segments (Utf8.encode (← IO.currentDir).toString) |>.filter (· ≠ [])
  let above := (List.range here.length).drop 1 |>.map fun n => (here.take n, Node.dir)
  let nodes := above ++ (← picture here) ++ Installation.nodes
  return { nodes, workingDirectory := here }

def environment : IO Environment := do
  let found ← Variable.all.filterMapM fun v => do
    return (← IO.getEnv v.name).map fun text => (v.name, Utf8.encode text)
  return ⟨found⟩

/-- Gives the host what has a new content, and takes away the files that are gone. -/
def store (before after : FileSystem) : IO Unit := do
  for (place, node) in before.nodes do
    if let some path := hostPath? place then
      if node ≠ .dir ∧ (after.node? place).isNone then IO.FS.removeFile path
  for (place, node) in after.nodes do
    if let some path := hostPath? place then
      if before.node? place ≠ some node then
        match node with
        | .dir => IO.FS.createDirAll path
        | .file content mode =>
          IO.FS.writeBinFile path ⟨content.toArray⟩
          let x := mode &&& 0o111 ≠ 0
          IO.setAccessRights path
            ⟨⟨true, true, x⟩, ⟨true, false, x⟩, ⟨true, false, x⟩⟩
        | .link _ => pure ()
        | .device _ => pure ()

end BootChain.Main

open BootChain

def main (arguments : List String) : IO UInt32 := do
  let files ← Main.snapshot
  let moment := (← Std.Time.Timestamp.now).toMillisecondsSinceUnixEpoch
  let outcome := CommandLine.perform (arguments.map Utf8.encode)
    { files, environment := ← Main.environment, momentMs := moment.val.toNat }
  Main.store files outcome.files
  IO.print outcome.stdout
  IO.eprint outcome.stderr
  return outcome.exitCode.toUInt32
