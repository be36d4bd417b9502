import BootChain.IoError
import BootChain.Path

namespace BootChain

/-- A place in the tree of files: the names on the way to it from the root. -/
abbrev Location := List Bytes

/-- A device that takes or gives octets. -/
inductive Device where
  /-- Holds nothing and takes whatever is written. -/
  | null
  /-- Gives zeros without end and takes whatever is written. -/
  | zero
  /-- Gives zeros without end and takes nothing. -/
  | full
  deriving DecidableEq, Repr

/-- What stands at a location. -/
inductive Node where
  | file (content : Bytes) (mode : Nat)
  | dir
  | link (target : Path)
  | device (device : Device)
  deriving DecidableEq, Repr

/-- A tree of files, as its nodes below the root in the order in which directories list them, and
    the directory that relative paths start from. The root itself is always a directory. -/
structure FileSystem where
  nodes : List (Location × Node) := []
  workingDirectory : Location := []

namespace FileSystem

def node? (fs : FileSystem) (place : Location) : Option Node :=
  if place = [] then some .dir else fs.nodes.lookup place

/-- Puts a node at a location, in the place of the one there is. -/
def put (fs : FileSystem) (place : Location) (node : Node) : FileSystem :=
  if (fs.nodes.lookup place).isSome then
    { fs with nodes := fs.nodes.map fun entry => if entry.1 = place then (place, node) else entry }
  else { fs with nodes := fs.nodes ++ [(place, node)] }

def erase (fs : FileSystem) (place : Location) : FileSystem :=
  { fs with nodes := fs.nodes.filter fun entry => entry.1 ≠ place }

/-- The names that a directory lists, in its own order. -/
def namesIn (fs : FileSystem) (directory : Location) : List Bytes :=
  fs.nodes.filterMap fun entry =>
    if entry.1 ≠ [] ∧ entry.1.dropLast = directory then entry.1.getLast? else none

/-- Where a walk along a path ends: at a node, or at the free place where the path's last name
    could be put. `asDirectory` says that slashes follow that name, so that the path asks for a
    directory there. -/
inductive Target where
  | found (place : Location) (node : Node) (asDirectory : Bool)
  | free (place : Location) (asDirectory : Bool)

/-- Walks along the pieces of a path. `onLink` goes on with the target of a symbolic link and the
    pieces that are left; a link in the last piece is followed only if `follow` says so. -/
def walkPieces (fs : FileSystem) (follow : Bool)
    (onLink : Location → Path → List Bytes → Except IoError Target) :
    Location → List Bytes → Except IoError Target
  | here, [] =>
    match fs.node? here with
    | some node => .ok (.found here node false)
    | none => .error .notFound
  | here, piece :: rest =>
    if piece = [] ∨ piece = [Path.dot] then walkPieces fs follow onLink here rest
    else if piece = [Path.dot, Path.dot] then walkPieces fs follow onLink here.dropLast rest
    else if piece.length > 255 then .error .nameTooLong
    else
      let place := here ++ [piece]
      let isLast := rest.all (· = [])
      match fs.node? place with
      | none => if isLast then .ok (.free place (!rest.isEmpty)) else .error .notFound
      | some .dir => walkPieces fs follow onLink place rest
      | some (.link target) =>
        if isLast && !follow then .ok (.found place (.link target) (!rest.isEmpty))
        else onLink here target rest
      | some node =>
        if isLast then .ok (.found place node (!rest.isEmpty)) else .error .notADirectory

/-- Walks along the pieces of a path through at most `budget` symbolic links. -/
def walk (fs : FileSystem) (follow : Bool) :
    Nat → Location → List Bytes → Except IoError Target
  | 0, here, pieces => walkPieces fs follow (fun _ _ _ => .error .tooManyLinks) here pieces
  | budget + 1, here, pieces =>
    walkPieces fs follow
      (fun here target rest =>
        walk fs follow budget (if target.isAbsolute then [] else here)
          (Path.segments target.bytes ++ rest))
      here pieces

/-- How many symbolic links one path may lead through. -/
def linkBudget : Nat := 40

/-- The path of the directory that relative paths start from. -/
def workingPath (fs : FileSystem) : Path :=
  ⟨Path.slash :: [Path.slash].intercalate fs.workingDirectory⟩

/-- Finds where a path leads. -/
def resolve (fs : FileSystem) (follow : Bool) (p : Path) : Except IoError Target :=
  if p.bytes.contains 0 then .error .nulInPath
  else if p.bytes = [] then .error .notFound
  else if p.bytes.length ≥ 4096 then .error .nameTooLong
  else
    walk fs follow linkBudget (if p.isAbsolute then [] else fs.workingDirectory)
      (Path.segments p.bytes)

/-- The node that a path leads to, through symbolic links. -/
def stat (fs : FileSystem) (p : Path) : Except IoError (Location × Node) := do
  match ← fs.resolve true p with
  | .found place node asDirectory =>
    if asDirectory ∧ node ≠ .dir then .error .notADirectory else .ok (place, node)
  | .free _ _ => .error .notFound

/-- True of a path that leads to a regular file. -/
def isFile (fs : FileSystem) (p : Path) : Bool :=
  match fs.stat p with
  | .ok (_, .file _ _) => true
  | _ => false

/-- True of a path that leads to a directory. -/
def isDirectory (fs : FileSystem) (p : Path) : Bool :=
  match fs.stat p with
  | .ok (_, .dir) => true
  | _ => false

/-- True of a path that leads to a regular file which someone may execute. -/
def isExecutable (fs : FileSystem) (p : Path) : Bool :=
  match fs.stat p with
  | .ok (_, .file _ mode) => mode &&& 0o111 != 0
  | _ => false

/-- The location of a directory and the names that it lists. -/
def list (fs : FileSystem) (p : Path) : Except IoError (Location × List Bytes) := do
  match ← fs.stat p with
  | (place, .dir) => .ok (place, fs.namesIn place)
  | _ => .error .notADirectory

/-- Reads a whole file. A device gives nothing. -/
def read (fs : FileSystem) (p : Path) : Except IoError Bytes := do
  match ← fs.stat p with
  | (_, .file content _) => .ok content
  | (_, .device _) => .ok []
  | _ => .error .isADirectory

/-- The mode of a file that a write creates. -/
def newFileMode : Nat := 0o644

/-- Opens a file for writing, creating it if there is none, and replaces its content by what
    `update` makes of the old one. Only a device that is full cares what it is. -/
def modify (fs : FileSystem) (p : Path) (update : Bytes → Bytes) : Except IoError FileSystem := do
  match ← fs.resolve true p with
  | .found _ _ true => .error .isADirectory
  | .found place (.file content mode) false => .ok (fs.put place (.file (update content) mode))
  | .found _ (.device device) false =>
    if device = .full ∧ update [] ≠ [] then .error .deviceFull else .ok fs
  | .found _ _ false => .error .isADirectory
  | .free _ true => .error .isADirectory
  | .free place false => .ok (fs.put place (.file (update []) newFileMode))

/-- Writes a whole file. -/
def write (fs : FileSystem) (p : Path) (content : Bytes) : Except IoError FileSystem :=
  fs.modify p fun _ => content

/-- Writes at the end of a file. -/
def append (fs : FileSystem) (p : Path) (content : Bytes) : Except IoError FileSystem :=
  fs.modify p (· ++ content)

/-- Sets the mode of the file that a path leads to. -/
def setMode (fs : FileSystem) (p : Path) (update : Nat → Nat) : Except IoError FileSystem := do
  match ← fs.stat p with
  | (place, .file content mode) => .ok (fs.put place (.file content (update mode)))
  | _ => .ok fs

/-- Takes away a file or a symbolic link. -/
def removeFile (fs : FileSystem) (p : Path) : Except IoError FileSystem := do
  match ← fs.resolve false p with
  | .found _ .dir _ => .error .isADirectory
  | .found _ _ true => .error .notADirectory
  | .found place _ false => .ok (fs.erase place)
  | .free _ _ => .error .notFound

/-- Creates one directory. -/
def createDir (fs : FileSystem) (p : Path) : Except IoError FileSystem := do
  match ← fs.resolve false p with
  | .found _ _ _ => .error .alreadyExists
  | .free place _ => .ok (fs.put place .dir)

/-- Creates one directory, and is content with one that is there. -/
def ensureDir (fs : FileSystem) (p : Path) : Except IoError FileSystem :=
  match fs.createDir p with
  | .ok fs => .ok fs
  | .error e => if fs.isDirectory p then .ok fs else .error e

/-- Creates a directory with the parents that are missing, going up at most `depth` of them. The
    parents that were made stay even if the directory cannot be. -/
def createDirsUpTo (fs : FileSystem) : Nat → Path → Except IoError Unit × FileSystem
  | 0, _ => (.error .wholeTree, fs)
  | depth + 1, p =>
    if p.bytes = [] then (.ok (), fs)
    else match fs.ensureDir p with
      | .ok fs => (.ok (), fs)
      | .error .notFound =>
        match p.parent? with
        | none => (.error .wholeTree, fs)
        | some parent =>
          match createDirsUpTo fs depth parent with
          | (.ok (), fs) =>
            match fs.ensureDir p with
            | .ok fs => (.ok (), fs)
            | .error e => (.error e, fs)
          | failed => failed
      | .error e => (.error e, fs)

/-- Creates a directory with the parents that are missing. -/
def createDirs (fs : FileSystem) (p : Path) : Except IoError Unit × FileSystem :=
  fs.createDirsUpTo (p.bytes.length + 1) p

/-- The files with a directory and the parents that were missing. -/
def withDirs (fs : FileSystem) (p : Path) : Except IoError FileSystem :=
  match fs.createDirs p with
  | (.ok (), fs) => .ok fs
  | (.error e, _) => .error e

/-- Creates a symbolic link. -/
def createLink (fs : FileSystem) (p target : Path) : Except IoError FileSystem := do
  match ← fs.resolve false p with
  | .free place false => .ok (fs.put place (.link target))
  | .free _ true => .error .notFound
  | .found _ _ _ => .error .alreadyExists

end FileSystem

end BootChain
