import BootChain.FileSystem
import BootChain.Fixture
import BootChain.Path.Extension

namespace BootChain

/-- The extensions by which test programs and their expected outputs are known, without dots. -/
structure FixtureLayout where
  source : String := "c"
  expected : String := "expected"
  deriving DecidableEq, Repr

/-- What was found in a directory of test programs. -/
structure Catalog where
  /-- The sources with an expected output, by id. -/
  fixtures : List Fixture
  /-- The sources without one, by path. -/
  orphans : List Path
  deriving DecidableEq, Repr

/-- Why there is no catalog. -/
inductive CatalogError where
  | unreadable (path : Path) (cause : IoError)
  | noFixtures (directory : Path)
  deriving DecidableEq, Repr

def CatalogError.message : CatalogError → String
  | .unreadable path cause => "failed to read " ++ path.shown ++ ": " ++ cause.message
  | .noFixtures directory => "no fixtures found under " ++ directory.shown

namespace Catalog

/-- A source file: the names on the way to it, and its path. -/
structure Source where
  names : List Bytes
  path : Path

def sourceAt (directory : Path) (names : List Bytes) : Source where
  names := names
  path := names.foldl (fun path name => path.join ⟨name⟩) directory

/-- Looks for what is no directory in a directory some way below the one of all, and in those below
    it, at most `depth` of them deep: each by the names on the way to it. A symbolic link is no
    directory and is not followed. -/
def collect (files : FileSystem) (directory : Path) :
    Nat → List Bytes → Except CatalogError (List (List Bytes))
  | 0, _ => .ok []
  | depth + 1, way =>
    let path := (sourceAt directory way).path
    match files.list path with
    | .error cause => .error (.unreadable path cause)
    | .ok (place, names) => do
      let found ← names.mapM fun name =>
        match files.node? (place ++ [name]) with
        | some .dir => collect files directory depth (way ++ [name])
        | some _ => .ok [way ++ [name]]
        | none => .ok []
      return found.flatten

/-- The sources below a directory, by path. No way down leads through more directories than there
    are nodes. -/
def sources (files : FileSystem) (directory : Path) (layout : FixtureLayout) :
    Except CatalogError (List Source) := do
  let leaves ← collect files directory (files.nodes.length + 1) []
  let found := (leaves.map (sourceAt directory)).filter fun source =>
    source.path.extension? = some (Utf8.encode layout.source)
  return found.mergeSort fun a b => a.path.before b.path

/-- A step of a path as part of an id. -/
def partOf : Path.Component → String
  | .root => "/"
  | .here => "."
  | .up => ".."
  | .name bytes => Utf8.lossy bytes

/-- The id of a source: the way to it from the directory of all, without the extension. -/
def idOf (source : Source) : FixtureId :=
  let way : Path := ⟨[Path.slash].intercalate source.names⟩
  ⟨"/".intercalate ((way.withExtension []).components.map partOf)⟩

/-- Adds a source to what was found before it. -/
def add (files : FileSystem) (layout : FixtureLayout) (catalog : Catalog) (source : Source) :
    Except CatalogError Catalog :=
  let expectation := source.path.withExtension (Utf8.encode layout.expected)
  if files.isFile expectation then
    match files.read expectation with
    | .error cause => .error (.unreadable expectation cause)
    | .ok expected =>
      let fixture : Fixture := ⟨idOf source, source.path, expected⟩
      .ok { catalog with fixtures := catalog.fixtures ++ [fixture] }
  else .ok { catalog with orphans := catalog.orphans ++ [source.path] }

/-- Ids stand as texts do. -/
def inOrder (a b : Fixture) : Bool := (compare a.id b.id).isLE

/-- Finds the test programs below a directory; there has to be one. -/
def discover (files : FileSystem) (directory : Path) (layout : FixtureLayout) :
    Except CatalogError Catalog := do
  let found ← sources files directory layout
  let catalog ← found.foldlM (add files layout) ⟨[], []⟩
  if catalog.fixtures.isEmpty then .error (.noFixtures directory)
  else return { catalog with fixtures := catalog.fixtures.mergeSort inOrder }

end Catalog

end BootChain
