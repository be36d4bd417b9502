import BootChain.Digest.Sha256
import BootChain.Fixture
import BootChain.Generation

namespace BootChain

/-- The two files that the trial of one pair writes. -/
structure Artifacts where
  object : Path
  executable : Path
  deriving DecidableEq, Repr

namespace Artifacts

def isPlain (c : Char) : Bool :=
  ('a' ≤ c && c ≤ 'z') || ('A' ≤ c && c ≤ 'Z') || ('0' ≤ c && c ≤ '9') || c == '_' || c == '-'

/-- An id as part of a file name: whatever is not a plain character becomes an underscore, and
    nothing becomes one too. -/
def plainName (id : FixtureId) : String :=
  if id.text.isEmpty then "_"
  else String.ofList (id.text.toList.map fun c => if isPlain c then c else '_')

/-- The start of the digest of an id, which tells apart ids with one plain name. -/
def tag (id : FixtureId) : String :=
  Sha256.hex ((Sha256.digest (Utf8.encode id.text)).take 4)

/-- The file name of a pair's artifacts, less its extension. -/
def stem (generation : Generation) (id : FixtureId) : String :=
  plainName id ++ "-" ++ tag id ++ "." ++ generation.label

/-- The artifacts of a pair under a directory. -/
def under (directory : Path) (generation : Generation) (id : FixtureId) : Artifacts where
  object := directory.join (.ofText (stem generation id ++ ".o"))
  executable := directory.join (.ofText (stem generation id ++ ".exe"))

/-- Both files, in the order in which a trial writes them. -/
def paths (artifacts : Artifacts) : List Path := [artifacts.object, artifacts.executable]

end Artifacts

end BootChain
