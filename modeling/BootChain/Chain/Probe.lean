import BootChain.Chain
import BootChain.FileSystem

namespace BootChain.Chain

/-- Where the compiler of a generation is looked for. The first one has the plain name, and the
    others have their generation's label as an extension. -/
def expectedPath (directory : Path) (baseName : String) (generation : Generation) : Path :=
  if generation = .first then directory.join (.ofText baseName)
  else directory.join (.ofText (baseName ++ "." ++ generation.label))

/-- The generations from the first up to a number. -/
def generationsUpTo (last : Nat) : List Generation :=
  (List.range' 1 last).filterMap Generation.ofNat?

/-- Looks for the compiler of one generation. -/
def probeOne (files : FileSystem) (directory : Path) (baseName : String) (chain : Chain)
    (generation : Generation) : Chain :=
  let path := expectedPath directory baseName generation
  if files.isExecutable path then chain.addAvailable ⟨generation, path⟩
  else chain.addMissing generation path

/-- Looks for the compilers of all generations up to a number. One that is not there leaves a
    missing slot, so that a probe never fails. -/
def probe (files : FileSystem) (directory : Path) (baseName : String) (last : Nat) : Chain :=
  (generationsUpTo last).foldl (probeOne files directory baseName) {}

end BootChain.Chain
