import BootChain.Generation
import BootChain.Json.OfPath
import BootChain.SortedMap

namespace BootChain

/-- A compiler of the chain. -/
structure Stage where
  generation : Generation
  binary : Path
  deriving DecidableEq, Repr

/-- What a probe found in the place of one generation. -/
inductive Slot where
  | available (stage : Stage)
  | missing (expectedPath : Path)
  deriving DecidableEq, Repr

namespace Slot

def stage? : Slot → Option Stage
  | available stage => some stage
  | missing _ => none

def path : Slot → Path
  | available stage => stage.binary
  | missing path => path

def json : Slot → Except EncodeError Json
  | available stage => do
    let stage := Json.obj [("generation", .nat stage.generation.number),
      ("binary", ← stage.binary.json)]
    return .obj [("status", .str "available"), ("stage", stage)]
  | missing path => do
    return .obj [("status", .str "missing"), ("expected_path", ← path.json)]

end Slot

/-- The generations that were probed, in ascending order. A compiler stands under its own
    generation. -/
structure Chain where
  slots : SortedMap Generation Slot
  keyed : ∀ entry ∈ slots.entries, ∀ stage, entry.2 = .available stage →
    stage.generation = entry.1

namespace Chain

def empty : Chain := ⟨.empty, fun _ hentry => absurd hentry List.not_mem_nil⟩

instance : EmptyCollection Chain := ⟨empty⟩

/-- Records a compiler that is there, over what its generation held before. -/
def addAvailable (chain : Chain) (stage : Stage) : Chain :=
  ⟨chain.slots.insert stage.generation (.available stage), by
    intro entry hentry found hfound
    rcases SortedMap.mem_insertEntry hentry with rfl | hentry
    · cases hfound
      rfl
    · exact chain.keyed entry hentry found hfound⟩

/-- Records a compiler that is not there, over what its generation held before. -/
def addMissing (chain : Chain) (generation : Generation) (expectedPath : Path) : Chain :=
  ⟨chain.slots.insert generation (.missing expectedPath), by
    intro entry hentry found hfound
    rcases SortedMap.mem_insertEntry hentry with rfl | hentry
    · cases hfound
    · exact chain.keyed entry hentry found hfound⟩

def get? (chain : Chain) (generation : Generation) : Option Slot :=
  chain.slots.get? generation

/-- The slots in ascending order of their generations. -/
def toList (chain : Chain) : List (Generation × Slot) := chain.slots.entries

def size (chain : Chain) : Nat := chain.slots.size

/-- The compilers that are there, in ascending order of their generations. -/
def available (chain : Chain) : List Stage :=
  chain.slots.values.filterMap Slot.stage?

/-- The chain without the generations that are not listed. -/
def restrictTo (chain : Chain) (generations : List Generation) : Chain :=
  ⟨chain.slots.filterKeys generations.contains, fun entry hentry =>
    chain.keyed entry (List.mem_filter.1 hentry).1⟩

/-- Those neighbours in a list of which the second is built by the first. -/
def linksOf : List Generation → List (Generation × Generation)
  | lower :: upper :: rest =>
    if lower.precedes upper then (lower, upper) :: linksOf (upper :: rest)
    else linksOf (upper :: rest)
  | _ => []

/-- The pairs of a compiler and the one it builds, both there, in ascending order. A missing
    generation breaks the chain, so that no pair spans it. -/
def links (chain : Chain) : List (Generation × Generation) :=
  linksOf (chain.available.map Stage.generation)

def json (chain : Chain) : Except EncodeError Json := do
  let members ← chain.toList.mapM fun (generation, slot) => do
    return (toString generation.number, ← slot.json)
  return .obj members

end Chain

end BootChain
