import BootChain.Text.Utf8

namespace BootChain

/-- A path as its raw octets. Two spellings of one place are two paths. -/
structure Path where
  bytes : Bytes
  deriving DecidableEq, Repr, Inhabited

namespace Path

def slash : UInt8 := 0x2F

def dot : UInt8 := 0x2E

def ofText (text : String) : Path := ⟨Utf8.encode text⟩

/-- The path as shown to a reader. -/
def shown (p : Path) : String := Utf8.lossy p.bytes

/-- The path as text, if it is well-formed UTF-8. -/
def text? (p : Path) : Option String := Utf8.text? p.bytes

def isAbsolute (p : Path) : Bool := p.bytes.head? = some slash

/-- `rest` seen from `base`: an absolute `rest` stands alone, and an empty one adds a slash. -/
def join (base rest : Path) : Path :=
  if rest.isAbsolute then rest
  else if base.bytes = [] ∨ base.bytes.getLast? = some slash then ⟨base.bytes ++ rest.bytes⟩
  else ⟨base.bytes ++ slash :: rest.bytes⟩

/-- The pieces between slashes, empty ones included. -/
def segments (bytes : Bytes) : List Bytes :=
  bytes.foldr
    (fun b pieces =>
      if b = slash then [] :: pieces
      else match pieces with
        | [] => [[b]]
        | piece :: rest => (b :: piece) :: rest)
    [[]]

/-- One step of a path, with the repeated slashes and inner dots left out. -/
inductive Component where
  | root
  | here
  | up
  | name (bytes : Bytes)
  deriving DecidableEq, Repr

/-- How many octets a component has. -/
def Component.length : Component → Nat
  | .root => 1
  | .here => 1
  | .up => 2
  | .name bytes => bytes.length

/-- What a piece between slashes stands for; an empty piece and a dot stand for nothing. -/
def Component.ofSegment? (segment : Bytes) : Option Component :=
  if segment = [] ∨ segment = [dot] then none
  else if segment = [dot, dot] then some .up
  else some (.name segment)

/-- The steps of a path. A dot counts only where a relative path starts with one. -/
def components (p : Path) : List Component :=
  let pieces := segments p.bytes
  let lead :=
    if p.isAbsolute then [Component.root]
    else if pieces.head? = some [dot] then [.here]
    else []
  lead ++ pieces.filterMap Component.ofSegment?

/-- Components stand in the order root, dot, dot-dot, names, and names stand by their octets. -/
def Component.rank : Component → Nat × Bytes
  | .root => (0, [])
  | .here => (1, [])
  | .up => (2, [])
  | .name bytes => (3, bytes)

/-- Paths stand by their components, so that a directory's entries are together. -/
def before (a b : Path) : Bool :=
  let key (p : Path) := p.components.map Component.rank
  go (key a) (key b)
where
  go : List (Nat × Bytes) → List (Nat × Bytes) → Bool
    | [], _ => true
    | _ :: _, [] => false
    | (m, x) :: xs, (n, y) :: ys =>
      if m ≠ n then m < n
      else if x ≠ y then x < y
      else go xs ys

/-- Takes off what names no further step at the end of a reversed path: slashes and dots that
    follow a slash. -/
def dropIdle : Bytes → Bytes
  | [] => []
  | b :: rest =>
    if b = slash then dropIdle rest
    else if b = dot ∧ rest.head? = some slash then dropIdle rest
    else b :: rest

/-- The path up to the end of its last step. -/
def trimmed (p : Path) : Bytes := (dropIdle p.bytes.reverse).reverse

/-- The last piece of a path, with the octets before it. -/
def splitLast (p : Path) : Bytes × Bytes :=
  let reversed := p.trimmed.reverse
  ((reversed.dropWhile (· ≠ slash)).reverse, (reversed.takeWhile (· ≠ slash)).reverse)

/-- The name that a path ends in; a path that ends in a root, a dot or two dots has none. -/
def fileName? (p : Path) : Option Bytes :=
  let name := p.splitLast.2
  if name = [] ∨ name = [dot] ∨ name = [dot, dot] then none else some name

/-- The directory that the last step of a path starts from. -/
def parent? (p : Path) : Option Path :=
  let (before, last) := p.splitLast
  if last = [] then none
  else
    let directory := trimmed ⟨before⟩
    some ⟨if directory = [] ∧ p.isAbsolute then [slash] else directory⟩

/-- The absolute path of a place seen from `directory`. Dots and repeated slashes vanish, while
    two dots and a final slash stay; exactly two leading slashes stay too. -/
def absoluteFrom (directory p : Path) : Path :=
  let names := (segments p.bytes).filter fun segment => segment ≠ [] ∧ segment ≠ [dot]
  let pieces := p.bytes.splitBy fun a b => (a = slash) = (b = slash)
  let start : Path :=
    if !p.isAbsolute then directory
    else if (pieces.head?.map List.length) = some 2 then ⟨[slash, slash]⟩
    else ⟨[slash]⟩
  let whole := names.foldl (fun path name => path.join ⟨name⟩) start
  if p.bytes.getLast? = some slash then whole.join ⟨[]⟩ else whole

end Path

end BootChain
