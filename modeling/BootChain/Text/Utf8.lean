namespace BootChain

/-- Raw octets, as files, process streams, arguments and paths hold them. -/
abbrev Bytes := List UInt8

namespace Utf8

/-- The octets of a text. -/
def encode (text : String) : Bytes :=
  text.toList.flatMap String.utf8EncodeChar

/-- A sequence under way: the bits read so far, how many octets it still wants, and the range
    the next octet must lie in. The range is what excludes overlong forms and surrogates. -/
structure Sequence where
  bits : Nat
  wanted : Nat
  low : UInt8
  high : UInt8
  deriving DecidableEq, Repr

/-- What one octet yields at the start of a sequence, or as the next octet of one. -/
inductive Progress where
  | scalar (c : Char)
  | more (s : Sequence)
  | illFormed

/-- Reads an octet where a new sequence may start. -/
def start (b : UInt8) : Progress :=
  if b < 0x80 then .scalar (Char.ofNat b.toNat)
  else if b < 0xC2 then .illFormed
  else if b < 0xE0 then .more ⟨b.toNat - 0xC0, 1, 0x80, 0xBF⟩
  else if b < 0xF0 then
    .more ⟨b.toNat - 0xE0, 2, if b = 0xE0 then 0xA0 else 0x80, if b = 0xED then 0x9F else 0xBF⟩
  else if b < 0xF5 then
    .more ⟨b.toNat - 0xF0, 3, if b = 0xF0 then 0x90 else 0x80, if b = 0xF4 then 0x8F else 0xBF⟩
  else .illFormed

/-- Reads a further octet of a sequence. -/
def Sequence.advance (s : Sequence) (b : UInt8) : Progress :=
  if s.low ≤ b ∧ b ≤ s.high then
    let bits := s.bits * 64 + (b.toNat - 0x80)
    if s.wanted ≤ 1 then .scalar (Char.ofNat bits)
    else .more ⟨bits, s.wanted - 1, 0x80, 0xBF⟩
  else .illFormed

/-- A decoder between two octets: what it has read, last first, and the sequence under way.
    `none` stands for a maximal ill-formed subsequence. -/
structure Decoder where
  read : List (Option Char) := []
  pending : Option Sequence := none

/-- Takes in an octet where no sequence is under way. -/
def Decoder.begin (read : List (Option Char)) (b : UInt8) : Decoder :=
  match start b with
  | .scalar c => ⟨some c :: read, none⟩
  | .more s => ⟨read, some s⟩
  | .illFormed => ⟨none :: read, none⟩

/-- Takes in an octet. One that cannot continue the sequence under way ends it as ill-formed and
    is then read again as the start of the next. -/
def Decoder.feed (d : Decoder) (b : UInt8) : Decoder :=
  match d.pending with
  | none => .begin d.read b
  | some s =>
    match s.advance b with
    | .scalar c => ⟨some c :: d.read, none⟩
    | .more s => ⟨d.read, some s⟩
    | .illFormed => .begin (none :: d.read) b

/-- What was read once the octets are over; a sequence left open is ill-formed. -/
def Decoder.finish (d : Decoder) : List (Option Char) :=
  (if d.pending.isSome then none :: d.read else d.read).reverse

/-- The scalar values of an octet string, with `none` for each maximal ill-formed subsequence. -/
def decode (bytes : Bytes) : List (Option Char) :=
  (bytes.foldl Decoder.feed {}).finish

/-- The text of an octet string, if it is well-formed throughout. -/
def text? (bytes : Bytes) : Option String :=
  let chars := decode bytes
  if chars.all Option.isSome then some (String.ofList (chars.filterMap id)) else none

/-- The text of an octet string, with U+FFFD for each maximal ill-formed subsequence. -/
def lossy (bytes : Bytes) : String :=
  String.ofList ((decode bytes).map (·.getD '\uFFFD'))

end Utf8

end BootChain
