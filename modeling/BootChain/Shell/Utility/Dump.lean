import BootChain.Shell.Numeral
import BootChain.Shell.Utility

/-!
The utility that shows octets as numbers or characters.
-/

namespace BootChain.Shell.Dump

/-- How octets are shown: as characters, or as numbers of so many octets in a base. -/
inductive Form where
  | characters
  | named
  | whole (size base : Nat)
  | signed (size : Nat)
  deriving DecidableEq

def padLeft (width : Nat) (fill : Char) (text : Chars) : Chars :=
  List.replicate (width - text.length) fill ++ text

def digitsOf (base n : Nat) : Chars := Nat.toDigits base n

/-- How many digits the numbers of so many octets have at most. -/
def digitCount (size base : Nat) : Nat := (digitsOf base (Nat.pow 256 size - 1)).length

/-- How an octet is shown as a character. -/
def character (c : Char) : Chars :=
  match c with
  | '\x00' => ['\\', '0']
  | '\x07' => ['\\', 'a']
  | '\x08' => ['\\', 'b']
  | '\t' => ['\\', 't']
  | '\n' => ['\\', 'n']
  | '\x0B' => ['\\', 'v']
  | '\x0C' => ['\\', 'f']
  | '\r' => ['\\', 'r']
  | c => if ' ' ≤ c ∧ c ≤ '~' then [c] else padLeft 3 '0' (digitsOf 8 c.toNat)

namespace Form

def size : Form → Nat
  | characters => 1
  | named => 1
  | whole size _ => size
  | signed size => size

/-- How many columns a number has, without the blank before it. -/
def width : Form → Nat
  | characters => 3
  | named => 3
  | whole size base => digitCount size base
  | signed size => (digitsOf 10 (Nat.pow 256 size / 2)).length + 1

/-- Shows the octets of one number, of which the first counts least. -/
def text (form : Form) (octets : Chars) : Chars :=
  let n := octets.foldr (fun c n => n * 256 + c.toNat) 0
  match form with
  | characters => character (octets.headD ' ')
  | named => character (octets.headD ' ')
  | whole size base =>
    if base = 10 then digitsOf 10 n else padLeft (digitCount size base) '0' (digitsOf base n)
  | signed size =>
    let n := Int.ofNat n
    let all := Int.ofNat (Nat.pow 256 size)
    (toString (if n * 2 ≥ all then n - all else n)).toList

end Form

def form? (word : Chars) : Option Form :=
  let size (digits : Chars) (standard : Nat) : Nat :=
    match digits with
    | [] => standard
    | ['C'] => 1
    | ['S'] => 2
    | ['I'] => 4
    | ['L'] => 8
    | digits => (numberAt digits).1
  match word with
  | 'c' :: _ => some .characters
  | 'a' :: _ => some .named
  | 'x' :: digits => some (.whole (size digits 4) 16)
  | 'o' :: digits => some (.whole (size digits 4) 8)
  | 'u' :: digits => some (.whole (size digits 4) 10)
  | 'd' :: digits => some (.signed (size digits 4))
  | _ => none

/-- Some octets in groups of at most so many. -/
def groups (size : Nat) : Nat → Chars → List Chars
  | 0, _ => []
  | fuel + 1, chars =>
    if chars = [] then [] else chars.take (max 1 size) :: groups size fuel (chars.drop (max 1 size))

/-- Lines of octets with their offsets, in which a run of the same line is shown once. -/
def lines (address : Nat → Chars) (forms : List Form) (all : Bool) :
    Nat → Option Chars → Bool → List Chars → List Chars
  | _, _, _, [] => []
  | offset, last, starred, line :: rest =>
    if !all ∧ last = some line ∧ !rest.isEmpty then
      let more := lines address forms all (offset + line.length) last true rest
      if starred then more else ['*'] :: more
    else
      -- A column is as wide as the widest form needs it to be for as many octets.
      let cell (form : Form) : Nat := forms.foldl
        (fun width other =>
          max width ((other.width + 1) * (max 1 (form.size / other.size)))) (form.width + 1)
      let shown := forms.map fun form =>
        ((groups form.size (line.length + 1) line).map fun octets =>
          padLeft (cell form) ' ' (form.text octets)).flatten
      let first := address offset ++ shown.headD []
      let others := (shown.drop 1).map fun text =>
        List.replicate (address offset).length ' ' ++ text
      first :: others ++ lines address forms all (offset + line.length) (some line) false rest

def od (task : Task) (args : List Chars) : Task :=
  task.withOptions { plain := "bcdoxvs", valued := "AtNjw" } 1 args fun task options =>
    let forms := options.flags.filterMap fun (letter, word) =>
      match letter with
      | 'b' => some (.whole 1 8)
      | 'c' => some .characters
      | 'd' => some (.whole 2 10)
      | 'o' => some (.whole 2 8)
      | 'x' => some (.whole 2 16)
      | 't' => form? word
      | _ => none
    let forms := if forms = [] then [.whole 2 8] else forms
    let number (letter : Char) : Option Nat := (options.value? letter).map fun word => (numberAt word).1
    let address : Nat → Chars := match options.value? 'A' with
      | some ['n'] => fun _ => []
      | some ['d'] => fun n => padLeft 7 '0' (digitsOf 10 n)
      | some ['x'] => fun n => padLeft 6 '0' (digitsOf 16 n)
      | _ => fun n => padLeft 7 '0' (digitsOf 8 n)
    let words := if options.words = [] then [['-']] else options.words
    let (text, task) := words.foldl
      (fun (text, (task : Task)) word =>
        match task.contentOf word with
        | (.ok content, task) =>
          let stuck := content.endless && (number 'N').isNone
          (text ++ content.text, { task with stuck := task.stuck || stuck })
        | (.error e, task) => (text, task.unread 1 word e))
      (([] : Chars), task)
    let skipped := (number 'j').getD 0
    let text := text.drop skipped
    let text := match number 'N' with
      | some n => text.take n
      | none => text
    let shown := lines address forms (options.has 'v') skipped none false
      (groups ((number 'w').getD 16) (text.length + 1) text)
    let last := address (skipped + text.length)
    let task := shown.foldl Task.printLine task
    if last = [] then task else task.printLine last

end BootChain.Shell.Dump
