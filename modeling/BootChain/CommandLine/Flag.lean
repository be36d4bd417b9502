import BootChain.CommandLine.Request
import BootChain.Text.Decimal

namespace BootChain.CommandLine

/-- A way in which arguments ask for nothing that the program can do. -/
inductive Misuse where
  | noCommand
  | unknownCommand (word : Bytes)
  | unknownFlag (argument : Bytes)
  | strayWord (word : Bytes)
  | noValue (flag : String)
  | needlessValue (flag : String)
  | badValue (flag : String) (value : Bytes)
  | repeatedFlag (flag : String)
  deriving DecidableEq, Repr

/-- Why arguments are not taken as a request. -/
inductive Stop where
  | misuse (cause : Misuse)
  | help (topic : Topic)
  | version
  deriving DecidableEq, Repr

/-- What an argument looks like. -/
inductive Token where
  /-- Two dashes and a name, with what follows an equals sign. -/
  | long (name : Bytes) (value : Option Bytes)
  /-- One dash and letters. -/
  | short (letters : Bytes)
  /-- Two dashes alone. -/
  | dashes
  /-- Anything else, a single dash too. -/
  | word
  deriving DecidableEq, Repr

namespace Token

def dash : UInt8 := 0x2D

def equals : UInt8 := 0x3D

def ofBytes (argument : Bytes) : Token :=
  match argument with
  | [] => .word
  | [_] => .word
  | first :: second :: rest =>
    if first ≠ dash then .word
    else if second ≠ dash then .short (second :: rest)
    else if rest = [] then .dashes
    else .long (rest.takeWhile (· ≠ equals)) (rest.dropWhile (· ≠ equals)).tail?

end Token

/-- What a flag does to the options that were read before it. -/
inductive Effect (σ : Type) where
  | switch (turn : σ → σ)
  /-- Takes a value, which it may refuse. The shape is what help texts call the value. -/
  | value (shape : String) (take : Bytes → σ → Option σ)

/-- Takes the values that can be read as something, which is then put into the options. -/
def Effect.reading {α σ : Type} (shape : String) (read : Bytes → Option α) (put : α → σ → σ) :
    Effect σ :=
  .value shape fun value options => (read value).map fun a => put a options

/-- A flag that a command knows by a name. -/
structure Flag (σ : Type) where
  name : String
  about : String
  repeatable : Bool := false
  effect : Effect σ

namespace Flag

variable {σ τ : Type}

/-- A flag of a part of the options. -/
def within (flag : Flag τ) (get : σ → τ) (put : τ → σ → σ) : Flag σ where
  name := flag.name
  about := flag.about
  repeatable := flag.repeatable
  effect := match flag.effect with
    | .switch turn => .switch fun options => put (turn (get options)) options
    | .value shape take =>
      .value shape fun value options =>
        (take value (get options)).map fun inner => put inner options

/-- A path may not be empty, and need not be text. -/
def readPath (value : Bytes) : Option Path :=
  if value = [] then none else some ⟨value⟩

/-- Reads a number up to `bound`, with at most one plus sign. -/
def readNumber (bound : Nat) (value : Bytes) : Option Nat :=
  (Utf8.text? value).bind fun text => Decimal.readUpTo bound text.toList

/-- Reads a number up to `bound`, with at most one sign. Zero may have a minus sign. -/
def readSigned (bound : Nat) (value : Bytes) : Option Nat :=
  (Utf8.text? value).bind fun text =>
    match text.toList with
    | '-' :: digits => (Decimal.digits? digits).filter (· = 0)
    | chars => Decimal.readUpTo bound chars

def readFormat (value : Bytes) : Option Format :=
  Format.all.find? fun format => Utf8.encode format.label = value

/-- The options with a value in them. -/
def give (flag : Flag σ) (take : Bytes → σ → Option σ) (value : Bytes) (options : σ) :
    Except Stop σ :=
  match take value options with
  | some options => .ok options
  | none => .error (.misuse (.badValue flag.name value))

/-- Finds the flag that a long argument names, after those that were seen. The flag for help is
    always known, and asks for help. -/
def named (topic : Topic) (flags : List (Flag σ)) (seen : List String) (argument name : Bytes)
    (attached : Option Bytes) : Except Stop (Flag σ) :=
  if name = Utf8.encode "help" then
    .error (if attached.isSome then .misuse (.needlessValue "help") else .help topic)
  else match flags.find? fun flag => Utf8.encode flag.name = name with
    | none => .error (.misuse (.unknownFlag argument))
    | some flag =>
      if !flag.repeatable && seen.contains flag.name then
        .error (.misuse (.repeatedFlag flag.name))
      else .ok flag

/-- Reads flags in order into options. What is wrong first, or asks for help first, stops it. -/
def readAll (topic : Topic) (flags : List (Flag σ)) :
    List String → σ → List Bytes → Except Stop σ
  | _, options, [] => .ok options
  | seen, options, argument :: rest =>
    match Token.ofBytes argument, rest with
    | .word, _ => .error (.misuse (.strayWord argument))
    | .dashes, [] => .ok options
    | .dashes, word :: _ => .error (.misuse (.strayWord word))
    | .short letters, _ =>
      .error (if letters.head? = some 'h'.toUInt8 then .help topic
        else .misuse (.unknownFlag argument))
    | .long name attached, rest => do
      let flag ← named topic flags seen argument name attached
      let seen := flag.name :: seen
      match flag.effect, attached, rest with
      | .switch turn, none, rest => readAll topic flags seen (turn options) rest
      | .switch _, some _, _ => .error (.misuse (.needlessValue flag.name))
      | .value _ take, some value, rest =>
        readAll topic flags seen (← flag.give take value options) rest
      | .value _ _, none, [] => .error (.misuse (.noValue flag.name))
      | .value _ take, none, value :: rest =>
        if Token.ofBytes value ≠ .word then .error (.misuse (.noValue flag.name))
        else readAll topic flags seen (← flag.give take value options) rest

end Flag

end BootChain.CommandLine
