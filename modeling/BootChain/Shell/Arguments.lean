import BootChain.Shell.Numeral
import BootChain.Shell.Print
import BootChain.Text.Replace

/-!
The program that runs a command with arguments from its input.
-/

namespace BootChain.Shell

/-- The words of the input of the program that makes arguments of it. -/
def argumentWords : Option Char → Chars → Chars → Option Chars → List Chars
  | _, [], _, none => []
  | _, [], _, some word => [word.reverse]
  | none, c :: rest, delimiters, word =>
    if delimiters = [] ∧ (c = '\'' ∨ c = '"') then
      argumentWords (some c) rest delimiters (some (word.getD []))
    else if delimiters = [] ∧ c = '\\' then
      match rest with
      | d :: rest => argumentWords none rest delimiters (some (d :: word.getD []))
      | [] => argumentWords none [] delimiters word
    else if (delimiters = [] ∧ isSpace c) ∨ delimiters.contains c then
      match word with
      | some word => word.reverse :: argumentWords none rest delimiters none
      | none =>
        if delimiters = [] then argumentWords none rest delimiters none
        else [] :: argumentWords none rest delimiters none
    else argumentWords none rest delimiters (some (c :: word.getD []))
  | some quote, c :: rest, delimiters, word =>
    if c = quote then argumentWords none rest delimiters word
    else argumentWords (some quote) rest delimiters (some (c :: word.getD []))

/-- What a call of the program that makes arguments of its input asks for. -/
structure Arguments where
  command : List Chars := []
  most : Option Nat := none
  place : Option Chars := none
  delimiters : Chars := []
  skipsNone : Bool := false
  shows : Bool := false

def Arguments.read : Arguments → List Chars → Arguments
  | arguments, ['-', 'n'] :: n :: rest => read { arguments with most := some (numberAt n).1 } rest
  | arguments, ('-' :: 'n' :: n) :: rest => read { arguments with most := some (numberAt n).1 } rest
  | arguments, ['-', 'L'] :: n :: rest =>
    read { arguments with most := some (numberAt n).1, delimiters := ['\n'] } rest
  | arguments, ['-', 'I'] :: place :: rest =>
    read { arguments with place := some place, delimiters := ['\n'], most := some 1 } rest
  | arguments, ('-' :: 'I' :: place) :: rest =>
    read { arguments with place := some place, delimiters := ['\n'], most := some 1 } rest
  | arguments, ['-', 'd'] :: word :: rest =>
    read { arguments with delimiters := (unescape false word).1.take 1 } rest
  | arguments, ['-', '0'] :: rest => read { arguments with delimiters := [Char.ofNat 0] } rest
  | arguments, ['-', 'r'] :: rest => read { arguments with skipsNone := true } rest
  | arguments, ['-', 't'] :: rest => read { arguments with shows := true } rest
  | arguments, command => { arguments with command }

/-- Words in groups of at most so many. -/
def inGroups (most : Nat) : Nat → List Chars → List (List Chars)
  | 0, _ => []
  | fuel + 1, words =>
    if words = [] then [] else words.take (max 1 most) :: inGroups most fuel (words.drop (max 1 most))

/-- The commands that come of the words of an input. -/
def Arguments.commands (arguments : Arguments) (words : List Chars) : List (List Chars) :=
  let command := if arguments.command = [] then ["echo".toList] else arguments.command
  match arguments.place with
  | some place =>
    words.filterMap fun word =>
      let word := word.dropWhile isSpace
      if word = [] then none
      else
        some (command.map (Text.replaceAll place word))
  | none =>
    let groups := match arguments.most with
      | some most => inGroups most (words.length + 1) words
      | none => [words]
    if words = [] then if arguments.skipsNone then [] else [command]
    else groups.map (command ++ ·)

end BootChain.Shell
