import BootChain.Shell.State
import BootChain.Shell.Utility.Awk.Run
import BootChain.Shell.Utility.Dump
import BootChain.Shell.Utility.Expression
import BootChain.Shell.Utility.Files
import BootChain.Shell.Utility.Grep
import BootChain.Shell.Utility.Lines
import BootChain.Shell.Utility.Sed
import BootChain.Shell.Utility.Sort
import BootChain.Shell.Utility.Words

/-!
The utilities by their names, and how one runs as a process.
-/

namespace BootChain.Shell

/-- The utility that an installed program is. -/
def utility? (program : String) : Option (Task → List Chars → Task) :=
  match program with
  | "cat" => some Utility.cat
  | "tac" => some Utility.tac
  | "rev" => some Utility.rev
  | "head" => some Utility.head
  | "tail" => some Utility.tail
  | "wc" => some Utility.wc
  | "sort" => some Sort.sort
  | "uniq" => some Utility.uniq
  | "cut" => some Utility.cut
  | "tr" => some Utility.tr
  | "tee" => some Utility.tee
  | "paste" => some Utility.paste
  | "nl" => some Utility.nl
  | "cmp" => some Utility.cmp
  | "grep" => some Grep.grep
  | "egrep" => some Grep.grep
  | "fgrep" => some Grep.grep
  | "sed" => some Sed.sed
  | "awk" => some Awk.awk
  | "mawk" => some Awk.awk
  | "od" => some Dump.od
  | "cp" => some Utility.cp
  | "mv" => some Utility.mv
  | "rm" => some Utility.rm
  | "rmdir" => some Utility.rmdir
  | "mkdir" => some Utility.mkdir
  | "touch" => some Utility.touch
  | "ln" => some Utility.ln
  | "chmod" => some Utility.chmod
  | "ls" => some Utility.ls
  | "readlink" => some Utility.readlink
  | "realpath" => some Utility.realpath
  | "seq" => some Utility.seq
  | "basename" => some Utility.basename
  | "dirname" => some Utility.dirname
  | "expr" => some Expression.expr
  | "printenv" => some Utility.printenv
  | "echo" => some Utility.echo
  | "printf" => some Utility.printf
  | "test" => some Utility.test
  | "[" => some Utility.bracket
  | "true" => some fun task _ => task
  | "false" => some fun task _ => task.withStatus 1
  | "pwd" => some Utility.pwd
  | "whoami" => some Utility.whoami
  | "id" => some Utility.id
  | "uname" => some Utility.uname
  | "yes" => some Utility.yes
  | "sha256sum" => some Utility.sha256sum
  | _ => none

namespace Act

/-- What a descriptor still has to give. -/
def contentOf (descriptor : Nat) : Act (Except IoError Content) := do
  match (← process).stream? descriptor with
  | none => return .error .badDescriptor
  | some n =>
    let machine ← machine
    let regular : Bool := match machine.streams[n]? with
      | some (.file _ _ _) => true
      | _ => false
    return (machine.rest n).map fun (text, endless) => { text, endless, regular }

/-- Takes from a descriptor what has been read of it. Whoever reads from a pipe takes all that is
    there, even if it makes use of a part only. -/
def take (descriptor : Nat) (before after : Except IoError Content) : Act Unit := do
  match (← process).stream? descriptor, before, after with
  | some n, .ok before, .ok after =>
    let taken := before.text.length - after.text.length
    if taken > 0 then
      changeMachine (·.skip n (if before.regular then taken else before.text.length))
  | _, _, _ => return ()

/-- Prints what a task has printed, and complains once if that cannot be. -/
def printAll (called : Chars) : List (Nat × Chars) → Act Bool
  | [] => return true
  | (descriptor, text) :: rest => do
    match ← write descriptor text with
    | some e =>
      if descriptor = 1 then
        say 2 (called ++ (": write error: " ++ reason e ++ "\n").toList)
        return false
      else printAll called rest
    | none => printAll called rest

/-- Runs a utility. -/
def runUtility (f : Task → List Chars → Task) (called : Chars) (args : List Chars) :
    Act Unit := do
  let input ← contentOf 0
  let process ← process
  let machine ← machine
  let task := f { called, files := machine.files, input, environment := process.environment } args
  changeMachine fun machine => { machine with files := task.files }
  take 0 input task.input
  let printed ← printAll called task.printed.reverse
  if task.stuck then throw .expired
  setStatus (if printed then task.status else max 1 task.status)

end Act

end BootChain.Shell
