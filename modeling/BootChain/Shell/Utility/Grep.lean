import BootChain.Shell.Numeral
import BootChain.Shell.Regex
import BootChain.Shell.Utility

/-!
The utility that finds the lines which a pattern matches.
-/

namespace BootChain.Shell.Grep

/-- How lines are looked for. -/
structure Search where
  regexes : List Regex
  wholeLines : Bool
  wholeWords : Bool
  inverted : Bool

def isWordAt (text : Chars) (n : Nat) : Bool :=
  match text[n]? with
  | some c => c.isAlphanum || c = '_'
  | none => false

/-- The first match in a line from a place on, as where it starts and stops. -/
def Search.firstFrom (search : Search) (line : Chars) : Nat → Nat → Option (Nat × Nat)
  | 0, _ => none
  | fuel + 1, place =>
    let found := search.regexes.filterMap fun regex =>
      (regex.find? line place).map fun (start, found) => (start, line.length - found.rest.length)
    let best := found.foldl
      (fun (best : Option (Nat × Nat)) candidate =>
        match best with
        | none => some candidate
        | some (start, stop) =>
          if candidate.1 < start ∨ (candidate.1 = start ∧ candidate.2 > stop) then some candidate
          else best)
      none
    match best with
    | none => none
    | some (start, stop) =>
      let isWord := (start = 0 || !isWordAt line (start - 1)) && !isWordAt line stop
      if search.wholeWords ∧ !isWord then
        if start < line.length then firstFrom search line fuel (start + 1) else none
      else some (start, stop)

/-- True of a line that is looked for. -/
def Search.finds (search : Search) (line : Chars) : Bool :=
  let found :=
    if search.wholeLines then
      search.regexes.any fun regex =>
        match regex.matchAt line 0 with
        | some found => found.rest = []
        | none => false
    else (search.firstFrom line (line.length + 2) 0).isSome
  found != search.inverted

/-- All matches in a line that have characters. -/
def Search.parts (search : Search) (line : Chars) : Nat → Nat → List Chars
  | 0, _ => []
  | fuel + 1, place =>
    match search.firstFrom line (line.length + 2) place with
    | none => []
    | some (start, stop) =>
      if stop = start then if stop < line.length then parts search line fuel (stop + 1) else []
      else (line.drop start).take (stop - start) :: parts search line fuel stop

def known : Options.Known :=
  { plain := "EFGivcnqolLhHsxwrRaZ", valued := "emABC"
    long := [("ignore-case", 'i'), ("invert-match", 'v'), ("count", 'c'), ("line-number", 'n'),
      ("quiet", 'q'), ("silent", 'q'), ("only-matching", 'o'), ("files-with-matches", 'l'),
      ("files-without-match", 'L'), ("no-filename", 'h'), ("with-filename", 'H'),
      ("no-messages", 's'), ("line-regexp", 'x'), ("word-regexp", 'w'), ("regexp", 'e'),
      ("extended-regexp", 'E'), ("fixed-strings", 'F'), ("text", 'a')] }

/-- What is printed for one file. -/
def report (search : Search) (options : Options) (name : Option Chars) (text : Chars) :
    Chars × Bool :=
  let limit := (options.value? 'm').map fun word => (numberAt word).1
  let lines := (linesOf text).map withoutEnd
  let chosen := ((List.range' 1 lines.length).zip lines).filter fun entry => search.finds entry.2
  let chosen := match limit with
    | some n => chosen.take n
    | none => chosen
  let isFound := !chosen.isEmpty
  let start (separator : Char) (n : Nat) : Chars :=
    (match name with
      | some name => name ++ [separator]
      | none => []) ++
      if options.has 'n' then (toString n).toList ++ [separator] else []
  let count (word : Char) : Nat := match options.value? word with
    | some n => (numberAt n).1
    | none => match options.value? 'C' with
      | some n => (numberAt n).1
      | none => 0
  let (before, after) := (count 'B', count 'A')
  let shownName := name.getD []
  if options.has 'q' then ([], isFound)
  else if options.has 'l' then (if isFound then shownName ++ ['\n'] else [], isFound)
  else if options.has 'L' then (if isFound then [] else shownName ++ ['\n'], !isFound)
  else if options.has 'c' then
    ((match name with
      | some name => name ++ [':']
      | none => []) ++ (toString chosen.length).toList ++ ['\n'], isFound)
  else if options.has 'o' then
    (chosen.flatMap fun (n, line) =>
      if search.inverted then []
      else (search.parts line (line.length + 2) 0).flatMap fun part => start ':' n ++ part ++ ['\n'],
      isFound)
  else if before = 0 ∧ after = 0 then
    (chosen.flatMap fun (n, line) => start ':' n ++ line ++ ['\n'], isFound)
  else
    let near (n : Nat) : Bool := chosen.any fun (m, _) => m ≤ n + before && n ≤ m + after
    let shown := ((List.range' 1 lines.length).zip lines).filter fun entry => near entry.1
    let groups := shown.splitBy fun a b => b.1 = a.1 + 1
    (("--\n".toList).intercalate (groups.map fun group =>
      group.flatMap fun (n, line) =>
        start (if chosen.any (·.1 = n) then ':' else '-') n ++ line ++ ['\n']), isFound)

def usage : String :=
  "Usage: grep [OPTION]... PATTERNS [FILE]...\nTry 'grep --help' for more information.\n"

/-- Looks for lines. It succeeds if some are found. -/
def grep (task : Task) (args : List Chars) : Task :=
  match Options.read known args with
  | .error message =>
    { task with
      printed := (2, (shown task.called ++ ": " ++ message ++ "\n" ++ usage).toList) :: task.printed
      status := 2 }
  | .ok options =>
    let given := options.flags.filterMap fun (letter, value) =>
      if letter = 'e' then some value else none
    match given, options.words with
    | [], [] => { task with printed := (2, usage.toList) :: task.printed, status := 2 }
    | given, words =>
      let (patterns, words) := if given = [] then (words.take 1, words.drop 1) else (given, words)
      let extended := options.has 'E' || task.called = "egrep".toList
      let fixed := options.has 'F' || task.called = "fgrep".toList
      let readOne (pattern : Chars) : Except String Regex :=
        let regex := if fixed then .ok (Regex.literal pattern)
          else Regex.compile extended true pattern
        regex.map fun regex => if options.has 'i' then regex.ignoringCase else regex
      match (patterns.flatMap (·.splitOn '\n')).mapM readOne with
      | .error message => task.complain message 2
      | .ok regexes =>
        let search : Search := ⟨regexes, options.has 'x', options.has 'w', options.has 'v'⟩
        let named := (words.length > 1 && !options.has 'h') || options.has 'H'
        let (task, isFound) := (if words = [] then [['-']] else words).foldl
          (fun ((task : Task), isFound) word =>
            match task.wholeOf word with
            | (.error e, task) =>
              if options.has 's' then (task.withStatus 2, isFound)
              else if e = .isADirectory then
                (task.complain (shown word ++ ": Is a directory") 2, isFound)
              else (task.complain (shown word ++ ": " ++ reason e) 2, isFound)
            | (.ok text, task) =>
              let name := if word = ['-'] then "(standard input)".toList else word
              let hasName := named || options.has 'l' || options.has 'L'
              let (out, found) := report search options (if hasName then some name else none) text
              (task.print out, isFound || found))
          (task, false)
        let status :=
          if isFound ∧ options.has 'q' then 0
          else if task.status ≠ 0 then task.status
          else if isFound then 0
          else 1
        ({ task with status }).settled

end BootChain.Shell.Grep
