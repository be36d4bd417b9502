import BootChain.Shell.Pattern
import BootChain.Shell.Print
import BootChain.Shell.Utility

/-!
The utilities that take parts of texts, and those that count and compare.
-/

namespace BootChain.Shell.Utility

/-- A text with blanks before it up to a width. -/
def padLeft (width : Nat) (text : Chars) : Chars := List.replicate (width - text.length) ' ' ++ text

def number (n : Nat) : Chars := (toString n).toList

/-- How a line is shown that is shown with marks. -/
structure Marks where
  ends : Bool := false
  tabs : Bool := false
  others : Bool := false

def Marks.text (marks : Marks) (line : Chars) : Chars :=
  line.flatMap fun c =>
    if c = '\n' then if marks.ends then ['$', '\n'] else ['\n']
    else if c = '\t' then if marks.tabs then ['^', 'I'] else ['\t']
    else if marks.others then
      let (start, n) := if c.toNat ≥ 128 then (['M', '-'], c.toNat - 128) else ([], c.toNat)
      start ++
        (if n < 32 then ['^', Char.ofNat (n + 64)]
        else if n = 127 then ['^', '?']
        else [Char.ofNat n])
    else [c]

def cat (task : Task) (args : List Chars) : Task :=
  let known : Options.Known :=
    { plain := "unbsAETvet", long := [("number", 'n'), ("show-all", 'A'), ("show-ends", 'E'),
        ("show-tabs", 'T'), ("squeeze-blank", 's'), ("number-nonblank", 'b')] }
  task.withOptions known 1 args fun task options =>
    let marks : Marks :=
      { ends := options.has 'E' || options.has 'A' || options.has 'e'
        tabs := options.has 'T' || options.has 'A' || options.has 't'
        others := ['v', 'A', 'e', 't'].any options.has }
    let isPlain := options.flags.all fun flag => flag.1 = 'u'
    let add (task : Task) (n : Nat) (line : Chars) : Task × Nat :=
      let counts := if options.has 'b' then line ≠ ['\n'] else options.has 'n'
      let start := if counts then padLeft 6 (number n) ++ ['\t'] else []
      (task.print (start ++ marks.text line), if counts then n + 1 else n)
    let words := if options.words = [] then [['-']] else options.words
    (words.foldl
      (fun (task, n, isBlank) word =>
        match task.wholeOf word with
        | (.error e, task) => (task.unread 1 word e, n, isBlank)
        | (.ok text, task) =>
          if isPlain then (task.print text, n, isBlank)
          else
            (linesOf text).foldl
              (fun (task, n, isBlank) line =>
                if options.has 's' ∧ isBlank ∧ line = ['\n'] then (task, n, true)
                else
                  let (task, n) := add task n line
                  (task, n, decide (line = ['\n'])))
              (task, n, isBlank))
      (task, 1, false)).1

def tac (task : Task) (args : List Chars) : Task :=
  task.withOptions { plain := "" } 1 args fun task options =>
    task.eachFile options.words
      (fun task _ text => task.print (linesOf text).reverse.flatten)
      (fun task word e =>
        task.complain ("failed to open " ++ inQuotes word ++ " for reading: " ++ reason e) 1)

def rev (task : Task) (args : List Chars) : Task :=
  task.eachFile args
    (fun task _ text => task.print ((linesOf text).flatMap fun line =>
      (withoutEnd line).reverse ++ if line.getLast? = some '\n' then ['\n'] else []))
    (fun task word e => task.complain ("cannot open " ++ shown word ++ ": " ++ reason e) 1)

/-- How many lines or octets of a text are wanted, and from which side they are counted. -/
structure Extent where
  count : Nat := 10
  octets : Bool := false
  /-- The number says where to stop, counted from the other end. -/
  opposite : Bool := false

/-- The options of a utility that gives a part of its files, with those that are nothing but a
    number put in the common form. -/
def withPlainNumbers (args : List Chars) : List Chars :=
  match args with
  | ('-' :: d :: digits) :: rest =>
    if d.isDigit then ['-', 'n'] :: (d :: digits) :: rest else args
  | _ => args

/-- Reads the number of an extent, whose sign may say that it is counted from the other end. -/
def extentOf (sign : Char) (options : Options) : Except String Extent :=
  match (options.flags.filter fun flag => flag.1 = 'n' || flag.1 = 'c').getLast? with
  | none => .ok {}
  | some (letter, word) =>
    let octets := letter = 'c'
    let (opposite, digits) := match word with
      | c :: rest => if c = sign then (true, rest) else
          if c = '-' ∨ c = '+' then (false, rest) else (false, word)
      | [] => (false, word)
    let (n, unit) := digits.span Char.isDigit
    let scale? : Option Nat := match String.ofList unit with
      | "" => some 1
      | "k" => some 1024
      | "K" => some 1024
      | "M" => some 1048576
      | "b" => some 512
      | _ => none
    match scale? with
    | some scale =>
      if n = [] then
        .error ("invalid number of " ++ (if octets then "bytes" else "lines") ++ ": " ++
          inQuotes word)
      else .ok ⟨(numberAt n).1 * scale, octets, opposite⟩
    | none =>
      .error ("invalid number of " ++ (if octets then "bytes" else "lines") ++ ": " ++
        inQuotes word)

/-- The lines or the octets of a text. -/
def Extent.parts (extent : Extent) (text : Chars) : List Chars :=
  if extent.octets then text.map ([·]) else linesOf text

/-- Gives a part of each of some files, with titles if there are several. What follows the part of
    the input is left if `leaves`. -/
def giveParts (task : Task) (options : Options) (leaves : Bool)
    (f : Content → Chars × Bool) : Task :=
  let words := if options.words = [] then [['-']] else options.words
  let titled := (words.length > 1 && !options.has 'q') || options.has 'v'
  (words.foldl
    (fun (task, isFirst) word =>
      match task.contentOf word with
      | (.error e, task) =>
        (task.complain
          (if e = .isADirectory then "error reading " ++ inQuotes word ++ ": " ++ reason e
            else "cannot open " ++ inQuotes word ++ " for reading: " ++ reason e) 1, isFirst)
      | (.ok content, task) =>
        let (text, stuck) := f content
        let rest := if leaves then content.text.drop text.length else []
        let task :=
          if word = ['-'] then { task with input := .ok { content with text := rest } } else task
        let name := if word = ['-'] then "standard input".toList else word
        let title := (if isFirst then [] else ['\n']) ++ "==> ".toList ++ name ++ " <==\n".toList
        let task := if titled then task.print title else task
        ({ task.print text with stuck := task.stuck || stuck }, false))
    (task, true)).1

def partsKnown : Options.Known :=
  { plain := "qvfF", valued := "nc", long := [("lines", 'n'), ("bytes", 'c'), ("quiet", 'q')] }

def head (task : Task) (args : List Chars) : Task :=
  task.withOptions partsKnown 1 (withPlainNumbers args) fun task options =>
    match extentOf '-' options with
    | .error message => task.complain message 1
    | .ok extent =>
      giveParts task options true fun content =>
        let parts := extent.parts content.text
        -- What has no end repeats itself.
        let parts :=
          if content.endless ∧ parts ≠ [] then
            (List.replicate (extent.count / parts.length + 1) parts).flatten
          else parts
        let wanted := if extent.opposite then parts.length - extent.count else extent.count
        ((parts.take wanted).flatten, content.endless && extent.opposite)

def tail (task : Task) (args : List Chars) : Task :=
  let args := match args with
    | ('+' :: d :: digits) :: rest =>
      if d.isDigit then ['-', 'n'] :: ('+' :: d :: digits) :: rest else args
    | args => withPlainNumbers args
  task.withOptions partsKnown 1 args fun task options =>
    match extentOf '+' options with
    | .error message => task.complain message 1
    | .ok extent =>
      giveParts task options false fun content =>
        let parts := extent.parts content.text
        let skipped := if extent.opposite then extent.count - 1 else parts.length - extent.count
        ((parts.drop skipped).flatten, content.endless || options.has 'f' || options.has 'F')

/-- The number of words in a text. -/
def wordCount (text : Chars) : Nat :=
  (text.foldl
    (fun (n, inWord) c => if isSpace c then (n, false) else (if inWord then n else n + 1, true))
    (0, false)).1

/-- What is counted of a text: lines, words, characters, octets and the length of the longest
    line. -/
def counts (text : Chars) : List Nat :=
  [text.count '\n', wordCount text, text.length, text.length,
    ((linesOf text).map fun line => (withoutEnd line).length).foldl max 0]

def wc (task : Task) (args : List Chars) : Task :=
  let known : Options.Known :=
    { plain := "lwmcL", long := [("lines", 'l'), ("words", 'w'), ("chars", 'm'), ("bytes", 'c')] }
  task.withOptions known 1 args fun task options =>
    let letters := ['l', 'w', 'm', 'c', 'L'].map fun c =>
      if options.flags = [] then ['l', 'w', 'c'].contains c else options.has c
    let chosen (counts : List Nat) : List Nat :=
      (letters.zip counts).filterMap fun (wanted, n) => if wanted then some n else none
    let words := if options.words = [] then [['-']] else options.words
    let isSingle := words.length = 1 ∧ (letters.filter id).length = 1
    let (found, task) := words.foldl
      (fun (found, (task : Task)) word =>
        let (result, task) := task.contentOf word
        (found ++ [(word, result)], task))
      (([] : List (Chars × Except IoError Content)), task)
    let contents := found.filterMap fun entry => entry.2.toOption
    let task := { task with stuck := contents.any Content.endless }
    let total := contents.foldl (fun n content => n + content.text.length) 0
    let width :=
      if isSingle then 1
      else
        max (if contents.all Content.regular then 1 else 7) (number total).length
    let line (counts : List Nat) (name : Chars) : Chars :=
      [' '].intercalate ((chosen counts).map fun n => padLeft width (number n)) ++
        (if name = [] then [] else ' ' :: name) ++ ['\n']
    let task := found.foldl
      (fun task (word, result) =>
        match result with
        | .ok content =>
          task.print (line (counts content.text) (if options.words = [] then [] else word))
        | .error e => task.unread 1 word e)
      task
    if words.length > 1 then
      let sums := contents.foldl
        (fun sums content => (sums.zip (counts content.text)).map fun (a, b) => a + b)
        [0, 0, 0, 0, 0]
      task.print (line sums "total".toList)
    else task

def uniq (task : Task) (args : List Chars) : Task :=
  task.withOptions { plain := "cduiz", valued := "fsw" } 1 args fun task options =>
    let fields := (numberAt ((options.value? 'f').getD [])).1
    let chars := (numberAt ((options.value? 's').getD [])).1
    let skipField (line : Chars) : Chars := (line.dropWhile isSpace).dropWhile (!isSpace ·)
    let key (line : Chars) : Chars :=
      let kept := ((List.range fields).foldl (fun line _ => skipField line) line).drop chars
      let kept := match options.value? 'w' with
        | some n => kept.take (numberAt n).1
        | none => kept
      if options.has 'i' then kept.map Char.toLower else kept
    let (text, task) := task.allText (options.words.take 1) (Task.unread 1)
    let groups := ((linesOf text).map withoutEnd).splitBy fun a b => key a = key b
    let out := groups.flatMap fun group =>
      let wanted := (!options.has 'd' || group.length > 1) && (!options.has 'u' || group.length = 1)
      if wanted then
        (if options.has 'c' then padLeft 7 (number group.length) ++ [' '] else []) ++
          group.headD [] ++ ['\n']
      else []
    task.print out

/-- Reads a list of ranges of numbers. -/
def ranges? (word : Chars) : Option (List (Nat × Option Nat)) :=
  (word.splitOn ',').mapM fun part =>
    let (low, rest) := part.span Char.isDigit
    match rest with
    | [] =>
      if low = [] ∨ (numberAt low).1 = 0 then none
      else some ((numberAt low).1, some (numberAt low).1)
    | '-' :: high =>
      if !high.all Char.isDigit ∨ (low = [] ∧ high = []) then none
      else
        some (if low = [] then 1 else (numberAt low).1,
          if high = [] then none else some (numberAt high).1)
    | _ => none

def inRanges (ranges : List (Nat × Option Nat)) (n : Nat) : Bool :=
  ranges.any fun (low, high) => low ≤ n && (match high with
    | some high => n ≤ high
    | none => true)

def cut (task : Task) (args : List Chars) : Task :=
  let known : Options.Known :=
    { plain := "sn", valued := "dfcb", long := [("only-delimited", 's'),
        ("complement", 'C'), ("output-delimiter", 'o'), ("fields", 'f'), ("delimiter", 'd')] }
  task.withOptions known 1 args fun task options =>
    let kept {α : Type} (ranges : List (Nat × Option Nat)) (parts : List α) : List α :=
      ((List.range' 1 parts.length).zip parts).filterMap fun (n, part) =>
        if inRanges ranges n != options.has 'C' then some part else none
    let each (f : Chars → Option Chars) : Task :=
      task.eachFile options.words
        (fun task _ text =>
          task.print ((linesOf text).flatMap fun line => match f (withoutEnd line) with
            | some line => line ++ ['\n']
            | none => []))
        (Task.unread 1)
    match options.last? ['f', 'c', 'b'] with
    | none => task.misused "you must specify a list of bytes, characters, or fields" 1
    | some letter =>
      match ranges? ((options.value? letter).getD []) with
      | none => task.misused "invalid field range" 1
      | some ranges =>
        if letter = 'f' then
          let delimiter := (options.value? 'd').getD ['\t']
          match delimiter with
          | [d] =>
            let between := (options.value? 'o').getD delimiter
            each fun line =>
              if line.contains d then some (between.intercalate (kept ranges (line.splitOn d)))
              else if options.has 's' then none
              else some line
          | _ => task.misused "the delimiter must be a single character" 1
        else each fun line => some (kept ranges line)

/-- The characters that a set of the utility that maps characters stands for. -/
def characterSet : Nat → Chars → Chars
  | 0, _ => []
  | fuel + 1, chars =>
    let named := match chars with
      | '[' :: ':' :: rest =>
        let (name, after) := rest.span Char.isAlpha
        match CharSet.named? (String.ofList name), after with
        | some ranges, ':' :: ']' :: after =>
          some ((List.range 256).map Char.ofNat |>.filter (CharSet.contains ⟨false, ranges⟩),
            after)
        | _, _ => none
      | '[' :: '=' :: c :: '=' :: ']' :: after => some ([c], after)
      | '[' :: c :: '*' :: rest =>
        match rest.span Char.isDigit with
        | (digits, ']' :: after) =>
          some (List.replicate (if digits = [] then 256 else (numberAt digits).1) c, after)
        | _ => none
      | _ => none
    match named with
    | some (set, rest) => set ++ characterSet fuel rest
    | none =>
      let one (chars : Chars) : Option (Char × Chars) := match chars with
        | '\\' :: d :: rest =>
          if isOctal d then
            let digits := ((d :: rest).take 3).takeWhile isOctal
            some (octalChar digits, (d :: rest).drop digits.length)
          else some ((escapeFor? d).getD d, rest)
        | c :: rest => some (c, rest)
        | [] => none
      match one chars with
      | none => []
      | some (low, '-' :: rest) =>
        match one rest with
        | some (high, rest) =>
          (List.range' low.toNat (high.toNat + 1 - low.toNat)).map Char.ofNat ++
            characterSet fuel rest
        | none => [low, '-']
      | some (c, rest) => c :: characterSet fuel rest

/-- A text in which runs of a character of a set give way to one. -/
def squeezed (set : Chars) (text : Chars) : Chars :=
  (text.foldl
    (fun (kept : Chars) c => if kept.head? = some c ∧ set.contains c then kept else c :: kept)
    []).reverse

def tr (task : Task) (args : List Chars) : Task :=
  let known : Options.Known :=
    { plain := "dscCt", mixed := false, long := [("delete", 'd'), ("squeeze-repeats", 's'),
        ("complement", 'c'), ("truncate-set1", 't')] }
  task.withOptions known 1 args fun task options =>
    let setOf (word : Chars) : Chars := characterSet (word.length + 1) word
    let first (word : Chars) : Chars :=
      if options.has 'c' ∨ options.has 'C' then
        let set := setOf word
        ((List.range 256).map Char.ofNat).filter (!set.contains ·)
      else setOf word
    let filter (f : Chars → Chars) : Task :=
      match task.wholeOf ['-'] with
      | (.ok text, task) => task.print (f text)
      | (.error e, task) => task.complain ("read error: " ++ reason e) 1
    let deletes := options.has 'd'
    let squeezes := options.has 's'
    match options.words with
    | [] => task.misused "missing operand" 1
    | [source] =>
      if deletes ∧ squeezes then
        task.misused ("missing operand after " ++ inQuotes source ++
          "\nTwo strings must be given when both deleting and squeezing repeats.") 1
      else if deletes then
        let set := first source
        filter fun text => text.filter (!set.contains ·)
      else if squeezes then filter (squeezed (first source))
      else
        task.misused ("missing operand after " ++ inQuotes source ++
          "\nTwo strings must be given when translating.") 1
    | [source, target] =>
      let set := first source
      let images := setOf target
      if deletes ∧ squeezes then
        filter fun text => squeezed images (text.filter (!set.contains ·))
      else if deletes then
        task.misused ("extra operand " ++ inQuotes target ++
          "\nOnly one string may be given when deleting without squeezing repeats.") 1
      else
        match images.getLast? with
        | none => task.complain "when not truncating set1, string2 must be non-empty" 1
        | some last =>
          let change (c : Char) : Char :=
            match (set.reverse.idxOf? c).map (set.length - 1 - ·) with
            | some n => images.getD n (if options.has 't' then c else last)
            | none => c
          filter fun text =>
            let text := text.map change
            if squeezes then squeezed images text else text
    | _ :: _ :: word :: _ => task.misused ("extra operand " ++ inQuotes word) 1

def tee (task : Task) (args : List Chars) : Task :=
  task.withOptions { plain := "aip", long := [("append", 'a')] } 1 args fun task options =>
    match task.wholeOf ['-'] with
    | (.error e, task) => task.complain ("read error: " ++ reason e) 1
    | (.ok text, task) =>
      let task := task.print text
      options.words.foldl
        (fun task word =>
          let bytes := bytesOf text
          task.change
            (if options.has 'a' then task.files.append (pathOf word) bytes
              else task.files.write (pathOf word) bytes)
            fun e => named word ++ ": " ++ reason e)
        task

def paste (task : Task) (args : List Chars) : Task :=
  task.withOptions { plain := "s", valued := "d" } 1 args fun task options =>
    let delimiters := match options.value? 'd' with
      | some word => (unescape false word).1
      | none => ['\t']
    let join (parts : List Chars) : Chars :=
      ((List.range parts.length).zip parts).flatMap fun (n, part) =>
        (if n = 0 then [] else match delimiters[(n - 1) % max 1 delimiters.length]? with
          | some c => [c]
          | none => []) ++ part
    let (files, task) := (if options.words = [] then [['-']] else options.words).foldl
      (fun (files, (task : Task)) word =>
        match task.wholeOf word with
        | (.ok text, task) => (files ++ [(linesOf text).map withoutEnd], task)
        | (.error e, task) => (files, task.unread 1 word e))
      (([] : List (List Chars)), task)
    if options.has 's' then files.foldl (fun task lines => task.printLine (join lines)) task
    else
      let count := (files.map List.length).foldl max 0
      (List.range count).foldl
        (fun task n => task.printLine (join (files.map fun lines => lines.getD n []))) task

def cmp (task : Task) (args : List Chars) : Task :=
  task.withOptions { plain := "sl", long := [("silent", 's'), ("quiet", 's')] } 2 args
    fun task options =>
      match options.words with
      | [] => task.misused "missing operand after 'cmp'" 2
      | first :: rest =>
        let second := rest.headD ['-']
        match task.wholeOf first with
        | (.error e, task) => task.unread 2 first e
        | (.ok a, task) =>
          match task.wholeOf second with
          | (.error e, task) => task.unread 2 second e
          | (.ok b, task) =>
            if a = b then task
            else
              let same := ((a.zip b).takeWhile fun (c, d) => c = d).length
              let line := (a.take same).count '\n' + 1
              let task := task.withStatus 1
              if options.has 's' then task
              else if same = a.length ∨ same = b.length then
                let name := if same = a.length then first else second
                if same = 0 then
                  task.complain ("EOF on " ++ shown name ++ " which is empty") 1
                else if a[same - 1]? = some '\n' then
                  task.complain ("EOF on " ++ shown name ++ " after byte " ++ toString same ++
                    ", line " ++ toString (line - 1)) 1
                else
                  task.complain ("EOF on " ++ shown name ++ " after byte " ++ toString same ++
                    ", in line " ++ toString line) 1
              else
                task.printLine (first ++ ' ' :: second ++ (" differ: char " ++ toString (same + 1) ++
                  ", line " ++ toString line).toList)

/-- Does the work of the program that numbers lines. -/
def nl (task : Task) (args : List Chars) : Task :=
  task.withOptions { plain := "p", valued := "bnwsvi" } 1 args fun task options =>
    let (text, task) := task.allText options.words (Task.unread 1)
    let all := options.value? 'b' = some ['a']
    let width := match options.value? 'w' with
      | some word => (numberAt word).1
      | none => 6
    let between := (options.value? 's').getD ['\t']
    ((linesOf text).foldl
      (fun (task, n) line =>
        let line := withoutEnd line
        if all ∨ line ≠ [] then (task.printLine (padLeft width (number n) ++ between ++ line), n + 1)
        else ((task : Task).printLine (List.replicate (width + between.length) ' '), n))
      (task, 1)).1

end BootChain.Shell.Utility
