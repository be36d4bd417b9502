import BootChain.Path.Extension
import BootChain.Shell.Numeral
import BootChain.Shell.Utility

/-!
The utilities that create, copy, move and take away files, and those that tell of them.
-/

namespace BootChain.Shell.Utility

/-- True when nothing is in a directory. -/
def isEmptyDir (files : FileSystem) (place : Location) : Bool := (files.namesIn place).isEmpty

/-- Takes away what stands at a location, with all that is below. -/
def withoutTree (files : FileSystem) (place : Location) : FileSystem :=
  { files with nodes := files.nodes.filter fun entry => !place.isPrefixOf entry.1 }

/-- A path without the slashes at its end. -/
def withoutSlashes (word : Chars) : Chars :=
  let kept := (word.reverse.dropWhile (· = '/')).reverse
  if kept = [] then word.take 1 else kept

/-- The last name of a path. -/
def lastName (word : Chars) : Chars :=
  let word := withoutSlashes word
  if word = ['/'] then word else (word.reverse.takeWhile (· ≠ '/')).reverse

/-- Where a file goes that is put to a target: inside it, if that is a directory. -/
def destination (files : FileSystem) (source target : Chars) : Chars :=
  if files.isDirectory (pathOf target) then inDirectory target (lastName source) else target

/-- The rights that a new file has of those of another. -/
def newMode (mode : Nat) : Nat := mode &&& 0o755

/-- Copies a file to a path. -/
def copyFile (task : Task) (source target : Chars) (keepsMode : Bool) (content : Bytes)
    (mode : Nat) : Task :=
  let path := pathOf target
  let isNew : Bool := match task.files.resolve true path with
    | .ok (.free _ _) => true
    | _ => false
  let created (files : FileSystem) : FileSystem :=
    if isNew || keepsMode then
      (files.setMode path fun _ => if keepsMode then mode else newMode mode).toOption.getD files
    else files
  match task.files.stat (pathOf source), task.files.stat path, task.files.resolve false path with
  | .ok (a, _), .ok (b, _), _ =>
    if a = b then
      task.complain (inQuotes source ++ " and " ++ inQuotes target ++ " are the same file") 1
    else
      task.change ((task.files.write path content).map created) fun e =>
        "cannot create regular file " ++ inQuotes target ++ ": " ++ reason e
  | _, .error _, .ok (.found _ (.link _) _) =>
    task.complain ("not writing through dangling symlink " ++ inQuotes target) 1
  | _, _, _ =>
    if isNew ∧ target.getLast? = some '/' then
      task.complain ("cannot create regular file " ++ inQuotes target ++ ": Not a directory") 1
    else
      task.change ((task.files.write path content).map created) fun e =>
        "cannot create regular file " ++ inQuotes target ++ ": " ++ reason e

/-- How files are copied. -/
structure Copying where
  deep : Bool := false
  keepsMode : Bool := false
  keepsOld : Bool := false

/-- Copies what stands at a path, with all that is below if that is wanted, to another. -/
def copyFrom (copying : Copying) : Nat → Task → Chars → Chars → Task
  | 0, task, _, _ => task
  | depth + 1, task, source, target =>
    let isThere : Bool := match task.files.resolve false (pathOf target) with
      | .ok (.found _ _ _) => true
      | _ => false
    if copying.keepsOld ∧ isThere then task
    else match task.files.resolve (!copying.deep) (pathOf source) with
    | .error e => task.complain ("cannot stat " ++ inQuotes source ++ ": " ++ reason e) 1
    | .ok (.free _ _) =>
      task.complain ("cannot stat " ++ inQuotes source ++ ": " ++ reason .notFound) 1
    | .ok (.found _ (.link link) _) =>
      task.change (task.files.createLink (pathOf target) link) fun e =>
        "cannot create symbolic link " ++ inQuotes target ++ ": " ++ reason e
    | .ok (.found place .dir _) =>
      if !copying.deep then
        task.complain ("-r not specified; omitting directory " ++ inQuotes source) 1
      else if task.files.isFile (pathOf target) then
        task.complain ("cannot overwrite non-directory " ++ inQuotes target ++
          " with directory " ++ inQuotes source) 1
      else
        let names := task.files.namesIn place
        let task := task.change (task.files.ensureDir (pathOf target)) fun e =>
          "cannot create directory " ++ inQuotes target ++ ": " ++ reason e
        names.foldl
          (fun task name =>
            copyFrom copying depth task (inDirectory source (charsOf name))
              (inDirectory target (charsOf name)))
          task
    | .ok (.found _ _ true) =>
      task.complain ("cannot stat " ++ inQuotes source ++ ": " ++ reason .notADirectory) 1
    | .ok (.found _ (.file content mode) _) =>
      copyFile task source target copying.keepsMode content mode
    | .ok (.found _ (.device device) _) =>
      if device = .null then copyFile task source target false [] 0o644
      else { task with stuck := true }

/-- The sources and the target of a utility that puts files somewhere. -/
def withTarget (task : Task) (words : List Chars) (f : Task → Chars → Chars → Task) : Task :=
  match words with
  | [] => task.misused "missing file operand" 1
  | [word] => task.misused ("missing destination file operand after " ++ inQuotes word) 1
  | [source, target] => f task source (destination task.files source target)
  | words =>
    let target := words.getLast?.getD []
    match task.files.stat (pathOf target) with
    | .ok (_, .dir) =>
      words.dropLast.foldl
        (fun task source => f task source (destination task.files source target)) task
    | .ok _ => task.complain ("target " ++ inQuotes target ++ ": Not a directory") 1
    | .error e => task.complain ("target " ++ inQuotes target ++ ": " ++ reason e) 1

/-- How deep a tree of files may be that is copied or listed. -/
def treeDepth : Nat := 100

def cp (task : Task) (args : List Chars) : Task :=
  let known : Options.Known :=
    { plain := "frRapnvdPLHuT", long := [("recursive", 'r'), ("force", 'f'), ("archive", 'a'),
        ("no-clobber", 'n')] }
  task.withOptions known 1 args fun task options =>
    let copying : Copying :=
      { deep := options.has 'r' || options.has 'R' || options.has 'a'
        keepsMode := options.has 'p' || options.has 'a'
        keepsOld := options.has 'n' }
    withTarget task options.words (copyFrom copying treeDepth)

/-- Moves what stands at a path to another. -/
def move (task : Task) (source target : Chars) : Task :=
  let files := task.files
  let cause (message : String) : Task :=
    task.complain ("cannot move " ++ inQuotes source ++ " to " ++ inQuotes target ++ ": " ++
      message) 1
  let moved (place new : Location) : Task :=
    let files := withoutTree files new
    let nodes := files.nodes.map fun (there, node) =>
      (if place.isPrefixOf there then new ++ there.drop place.length else there, node)
    { task with files := { files with nodes } }
  match files.resolve false (pathOf source) with
  | .error e => task.complain ("cannot stat " ++ inQuotes source ++ ": " ++ reason e) 1
  | .ok (.free _ _) =>
    task.complain ("cannot stat " ++ inQuotes source ++ ": " ++ reason .notFound) 1
  | .ok (.found place node asDirectory) =>
    if asDirectory ∧ node ≠ .dir then
      task.complain ("cannot stat " ++ inQuotes source ++ ": " ++ reason .notADirectory) 1
    else match files.resolve false (pathOf target) with
    | .error e => cause (reason e)
    | .ok (.free new asDirectory) =>
      if asDirectory ∧ node ≠ .dir then cause (reason .notADirectory)
      else if place.isPrefixOf new then
        task.complain ("cannot move " ++ inQuotes source ++ " to a subdirectory of itself, " ++
          inQuotes target) 1
      else moved place new
    | .ok (.found new old _) =>
      if place = new then
        task.complain (inQuotes source ++ " and " ++ inQuotes target ++ " are the same file") 1
      else if place.isPrefixOf new then
        task.complain ("cannot move " ++ inQuotes source ++ " to a subdirectory of itself, " ++
          inQuotes target) 1
      else match node, old with
      | .dir, .dir =>
        if isEmptyDir files new then moved place new else cause "Directory not empty"
      | .dir, _ =>
        task.complain ("cannot overwrite non-directory " ++ inQuotes target ++
          " with directory " ++ inQuotes source) 1
      | _, .dir =>
        task.complain ("cannot overwrite directory " ++ inQuotes target ++
          " with non-directory " ++ inQuotes source) 1
      | _, _ => moved place new

def mv (task : Task) (args : List Chars) : Task :=
  task.withOptions { plain := "fnvT", long := [("force", 'f'), ("no-clobber", 'n')] } 1 args
    fun task options =>
      withTarget task options.words fun task source target =>
        if options.has 'n' ∧ (task.files.stat (pathOf target)).toBool then task
        else move task source target

def rm (task : Task) (args : List Chars) : Task :=
  let known : Options.Known :=
    { plain := "frRdvi", long := [("force", 'f'), ("recursive", 'r'), ("dir", 'd')] }
  task.withOptions known 1 args fun task options =>
    let force := options.has 'f'
    let deep := options.has 'r' || options.has 'R'
    let remove (task : Task) (word : Chars) : Task :=
      let refused (message : String) : Task :=
        task.complain ("cannot remove " ++ inQuotes word ++ ": " ++ message) 1
      let isDot := [['.'], ['.', '.']].contains (lastName word)
      match task.files.resolve false (pathOf word) with
      | .ok (.found place .dir _) =>
        if !deep ∧ !options.has 'd' then refused "Is a directory"
        else if isDot then
          task.complain ("refusing to remove '.' or '..' directory: skipping " ++ inQuotes word) 1
        else if deep ∨ isEmptyDir task.files place then
          { task with files := withoutTree task.files place }
        else refused "Directory not empty"
      | .ok (.found _ _ true) => refused (reason .notADirectory)
      | .ok (.found place _ false) => { task with files := task.files.erase place }
      | .ok (.free _ _) => if force then task else refused (reason .notFound)
      | .error e =>
        if force ∧ (e = .notFound ∨ e = .notADirectory) then task else refused (reason e)
    if options.words = [] ∧ !force then task.misused "missing operand" 1
    else options.words.foldl remove task

def rmdir (task : Task) (args : List Chars) : Task :=
  task.withOptions { plain := "pv" } 1 args fun task options =>
    let remove (task : Task) (word : Chars) : Task :=
      let refused (message : String) : Task :=
        task.complain ("failed to remove " ++ inQuotes word ++ ": " ++ message) 1
      match task.files.resolve false (pathOf word) with
      | .ok (.found place .dir _) =>
        if isEmptyDir task.files place then { task with files := task.files.erase place }
        else refused "Directory not empty"
      | .ok (.found _ _ _) => refused (reason .notADirectory)
      | .ok (.free _ _) => refused (reason .notFound)
      | .error e => refused (reason e)
    if options.words = [] then task.misused "missing operand" 1
    else options.words.foldl remove task

def mkdir (task : Task) (args : List Chars) : Task :=
  let known : Options.Known := { plain := "pv", valued := "m", long := [("parents", 'p')] }
  task.withOptions known 1 args fun task options =>
    let make (task : Task) (word : Chars) : Task :=
      let refused (e : IoError) : String :=
        "cannot create directory " ++ inQuotes word ++ ": " ++ reason e
      if options.has 'p' then
        match task.files.createDirs (pathOf word) with
        | (.ok (), files) => { task with files }
        | (.error e, files) => { task with files }.complain (refused e) 1
      else task.change (task.files.createDir (pathOf word)) refused
    if options.words = [] then task.misused "missing operand" 1
    else options.words.foldl make task

def touch (task : Task) (args : List Chars) : Task :=
  task.withOptions { plain := "acmf", valued := "dtr", long := [("no-create", 'c')] } 1 args
    fun task options =>
      let make (task : Task) (word : Chars) : Task :=
        match task.files.stat (pathOf word) with
        | .ok _ => task
        | .error _ =>
          if options.has 'c' then task
          else
            task.change (task.files.append (pathOf word) []) fun e =>
              "cannot touch " ++ inQuotes word ++ ": " ++
                reason (if e = .isADirectory then .notFound else e)
      if options.words = [] then task.misused "missing file operand" 1
      else options.words.foldl make task

/-- Creates a link, or for a link that is not symbolic, a file of the same content. -/
def link (task : Task) (symbolic force : Bool) (source target : Chars) : Task :=
  let kind := if symbolic then "symbolic" else "hard"
  let files := match task.files.resolve false (pathOf target) with
    | .ok (.found place node _) =>
      if force ∧ node ≠ .dir then task.files.erase place else task.files
    | _ => task.files
  let task := { task with files }
  if symbolic then
    task.change (files.createLink (pathOf target) (pathOf source)) fun e =>
      "failed to create " ++ kind ++ " link " ++ inQuotes target ++ ": " ++ reason e
  else
    match files.stat (pathOf source) with
    | .error e => task.complain ("failed to access " ++ inQuotes source ++ ": " ++ reason e) 1
    | .ok (_, .file content mode) =>
      match files.resolve false (pathOf target) with
      | .ok (.free place false) => { task with files := files.put place (.file content mode) }
      | .ok (.found _ _ _) =>
        task.complain ("failed to create hard link " ++ inQuotes target ++ ": File exists") 1
      | _ =>
        task.complain ("failed to create hard link " ++ inQuotes target ++ " => " ++
          inQuotes source ++ ": No such file or directory") 1
    | .ok _ => task.complain (shown source ++ ": hard link not allowed for directory") 1

def ln (task : Task) (args : List Chars) : Task :=
  let known : Options.Known :=
    { plain := "sfnvT", long := [("symbolic", 's'), ("force", 'f'), ("no-dereference", 'n')] }
  task.withOptions known 1 args fun task options =>
    let make (task : Task) (source target : Chars) : Task :=
      link task (options.has 's') (options.has 'f') source target
    match options.words with
    | [] => task.misused "missing file operand" 1
    | [source] => make task source (lastName source)
    | [source, target] =>
      let isLink : Bool := match task.files.resolve false (pathOf target) with
        | .ok (.found _ (.link _) _) => true
        | _ => false
      if options.has 'T' ∨ (options.has 'n' ∧ isLink) then make task source target
      else make task source (destination task.files source target)
    | words => withTarget task words make

/-- The change of a mode that a word describes: a whole mode in octal digits, or who may do what
    from now on. What is for everyone because nobody is named spares the rights that new files do
    not have. -/
def modeClause? (word : Chars) : Option (Nat → Nat) :=
  let (who, rest) := word.span ['u', 'g', 'o', 'a'].contains
  let places := if who = [] ∨ who.contains 'a' then ['u', 'g', 'o'] else who
  let shift (c : Char) : Nat := if c = 'u' then 6 else if c = 'g' then 3 else 0
  let bit (mode : Nat) (c : Char) : Nat :=
    if c = 'r' then 4
    else if c = 'w' then 2
    else if c = 'x' then 1
    else if c = 'X' then (if mode &&& 0o111 = 0 then 0 else 1)
    else (mode >>> shift c) &&& 7
  match rest with
  | sign :: rights =>
    if ['+', '-', '='].contains sign ∧ rights.all ['r', 'w', 'x', 'X', 'u', 'g', 'o'].contains then
      some fun mode =>
        let bits := rights.foldl (fun bits c => bits ||| bit mode c) 0
        let spread (bits : Nat) : Nat := places.foldl (fun n c => n ||| (bits <<< shift c)) 0
        let mask := if who = [] then spread bits &&& 0o755 else spread bits
        if sign = '+' then mode ||| mask
        else if sign = '-' then mode - (mode &&& mask)
        else (mode - (mode &&& spread 7)) ||| mask
    else none
  | [] => none

def modeChange? (word : Chars) : Option (Nat → Nat) :=
  if word ≠ [] ∧ word.all isOctal then
    let mode := word.foldl (fun n d => n * 8 + (d.toNat - '0'.toNat)) 0
    if mode ≤ 0o7777 then some fun _ => mode else none
  else
    (word.splitOn ',').foldl
      (fun change clause => do
        let change ← change
        let next ← modeClause? clause
        return fun mode => next (change mode))
      (some id)

/-- Changes the mode of a file, or of all files in a directory if that is wanted. -/
def changeModes (deep : Bool) (update : Nat → Nat) (task : Task) (word : Chars) : Task :=
  match task.files.stat (pathOf word) with
  | .error e =>
    let isBroken : Bool := match task.files.resolve false (pathOf word) with
      | .ok (.found _ (.link _) _) => true
      | _ => false
    if isBroken ∧ e = .notFound then
      task.complain ("cannot operate on dangling symlink " ++ inQuotes word) 1
    else task.complain ("cannot access " ++ inQuotes word ++ ": " ++ reason e) 1
  | .ok (place, node) =>
    let change (entry : Location × Node) : Location × Node :=
      match entry with
      | (there, .file content mode) =>
        if there = place ∨ (deep ∧ node = .dir ∧ place.isPrefixOf there) then
          (there, .file content (update mode))
        else entry
      | entry => entry
    { task with files := { task.files with nodes := task.files.nodes.map change } }

def chmod (task : Task) (args : List Chars) : Task :=
  let isMode (word : Chars) : Bool :=
    match word with
    | '-' :: c :: _ => ['r', 'w', 'x', 'X', 's', 't'].contains c
    | _ => false
  let (modes, others) := args.partition isMode
  task.withOptions { plain := "Rvcf", long := [("recursive", 'R')] } 1 others fun task options =>
    match modes ++ options.words with
    | [] => task.misused "missing operand" 1
    | [word] => task.misused ("missing operand after " ++ inQuotes word) 1
    | word :: words =>
      match modeChange? word with
      | none => task.misused ("invalid mode: " ++ inQuotes word) 1
      | some update => words.foldl (changeModes (options.has 'R') update) task

/-- The names of a directory as they are listed, with marks for directories if they are wanted. -/
def listing (files : FileSystem) (options : Options) (directory : Chars) (place : Location) :
    List Chars :=
  let names := ((files.namesIn place).map charsOf).mergeSort fun a b => !(decide (b < a))
  let names :=
    if options.has 'a' then [['.'], ['.', '.']] ++ names
    else if options.has 'A' then names
    else names.filter (·.head? ≠ some '.')
  let names := if options.has 'r' then names.reverse else names
  names.map fun name =>
    match files.resolve false (pathOf (inDirectory directory name)) with
    | .ok (.found _ .dir _) => if options.has 'p' || options.has 'F' then name ++ ['/'] else name
    | .ok (.found _ (.link _) _) => if options.has 'F' then name ++ ['@'] else name
    | .ok (.found _ (.file _ mode) _) =>
      if options.has 'F' ∧ mode &&& 0o111 ≠ 0 then name ++ ['*'] else name
    | _ => name

def ls (task : Task) (args : List Chars) : Task :=
  task.withOptions { plain := "1aAdrpFUfLHqNC", long := [("all", 'a'), ("almost-all", 'A')] } 2
    args fun task options =>
      let words := (if options.words = [] then [['.']] else options.words).mergeSort
        fun a b => !(decide (b < a))
      let (files, directories, task) := words.foldl
        (fun (files, directories, task) (word : Chars) =>
          match task.files.stat (pathOf word), task.files.resolve false (pathOf word) with
          | .ok (place, .dir), _ =>
            if options.has 'd' then (files ++ [word], directories, task)
            else (files, directories ++ [(word, place)], task)
          | .ok _, _ => (files ++ [word], directories, task)
          | .error .notFound, .ok (.found _ _ false) => (files ++ [word], directories, task)
          | .error e, _ =>
            (files, directories,
              task.complain ("cannot access " ++ inQuotes word ++ ": " ++ reason e) 2))
        (([] : List Chars), ([] : List (Chars × Location)), task)
      let task := files.foldl Task.printLine task
      let hasTitles := words.length > 1
      (directories.foldl
        (fun (task, isFirst) (word, place) =>
          let task := if isFirst then task else task.print ['\n']
          let task := if hasTitles then task.printLine (word ++ [':']) else task
          ((listing task.files options word place).foldl Task.printLine task, false))
        (task, files.isEmpty)).1

def readlink (task : Task) (args : List Chars) : Task :=
  task.withOptions { plain := "femnqsv", long := [("canonicalize", 'f')] } 1 args
    fun task options =>
      let give (task : Task) (text : Chars) : Task :=
        if options.has 'n' then task.print text else task.printLine text
      if options.words = [] then task.misused "missing operand" 1
      else
        options.words.foldl
          (fun task word =>
            if options.has 'f' ∨ options.has 'e' ∨ options.has 'm' then
              match task.files.resolve true (pathOf word) with
              | .ok (.found place _ _) => give task (placeText place)
              | .ok (.free place _) =>
                if options.has 'e' then task.withStatus 1 else give task (placeText place)
              | .error _ => task.withStatus 1
            else
              match task.files.resolve false (pathOf word) with
              | .ok (.found _ (.link target) false) => give task (charsOf target.bytes)
              | _ => task.withStatus 1)
          task

def realpath (task : Task) (args : List Chars) : Task :=
  task.withOptions { plain := "emsLPq" } 1 args fun task options =>
    if options.words = [] then task.misused "missing operand" 1
    else
      options.words.foldl
        (fun task word =>
          match task.files.resolve true (pathOf word) with
          | .ok (.found place _ _) => task.printLine (placeText place)
          | .ok (.free place _) =>
            if options.has 'e' then task.complain (named word ++ ": " ++ reason .notFound) 1
            else task.printLine (placeText place)
          | .error e => task.complain (named word ++ ": " ++ reason e) 1)
        task

end BootChain.Shell.Utility
