import BootChain.Shell.Numeral
import BootChain.Shell.Utility

/-!
The utility that sorts lines.
-/

namespace BootChain.Shell.Sort

/-- How parts of lines are compared. -/
structure Order where
  numeric : Bool := false
  reversed : Bool := false
  folded : Bool := false
  skipsBlanks : Bool := false
  deriving DecidableEq

def Order.add (order : Order) (letter : Char) : Order :=
  match letter with
  | 'n' => { order with numeric := true }
  | 'g' => { order with numeric := true }
  | 'h' => { order with numeric := true }
  | 'r' => { order with reversed := true }
  | 'f' => { order with folded := true }
  | 'b' => { order with skipsBlanks := true }
  | _ => order

/-- The part of a line that it is sorted by: from a character of a field to one of another. -/
structure Key where
  firstField : Nat
  firstChar : Nat := 1
  lastField : Option Nat := none
  lastChar : Nat := 0
  order : Order := {}

/-- Reads a place in a line: the number of a field and of a character in it, and letters. -/
def placeAt (chars : Chars) : Nat × Option Nat × Order × Chars :=
  let (field, rest) := numberAt chars
  let (char, rest) := match rest with
    | '.' :: rest =>
      let (char, rest) := numberAt rest
      (some char, rest)
    | rest => (none, rest)
  let (letters, rest) := rest.span Char.isAlpha
  (field, char, letters.foldl Order.add {}, rest)

def key? (word : Chars) : Option Key :=
  let (firstField, firstChar, order, rest) := placeAt word
  if firstField = 0 then none
  else
    match rest with
    | [] => some { firstField, firstChar := firstChar.getD 1, order }
    | ',' :: rest =>
      match placeAt rest with
      | (lastField, lastChar, more, []) =>
        if lastField = 0 then none
        else
          let order : Order :=
            { numeric := order.numeric || more.numeric
              reversed := order.reversed || more.reversed
              folded := order.folded || more.folded
              skipsBlanks := order.skipsBlanks || more.skipsBlanks }
          some { firstField, firstChar := firstChar.getD 1, lastField := some lastField
                 lastChar := lastChar.getD 0, order }
      | _ => none
    | _ => none

/-- The fields of a line: the parts between separators, or, if there is none, words with the blanks
    before them. -/
def fieldsOf (separator : Option Char) (line : Chars) : List Chars :=
  match separator with
  | some c => line.splitOn c
  | none => line.splitBy fun a b => isBlank a || !isBlank b

/-- The part of a line that a key is. -/
def Key.part (key : Key) (separator : Option Char) (line : Chars) : Chars :=
  let fields := fieldsOf separator line
  let between := separator.toList
  let cut (field : Chars) : Chars :=
    if key.order.skipsBlanks then field.dropWhile isBlank else field
  let wanted := match key.lastField with
    | none => fields
    | some last =>
      let kept := fields.take last
      if key.lastChar = 0 ∨ kept.length < last then kept
      else kept.dropLast ++ [(kept.getLast?.getD []).take key.lastChar]
  match wanted.drop (key.firstField - 1) with
  | [] => []
  | first :: rest => between.intercalate ((cut first).drop (key.firstChar - 1) :: rest)

/-- The number at the start of a text: its sign, its whole part and its decimals. -/
def numberOf (text : Chars) : Bool × Nat × Chars :=
  let chars := text.dropWhile isBlank
  let (negative, chars) := match chars with
    | '-' :: rest => (true, rest)
    | chars => (false, chars)
  let (n, rest) := numberAt chars
  let decimals := match rest with
    | '.' :: rest => ((rest.takeWhile Char.isDigit).reverse.dropWhile (· = '0')).reverse
    | _ => []
  (negative && (n ≠ 0 || decimals ≠ []), n, decimals)

/-- Compares the numbers that two texts start with. -/
def compareNumbers (a b : Chars) : Ordering :=
  let (m, n) := (numberOf a, numberOf b)
  let magnitude := (compare m.2.1 n.2.1).then (compare m.2.2 n.2.2)
  match m.1, n.1 with
  | false, false => magnitude
  | true, true => magnitude.swap
  | true, false => .lt
  | false, true => .gt

def Order.compare (order : Order) (a b : Chars) : Ordering :=
  let result :=
    if order.numeric then compareNumbers a b
    else
      let a := if order.skipsBlanks then a.dropWhile isBlank else a
      let b := if order.skipsBlanks then b.dropWhile isBlank else b
      if order.folded then Ord.compare (a.map Char.toUpper) (b.map Char.toUpper)
      else Ord.compare a b
  if order.reversed then result.swap else result

/-- How lines are sorted. -/
structure Sorting where
  separator : Option Char := none
  keys : List Key := []
  order : Order := {}
  /-- Lines that are alike stay in the order that they have. -/
  stable : Bool := false

/-- Compares lines by what they are sorted by. A key without an order of its own has that of the
    whole. -/
def Sorting.compareKeys (sorting : Sorting) (a b : Chars) : Ordering :=
  if sorting.keys = [] then sorting.order.compare a b
  else
    sorting.keys.foldl
      (fun result key =>
        let order := if key.order = {} then sorting.order else key.order
        let key := { key with order }
        result.then (order.compare (key.part sorting.separator a) (key.part sorting.separator b)))
      .eq

/-- Compares lines. Those that are alike are compared as a whole. -/
def Sorting.compare (sorting : Sorting) (a b : Chars) : Ordering :=
  let result := sorting.compareKeys a b
  if result ≠ .eq ∨ sorting.stable then result
  else
    let last := Ord.compare a b
    if sorting.order.reversed then last.swap else last

def known : Options.Known :=
  { plain := "nrufbsghcCmz", valued := "ktoST"
    long := [("numeric-sort", 'n'), ("reverse", 'r'), ("unique", 'u'), ("ignore-case", 'f'),
      ("key", 'k'), ("field-separator", 't'), ("output", 'o'), ("stable", 's'), ("check", 'c')] }

def sort (task : Task) (args : List Chars) : Task :=
  task.withOptions known 2 args fun task options =>
    let keys := options.flags.filterMap fun (letter, value) =>
      if letter = 'k' then some (key? value, value) else none
    match keys.find? fun entry => entry.1.isNone with
    | some (_, value) =>
      task.complain ("invalid number at field start: invalid count at start of " ++
        inQuotes value) 2
    | none =>
      let order := options.flags.foldl (fun (order : Order) flag =>
        if flag.1 = 'k' then order else order.add flag.1) {}
      let sorting : Sorting :=
        { separator := (options.value? 't').bind List.head?
          keys := keys.filterMap Prod.fst
          order
          stable := options.has 's' || options.has 'u' }
      let (text, task) := task.allText options.words fun task word e =>
        if e = .isADirectory then task.complain ("read failed: " ++ named word ++ ": " ++ reason e) 2
        else task.complain ("cannot read: " ++ named word ++ ": " ++ reason e) 2
      if task.status ≠ 0 then task
      else
        let lines := (linesOf text).map withoutEnd
        if options.has 'c' ∨ options.has 'C' then
          let word := options.words.headD ['-']
          let fault := ((List.range' 2 lines.length).zip (lines.zip (lines.drop 1))).find?
            fun (_, a, b) =>
              let result := sorting.compare a b
              result = .gt || (options.has 'u' && result = .eq)
          match fault with
          | none => task
          | some (n, _, line) =>
            if options.has 'C' then task.withStatus 1
            else
              task.complain (shown word ++ ":" ++ toString n ++ ": disorder: " ++ shown line) 1
        else
          let sorted := lines.mergeSort fun a b => (sorting.compare a b).isLE
          let kept := if options.has 'u' then
              (sorted.splitBy fun a b => sorting.compareKeys a b = .eq).filterMap List.head?
            else sorted
          let out := kept.flatMap (· ++ ['\n'])
          match options.value? 'o' with
          | some file =>
            task.change (task.files.write (pathOf file) (bytesOf out)) fun e =>
              "open failed: " ++ named file ++ ": " ++ reason e
          | none => task.print out

end BootChain.Shell.Sort
