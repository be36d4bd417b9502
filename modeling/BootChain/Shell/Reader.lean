import BootChain.Shell

namespace BootChain.Shell

/-- Characters that end a word unless they are quoted. -/
def endsWord (c : Char) : Bool :=
  isBlank c || [('\n' : Char), ';', '&', '|', '<', '>', '(', ')'].contains c

/-- Characters that mean something of their own within a word. -/
def isSpecial (c : Char) : Bool := ['\'', '"', '\\', '$', '\x60'].contains c

def isNameStart (c : Char) : Bool :=
  ('a' ≤ c && c ≤ 'z') || ('A' ≤ c && c ≤ 'Z') || c = '_'

def isNameChar (c : Char) : Bool := isNameStart c || ('0' ≤ c && c ≤ '9')

/-- True of the name of a variable or a function. -/
def isName : Chars → Bool
  | [] => false
  | c :: rest => isNameStart c && rest.all isNameChar

/-- Parameters whose name is one character that is no letter. -/
def isSpecialParameter (c : Char) : Bool :=
  c.isDigit || ['@', '*', '#', '?', '$', '!', '-'].contains c

/-- Words that belong to the language where a command may start. -/
def keywords : List Chars :=
  ["!", "case", "do", "done", "elif", "else", "esac", "fi", "for", "if", "in", "then", "until",
    "while", "\x7b", "\x7d"].map String.toList

/-- Commands that are part of the language and end a script that uses them wrongly. -/
def specialCommands : List Chars :=
  [":", ".", "break", "continue", "eval", "exec", "exit", "export", "local", "readonly", "return",
    "set", "shift", "times", "trap", "unset"].map String.toList

/-- The line of the first of some characters at the end of a text with so many lines. -/
def lineAt (lines : Nat) (chars : Chars) : Nat := lines - chars.count '\n'

/-- Takes off blanks, line ends that are taken back by a backslash, and a comment. The flag says
    that a comment is under way. -/
def skipBlanks : Bool → Chars → Chars
  | _, [] => []
  | false, '\\' :: '\n' :: rest => skipBlanks false rest
  | false, c :: rest =>
    if isBlank c then skipBlanks false rest
    else if c = '#' then skipBlanks true rest
    else c :: rest
  | true, c :: rest => if c = '\n' then c :: rest else skipBlanks true rest

/-- Takes off blanks, comments and line ends. -/
def skipLines : Bool → Chars → Chars
  | _, [] => []
  | false, '\\' :: '\n' :: rest => skipLines false rest
  | false, c :: rest =>
    if isBlank c || c = '\n' then skipLines false rest
    else if c = '#' then skipLines true rest
    else c :: rest
  | true, c :: rest => skipLines (c ≠ '\n') rest

/-- The characters before the two parentheses that close an arithmetic expression, within which
    `depth` parentheses are open, and what follows. -/
def expressionFrom : Nat → Chars → Chars → Option (Chars × Chars)
  | _, _, [] => none
  | depth, read, '\\' :: c :: rest => expressionFrom depth (c :: '\\' :: read) rest
  | depth, read, c :: rest =>
    if c = '(' then expressionFrom (depth + 1) (c :: read) rest
    else if c = ')' then
      match depth, rest with
      | depth + 1, _ => expressionFrom depth (c :: read) rest
      | 0, ')' :: rest => some (read.reverse, rest)
      | 0, _ => expressionFrom 0 (c :: read) rest
    else expressionFrom depth (c :: read) rest

/-- The characters before a closing grave accent, with the backslashes taken away that quote one,
    a dollar sign or a backslash; within double quotes, also those that quote one of these. -/
def graveFrom (quoted : Bool) : Chars → Chars → Option (Chars × Chars)
  | _, [] => none
  | read, '\\' :: '\n' :: rest => graveFrom quoted read rest
  | read, '\\' :: c :: rest =>
    if ['\x60', '\\', '$'].contains c || (quoted && c = '"') then graveFrom quoted (c :: read) rest
    else graveFrom quoted (c :: '\\' :: read) rest
  | read, c :: rest =>
    if c = '\x60' then some (read.reverse, rest) else graveFrom quoted (c :: read) rest

/-- The lines of a text before one that is `mark`, and what follows that. -/
def hereFrom (mark : Chars) (skipTabs : Bool) : Nat → Chars → Chars → Chars × Chars
  | 0, read, rest => (read.reverse, rest)
  | fuel + 1, read, chars =>
    if chars = [] then (read.reverse, [])
    else
      let (line, rest) := chars.span (· ≠ '\n')
      let line := if skipTabs then line.dropWhile (· = '\t') else line
      if line = mark then (read.reverse, rest.drop 1)
      else hereFrom mark skipTabs fuel ('\n' :: (line.reverse ++ read)) (rest.drop 1)

/-- The word at the start of some characters as it is written. -/
def rawWord (chars : Chars) : Chars := chars.takeWhile fun c => !endsWord c

/-- How a redirection starts: its descriptor, which is one digit if it is written, and what
    follows. -/
def redirectionStart? : Chars → Option (Option Nat × Chars)
  | '<' :: rest => some (none, '<' :: rest)
  | '>' :: rest => some (none, '>' :: rest)
  | d :: c :: rest =>
    if d.isDigit ∧ (c = '<' ∨ c = '>') then some (some (d.toNat - '0'.toNat), c :: rest) else none
  | _ => none

/-- The name of an assignment at the start of some characters, and what follows its sign. -/
def assignmentStart? (chars : Chars) : Option (Chars × Chars) :=
  match chars.span isNameChar with
  | (name, '=' :: rest) => if isName name then some (name, rest) else none
  | _ => none

def operators : List String := ["&&", "||", ";;", ";", "&", "|", "(", ")"]

def inDoubleQuotes (text : String) : String := "\"" ++ text ++ "\""

/-- What complaints call the first of some characters that are not blank. -/
def tokenName (chars : Chars) : String :=
  match chars with
  | [] => "end of file"
  | '\n' :: _ => "newline"
  | chars =>
    if (redirectionStart? chars).isSome then "redirection"
    else match operators.find? fun operator => operator.toList.isPrefixOf chars with
      | some operator => inDoubleQuotes operator
      | none =>
        if keywords.contains (rawWord chars) then inDoubleQuotes (String.ofList (rawWord chars))
        else "word"

/-- The error at characters that cannot stand where they do. -/
def unexpected (lines : Nat) (chars : Chars) (expected : Option String) : SyntaxError :=
  let chars := skipBlanks false chars
  let line := lineAt lines (if chars.head? = some '\n' then chars.drop 1 else chars)
  let message := tokenName chars ++ " unexpected" ++
    match expected with
    | some name => " (expecting " ++ name ++ ")"
    | none => ""
  ⟨line, message⟩

/-- The error at the end of a text. -/
def unfinished (lines : Nat) (message : String) : SyntaxError := ⟨lines, message⟩

/-- True where a word starts. -/
def atWord (chars : Chars) : Bool :=
  match chars.head? with
  | none => false
  | some c => !endsWord c && (redirectionStart? chars).isNone

/-- True where a list of commands ends. -/
def atClosing (chars : Chars) : Bool :=
  chars = [] || chars.head? = some ')' || [';', ';'].isPrefixOf chars ||
    (["do", "done", "elif", "else", "esac", "fi", "then", "\x7d"].map String.toList).contains
      (rawWord chars)

/-- Takes off a keyword, or a closing parenthesis. -/
def expect (lines : Nat) (word : String) (chars : Chars) : Except SyntaxError Chars :=
  let chars := skipLines false chars
  let found := if word = ")" then chars.take 1 else rawWord chars
  if found = word.toList then .ok (chars.drop word.length)
  else .error (unexpected lines chars (some (inDoubleQuotes word)))

/-- Where the pieces that are read stand. -/
inductive Place where
  /-- In a word of a command. -/
  | word
  /-- After the name of a parameter in braces. -/
  | braces
  /-- In double quotes. -/
  | quotes
  /-- After the name of a parameter in braces, which are in double quotes. -/
  | quotedBraces
  /-- In the lines after a command. -/
  | here
  | arithmetic
  deriving DecidableEq, Repr

namespace Place

/-- True where what comes of pieces is never split into words. -/
def isQuoted : Place → Bool
  | word => false
  | braces => false
  | _ => true

def isInBraces (place : Place) : Bool := place = braces || place = quotedBraces

/-- True where a quotation mark of either kind starts a quotation. -/
def opensQuotes (place : Place) : Bool := place = word || place = braces

/-- True of the characters before which a backslash loses itself. -/
def escapes (place : Place) (c : Char) : Bool :=
  place.opensQuotes || ['$', '\x60', '\\'].contains c ||
    (c = '"' && (place = quotes || place = quotedBraces)) || (c = '}' && place = quotedBraces)

/-- True of a character that ends the pieces here, or means something of its own. -/
def stops (place : Place) (c : Char) : Bool :=
  isSpecial c || (place = word && endsWord c) || (place.isInBraces && c = '}')

/-- The error of a text that ends here, if it may not. -/
def error? : Place → Option String
  | braces => some "Missing '\x7d'"
  | quotes => some "Unterminated quoted string"
  | quotedBraces => some "Unterminated quoted string"
  | _ => none

end Place

/-- The text of a word without quotation marks, and whether it had any; nothing if it has more
    than text in it. -/
def plainText? (pieces : List Piece) : Option (Chars × Bool) :=
  pieces.foldr
    (fun piece found =>
      match piece, found with
      | .text quoted chars, some (text, any) => some (chars ++ text, quoted || any)
      | _, _ => none)
    (some ([], false))

/-- The name of a function that is defined, if the words before its parentheses make one. -/
def functionName? : List (List Piece) → Option Chars
  | [[.text false name]] =>
    if isName name ∧ !specialCommands.contains name then some name else none
  | _ => none

mutual

/-- Reads what follows a dollar sign. `lines` is the number of lines of the whole text. -/
def dollarFrom (lines : Nat) (place : Place) : Nat → Chars → Except SyntaxError (Piece × Chars)
  | 0, _ => .error (unfinished lines "")
  | fuel + 1, chars =>
    let quoted := place.isQuoted
    match chars with
    | '(' :: '(' :: rest =>
      match expressionFrom 0 [] rest with
      | none => .error (unfinished lines "Missing '))'")
      | some (expression, rest) => do
        let (pieces, _) ← piecesFrom lines .arithmetic fuel [] expression
        return (.arithmetic quoted pieces, rest)
    | '(' :: rest => do
      let (script, rest) ← listFrom lines true fuel rest
      return (.output quoted script, ← expect lines ")" rest)
    | '{' :: rest => parameterFrom lines place fuel rest
    | c :: rest =>
      if isNameStart c then
        let (name, rest) := chars.span isNameChar
        .ok (.parameter quoted name .plain, rest)
      else if isSpecialParameter c then .ok (.parameter quoted [c] .plain, rest)
      else .ok (.text quoted ['$'], chars)
    | [] => .ok (.text quoted ['$'], [])
termination_by structural fuel => fuel

/-- Reads a parameter in braces. -/
def parameterFrom (lines : Nat) (place : Place) : Nat → Chars → Except SyntaxError (Piece × Chars)
  | 0, _ => .error (unfinished lines "")
  | fuel + 1, chars =>
    let quoted := place.isQuoted
    let inner := if quoted then Place.quotedBraces else .braces
    let senseless (name rest : Chars) : Except SyntaxError (Piece × Chars) := do
      let (_, rest) ← piecesFrom lines inner fuel [] rest
      return (.parameter quoted name .senseless, rest)
    let sized (name rest : Chars) : Except SyntaxError (Piece × Chars) :=
      match rest with
      | '}' :: rest => .ok (.parameter quoted name .size, rest)
      | _ => senseless name rest
    let used (name rest : Chars) : Except SyntaxError (Piece × Chars) := do
      let (alsoEmpty, sign) := match rest with
        | ':' :: rest => (true, rest)
        | _ => (false, rest)
      let falling (kind : Fallback) (rest : Chars) : Except SyntaxError (Piece × Chars) := do
        let (word, rest) ← piecesFrom lines inner fuel [] rest
        return (.parameter quoted name (.fallback kind alsoEmpty word), rest)
      let cutting (cut : Cut) (rest : Chars) : Except SyntaxError (Piece × Chars) := do
        let (pattern, rest) ← piecesFrom lines .braces fuel [] rest
        return (.parameter quoted name (.cut cut pattern), rest)
      match alsoEmpty, sign with
      | _, '}' :: rest => return (.parameter quoted name .plain, rest)
      | _, '-' :: rest => falling .value rest
      | _, '=' :: rest => falling .assigned rest
      | _, '?' :: rest => falling .refused rest
      | _, '+' :: rest => falling .reversed rest
      | false, '%' :: '%' :: rest => cutting ⟨true, true⟩ rest
      | false, '%' :: rest => cutting ⟨true, false⟩ rest
      | false, '#' :: '#' :: rest => cutting ⟨false, true⟩ rest
      | false, '#' :: rest => cutting ⟨false, false⟩ rest
      | _, rest => senseless name rest
    match chars with
    | '#' :: c :: rest =>
      if isNameStart c then
        let (name, rest) := (c :: rest).span isNameChar
        sized name rest
      else if c.isDigit then sized [c] rest
      else if rest.head? = some '}' ∧ c ≠ '}' then
        if isSpecialParameter c then sized [c] rest else senseless ['#'] (c :: rest)
      else used ['#'] (c :: rest)
    | c :: rest =>
      if isNameStart c then
        let (name, rest) := chars.span isNameChar
        used name rest
      else if c.isDigit then
        let (name, rest) := chars.span Char.isDigit
        used name rest
      else if isSpecialParameter c then used [c] rest
      else senseless [] chars
    | [] => senseless [] []
termination_by structural fuel => fuel

/-- Reads pieces up to where they end at their place. -/
def piecesFrom (lines : Nat) (place : Place) : Nat → List Piece → Chars → Except SyntaxError (List Piece × Chars)
  | 0, _, _ => .error (unfinished lines "")
  | fuel + 1, read, chars =>
    let quoted := place.isQuoted
    match chars with
    | [] =>
      match place.error? with
      | some message => .error (unfinished lines message)
      | none => .ok (read.reverse, [])
    | '\\' :: '\n' :: rest => piecesFrom lines place fuel read rest
    | '\\' :: c :: rest =>
      if place.escapes c then piecesFrom lines place fuel (.text true [c] :: read) rest
      else piecesFrom lines place fuel (.text true ['\\', c] :: read) rest
    | '$' :: rest => do
      let (piece, rest) ← dollarFrom lines place fuel rest
      piecesFrom lines place fuel (piece :: read) rest
    | '\x60' :: rest =>
      match graveFrom (place = .quotes) [] rest with
      | none => .error (unfinished lines "EOF in backquote substitution")
      | some (inner, after) => do
        let (script, left) ← listFrom (lineAt lines rest + inner.count '\n') true fuel inner
        if left ≠ [] then .error (unexpected lines left none)
        else piecesFrom lines place fuel (.output quoted script :: read) after
    | '\'' :: rest =>
      if place.opensQuotes then
        match rest.span (· ≠ '\'') with
        | (content, _ :: rest) => piecesFrom lines place fuel (.text true content :: read) rest
        | (_, []) => .error (unfinished lines "Unterminated quoted string")
      else piecesFrom lines place fuel (.text quoted ['\''] :: read) rest
    | '"' :: rest =>
      if place = .quotes then .ok (read.reverse, rest)
      else if place = .here then piecesFrom lines place fuel (.text true ['"'] :: read) rest
      else if place = .arithmetic then piecesFrom lines place fuel read rest
      else do
        let (pieces, rest) ← piecesFrom lines .quotes fuel [] rest
        piecesFrom lines place fuel (pieces.reverse ++ .text true [] :: read) rest
    | c :: rest =>
      if place = .word ∧ endsWord c then .ok (read.reverse, chars)
      else if place.isInBraces ∧ c = '}' then .ok (read.reverse, rest)
      else
        match chars.span fun d => !place.stops d with
        | ([], _) => piecesFrom lines place fuel (.text quoted [c] :: read) rest
        | (run, rest) => piecesFrom lines place fuel (.text quoted run :: read) rest
termination_by structural fuel => fuel

/-- Reads the rest of a redirection, from its sign on. -/
def redirectionFrom (lines : Nat) (descriptor : Option Nat) : Nat → Chars → Except SyntaxError (Redirection × Chars)
  | 0, _ => .error (unfinished lines "")
  | fuel + 1, chars =>
    let wordOf (rest : Chars) : Except SyntaxError (List Piece × Chars) :=
      let rest := skipBlanks false rest
      if atWord rest then piecesFrom lines .word fuel [] rest
      else .error (unexpected lines rest none)
    let target (default : Nat) (direction : Direction) (rest : Chars) : Except SyntaxError (Redirection × Chars) := do
      let (word, rest) ← wordOf rest
      return (.mk (descriptor.getD default) direction word, rest)
    let hereText (skipTabs : Bool) (rest : Chars) : Except SyntaxError (Redirection × Chars) := do
      let (word, rest) ← wordOf rest
      let (mark, quoted) := (plainText? word).getD ([], true)
      let (tail, after) := rest.span (· ≠ '\n')
      let (content, after) := hereFrom mark skipTabs (after.length + 1) [] (after.drop 1)
      let pieces ←
        if quoted then pure [Piece.text true content]
        else (piecesFrom lines .here fuel [] content).map Prod.fst
      return (.mk (descriptor.getD 0) .here pieces, tail ++ '\n' :: after)
    match chars with
    | '>' :: '>' :: rest => target 1 .append rest
    | '>' :: '&' :: rest => target 1 .duplicate rest
    | '>' :: '|' :: rest => target 1 .overwrite rest
    | '>' :: rest => target 1 .write rest
    | '<' :: '<' :: '-' :: rest => hereText true rest
    | '<' :: '<' :: rest => hereText false rest
    | '<' :: '&' :: rest => target 0 .duplicate rest
    | '<' :: '>' :: rest => target 0 .both rest
    | '<' :: rest => target 0 .read rest
    | _ => .error (unexpected lines chars none)
termination_by structural fuel => fuel

/-- Reads redirections. -/
def redirectionsFrom (lines : Nat) :
    Nat → List Redirection → Chars → Except SyntaxError (List Redirection × Chars)
  | 0, _, _ => .error (unfinished lines "")
  | fuel + 1, read, chars =>
    match redirectionStart? (skipBlanks false chars) with
    | some (descriptor, rest) => do
      let (redirection, rest) ← redirectionFrom lines descriptor fuel rest
      redirectionsFrom lines fuel (redirection :: read) rest
    | none => .ok (read.reverse, chars)
termination_by structural fuel => fuel

/-- Reads the rest of a simple command, which may turn out to define a function. All that was read
    comes last first. -/
def simpleFrom (lines line : Nat) : Nat → List (Chars × List Piece) → List (List Piece) →
    List Redirection → Chars → Except SyntaxError (Script × Chars)
  | 0, _, _, _, _ => .error (unfinished lines "")
  | fuel + 1, assignments, words, redirections, chars =>
    let chars := skipBlanks false chars
    match redirectionStart? chars with
    | some (descriptor, rest) => do
      let (redirection, rest) ← redirectionFrom lines descriptor fuel rest
      simpleFrom lines line fuel assignments words (redirection :: redirections) rest
    | none =>
      match if words.isEmpty then assignmentStart? chars else none with
      | some (name, rest) => do
        let (word, rest) ← piecesFrom lines .word fuel [] rest
        simpleFrom lines line fuel ((name, word) :: assignments) words redirections rest
      | none =>
        if atWord chars then do
          let (word, rest) ← piecesFrom lines .word fuel [] chars
          simpleFrom lines line fuel assignments (word :: words) redirections rest
        else if chars.head? = some '(' ∧ words.length = 1 ∧ assignments.isEmpty ∧
            redirections.isEmpty then do
          let rest ← expect lines ")" (skipBlanks false (chars.drop 1))
          match functionName? words with
          | none => .error ⟨lineAt lines rest, "Bad function name"⟩
          | some name =>
            let (body, rest) ← commandFrom lines fuel (skipLines false rest)
            return (.function name body, rest)
        else
          .ok (.simple line assignments.reverse words.reverse redirections.reverse, chars)
termination_by structural fuel => fuel

/-- Reads words up to something else. -/
def wordsFrom (lines : Nat) : Nat → List (List Piece) → Chars → Except SyntaxError (List (List Piece) × Chars)
  | 0, _, _ => .error (unfinished lines "")
  | fuel + 1, read, chars =>
    let chars := skipBlanks false chars
    if atWord chars then do
      let (word, rest) ← piecesFrom lines .word fuel [] chars
      wordsFrom lines fuel (word :: read) rest
    else .ok (read.reverse, chars)
termination_by structural fuel => fuel

/-- Reads the patterns of a case, up to the closing parenthesis. -/
def patternsFrom (lines : Nat) : Nat → List (List Piece) → Chars → Except SyntaxError (List (List Piece) × Chars)
  | 0, _, _ => .error (unfinished lines "")
  | fuel + 1, read, chars =>
    let chars := skipBlanks false chars
    if !atWord chars then .error (unexpected lines chars (some "\")\""))
    else do
      let (word, rest) ← piecesFrom lines .word fuel [] chars
      match skipBlanks false rest with
      | '|' :: rest => patternsFrom lines fuel (word :: read) rest
      | ')' :: rest => return ((word :: read).reverse, rest)
      | rest => .error (unexpected lines rest (some "\")\""))
termination_by structural fuel => fuel

/-- Reads the cases of a selection. -/
def casesFrom (lines : Nat) : Nat → List (List (List Piece) × Script) → Chars →
    Except SyntaxError ((List (List (List Piece) × Script)) × Chars)
  | 0, _, _ => .error (unfinished lines "")
  | fuel + 1, read, chars =>
    let chars := skipLines false chars
    if rawWord chars = "esac".toList then .ok (read.reverse, chars.drop 4)
    else do
      let start := if chars.head? = some '(' then chars.drop 1 else chars
      let (patterns, rest) ← patternsFrom lines fuel [] start
      let (body, rest) ← listFrom lines true fuel rest
      match skipLines false rest with
      | ';' :: ';' :: rest => casesFrom lines fuel ((patterns, body) :: read) rest
      | rest =>
        if rawWord rest = "esac".toList then
          return (((patterns, body) :: read).reverse, rest.drop 4)
        else .error (unexpected lines rest (some "\";;\""))
termination_by structural fuel => fuel

/-- Reads what follows the word that opens a branch. -/
def branchFrom (lines : Nat) : Nat → Chars → Except SyntaxError (Script × Chars)
  | 0, _ => .error (unfinished lines "")
  | fuel + 1, chars => do
    let (condition, rest) ← listFrom lines false fuel chars
    let (yes, rest) ← listFrom lines false fuel (← expect lines "then" rest)
    let rest := skipLines false rest
    if rawWord rest = "elif".toList then
      let (no, rest) ← branchFrom lines fuel (rest.drop 4)
      return (.branch condition yes no, rest)
    else if rawWord rest = "else".toList then
      let (no, rest) ← listFrom lines false fuel (rest.drop 4)
      return (.branch condition yes no, ← expect lines "fi" rest)
    else return (.branch condition yes .nothing, ← expect lines "fi" rest)
termination_by structural fuel => fuel

/-- Reads the body of a loop. -/
def bodyFrom (lines : Nat) : Nat → Chars → Except SyntaxError (Script × Chars)
  | 0, _ => .error (unfinished lines "")
  | fuel + 1, chars => do
    let (body, rest) ← listFrom lines false fuel (← expect lines "do" chars)
    return (body, ← expect lines "done" rest)
termination_by structural fuel => fuel

/-- Reads a command with its redirections. -/
def commandFrom (lines : Nat) : Nat → Chars → Except SyntaxError (Script × Chars)
  | 0, _ => .error (unfinished lines "")
  | fuel + 1, chars =>
    let chars := skipBlanks false chars
    let line := lineAt lines chars
    let withRedirections (script : Script) (rest : Chars) : Except SyntaxError (Script × Chars) := do
      let (redirections, rest) ← redirectionsFrom lines fuel [] rest
      return (if redirections.isEmpty then script else .redirected line script redirections, rest)
    if chars.head? = some '(' then do
      let (script, rest) ← listFrom lines false fuel (chars.drop 1)
      withRedirections (.isolated line script) (← expect lines ")" rest)
    else if (redirectionStart? chars).isSome then simpleFrom lines line fuel [] [] [] chars
    else if !atWord chars then .error (unexpected lines chars none)
    else
      match String.ofList (rawWord chars) with
      | "if" => do
        let (script, rest) ← branchFrom lines fuel (chars.drop 2)
        withRedirections script rest
      | "while" => do
        let (condition, rest) ← listFrom lines false fuel (chars.drop 5)
        let (body, rest) ← bodyFrom lines fuel rest
        withRedirections (.loop true condition body) rest
      | "until" => do
        let (condition, rest) ← listFrom lines false fuel (chars.drop 5)
        let (body, rest) ← bodyFrom lines fuel rest
        withRedirections (.loop false condition body) rest
      | "for" => do
        let start := skipBlanks false (chars.drop 3)
        let name := rawWord start
        if !isName name then .error ⟨lineAt lines start, "Bad for loop variable"⟩
        else
          let rest := skipLines false (start.drop name.length)
          if rawWord rest = "in".toList then
            let (words, rest) ← wordsFrom lines fuel [] (rest.drop 2)
            if rest.head? = some '\n' ∨ (rest.head? = some ';' ∧ rest[1]? ≠ some ';') then
              let (body, rest) ← bodyFrom lines fuel (rest.drop 1)
              withRedirections (.each line name words body) rest
            else .error (unexpected lines rest none)
          else
            let rest := if rest.head? = some ';' ∧ rest[1]? ≠ some ';' then rest.drop 1 else rest
            let (body, rest) ← bodyFrom lines fuel rest
            withRedirections (.each line name [[.parameter true ['@'] .plain]] body) rest
      | "case" => do
        let start := skipBlanks false (chars.drop 4)
        if !atWord start then .error (unexpected lines start (some "word"))
        else
          let (word, rest) ← piecesFrom lines .word fuel [] start
          let (cases, rest) ← casesFrom lines fuel [] (← expect lines "in" rest)
          withRedirections (.select line word cases) rest
      | "\x7b" => do
        let (script, rest) ← listFrom lines false fuel (chars.drop 1)
        withRedirections script (← expect lines "\x7d" rest)
      | word =>
        if keywords.contains word.toList then .error (unexpected lines chars none)
        else simpleFrom lines line fuel [] [] [] chars
termination_by structural fuel => fuel

/-- Reads commands that are joined by bars, after those that were read, last first. -/
def pipedFrom (lines : Nat) : Nat → List Script → Chars → Except SyntaxError (List Script × Chars)
  | 0, _, _ => .error (unfinished lines "")
  | fuel + 1, read, chars => do
    let (script, rest) ← commandFrom lines fuel chars
    match skipBlanks false rest with
    | '|' :: '|' :: _ => return ((script :: read).reverse, rest)
    | '|' :: rest => pipedFrom lines fuel (script :: read) (skipLines false rest)
    | _ => return ((script :: read).reverse, rest)
termination_by structural fuel => fuel

/-- Reads a pipeline. -/
def pipelineFrom (lines : Nat) : Nat → Chars → Except SyntaxError (Script × Chars)
  | 0, _ => .error (unfinished lines "")
  | fuel + 1, chars => do
    let chars := skipBlanks false chars
    let negated := rawWord chars = ['!']
    let (scripts, rest) ← pipedFrom lines fuel [] (if negated then chars.drop 1 else chars)
    let script := match scripts with
      | [script] => script
      | scripts => .pipe scripts
    return (if negated then .negated script else script, rest)
termination_by structural fuel => fuel

/-- Reads pipelines that are joined by double signs, after the one that was read. -/
def chainFrom (lines : Nat) : Nat → Script → Chars → Except SyntaxError (Script × Chars)
  | 0, _, _ => .error (unfinished lines "")
  | fuel + 1, read, chars =>
    match skipBlanks false chars with
    | '&' :: '&' :: rest => do
      let (next, rest) ← pipelineFrom lines fuel (skipLines false rest)
      chainFrom lines fuel (.andThen read next) rest
    | '|' :: '|' :: rest => do
      let (next, rest) ← pipelineFrom lines fuel (skipLines false rest)
      chainFrom lines fuel (.orElse read next) rest
    | rest => .ok (read, rest)
termination_by structural fuel => fuel

/-- Reads a list of commands within another command, up to where it ends. It may be empty if
    `mayEnd`. -/
def listFrom (lines : Nat) (mayEnd : Bool) : Nat → Chars → Except SyntaxError (Script × Chars)
  | 0, _ => .error (unfinished lines "")
  | fuel + 1, chars => do
    let chars := skipLines false chars
    if chars = [] ∨ (mayEnd ∧ atClosing chars) then return (.nothing, chars)
    let (first, rest) ← pipelineFrom lines fuel chars
    let (first, rest) ← chainFrom lines fuel first rest
    match rest with
    | ';' :: ';' :: _ => return (first, rest)
    | '&' :: rest =>
      let (others, rest) ← listFrom lines true fuel rest
      return (.sequence (.background first) others, rest)
    | c :: after =>
      if c = '\n' ∨ c = ';' then
        let (others, rest) ← listFrom lines true fuel after
        return (.sequence first others, rest)
      else return (first, rest)
    | [] => return (first, [])
termination_by structural fuel => fuel

end

/-- Reads the commands up to the end of a line. -/
def lineFrom (lines : Nat) : Nat → Chars → Except SyntaxError (Script × Chars)
  | 0, _ => .error (unfinished lines "")
  | fuel + 1, chars => do
    match skipBlanks false chars with
    | [] => return (.nothing, [])
    | '\n' :: rest => return (.nothing, rest)
    | chars =>
      let budget := 8 * chars.length + 16
      let (first, rest) ← pipelineFrom lines budget chars
      let (first, rest) ← chainFrom lines budget first rest
      match rest with
      | ';' :: ';' :: _ => .error (unexpected lines rest none)
      | '&' :: rest =>
        let (others, rest) ← lineFrom lines fuel rest
        return (.sequence (.background first) others, rest)
      | ';' :: rest =>
        let (others, rest) ← lineFrom lines fuel rest
        return (.sequence first others, rest)
      | '\n' :: rest => return (first, rest)
      | [] => return (first, [])
      | rest => .error (unexpected lines rest none)

/-- Reads the lines of a text up to the first that is none of the language. -/
def programFrom (lines : Nat) : Nat → List Script → Chars → Program
  | 0, read, _ => { commands := read.reverse }
  | fuel + 1, read, chars =>
    if chars = [] then { commands := read.reverse }
    else
      match lineFrom lines (chars.length + 1) chars with
      | .error error => { commands := read.reverse, error := some error }
      | .ok (script, rest) => programFrom lines fuel (script :: read) rest

/-- Reads a text whose first line has a number. -/
def read (line : Nat) (chars : Chars) : Program :=
  programFrom (chars.count '\n' + line) (chars.length + 1) [] chars

end BootChain.Shell
