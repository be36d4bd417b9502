import BootChain.Command
import BootChain.Proofs.Text.Utf8.RoundTrip

namespace BootChain.Command

/-- Where a reader stands in a command line. -/
inductive Stand where
  /-- A word starts here. -/
  | opening
  /-- In a word that is written as it is. -/
  | bare
  /-- In quotes. -/
  | quoted
  /-- Behind a quote in quotes. The word is over here, unless an escaped quote follows. -/
  | closed
  /-- Behind the backslash of an escaped quote. -/
  | escaping
  /-- Behind an escaped quote, before the quotes are opened again. -/
  | escaped

/-- A reader of a command line: the words it has read and the one it is in, both last first. -/
structure Reader where
  words : List (List Char) := []
  word : List Char := []
  stand : Stand := .opening

namespace Reader

def take (reader : Reader) (c : Char) (stand : Stand) : Reader :=
  { reader with word := c :: reader.word, stand }

/-- Ends the word that the reader is in. -/
def next (reader : Reader) : Reader where
  words := reader.word.reverse :: reader.words

/-- Reads one more character of a line that is written as `line` writes it. -/
def feed (reader : Reader) (c : Char) : Reader :=
  match reader.stand with
  | .opening => if c = '\'' then { reader with stand := .quoted } else reader.take c .bare
  | .bare => if c = ' ' then reader.next else reader.take c .bare
  | .quoted => if c = '\'' then { reader with stand := .closed } else reader.take c .quoted
  | .closed => if c = ' ' then reader.next else { reader with stand := .escaping }
  | .escaping => reader.take c .escaped
  | .escaped => { reader with stand := .quoted }

end Reader

/-- The words of a command line. -/
def split (line : String) : List String :=
  let reader := line.toList.foldl Reader.feed {}
  reader.next.words.reverse.map String.ofList

/-- The command that a command line shows. -/
def ofLine (line : String) : Command :=
  let words := (split line).map Utf8.encode
  ⟨⟨words.headD []⟩, words.tail⟩

/-- The program and the arguments are text. -/
def IsText (command : Command) : Prop :=
  ∀ word ∈ command.words, (Utf8.text? word).isSome = true

instance : DecidablePred IsText := fun command =>
  inferInstanceAs (Decidable (∀ word ∈ command.words, (Utf8.text? word).isSome = true))

namespace Reader

variable {words : List (List Char)} {word read : List Char}

theorem next_reverse (words : List (List Char)) (word : List Char) (stand : Stand) :
    next ⟨words, word.reverse, stand⟩ = ⟨word :: words, [], .opening⟩ := by
  rw [next, List.reverse_reverse]

/-- A reader has come to the end of a word: a space would end it, and then these are the words. -/
structure AtEnd (reader : Reader) (words : List (List Char)) : Prop where
  next_eq : reader.next = ⟨words, [], .opening⟩
  feed_eq : reader.feed ' ' = reader.next

theorem foldl_feed_bare (hword : ∀ c ∈ word, c ≠ ' ') :
    word.foldl feed ⟨words, read, .bare⟩ = ⟨words, word.reverse ++ read, .bare⟩ := by
  induction word generalizing read with
  | nil => rfl
  | cons c rest ih =>
    obtain ⟨hc, hrest⟩ := List.forall_mem_cons.1 hword
    have hstep : feed ⟨words, read, .bare⟩ c = ⟨words, c :: read, .bare⟩ := if_neg hc
    rw [List.foldl_cons, hstep, ih hrest, List.reverse_cons, List.append_assoc]
    rfl

/-- In quotes each character stands for itself, and a closed, an escaped and an opened quote for one
    quote. -/
theorem foldl_feed_quoted (word : List Char) :
    (word.flatMap fun c => if c = '\'' then ['\'', '\\', '\'', '\''] else [c]).foldl feed
        ⟨words, read, .quoted⟩ = ⟨words, word.reverse ++ read, .quoted⟩ := by
  induction word generalizing read with
  | nil => rfl
  | cons c rest ih =>
    have hstep : (if c = '\'' then ['\'', '\\', '\'', '\''] else [c]).foldl feed
        ⟨words, read, .quoted⟩ = ⟨words, c :: read, .quoted⟩ := by
      split
      next hquote =>
        rw [hquote]
        rfl
      next hplain => exact if_neg hplain
    rw [List.flatMap_cons, List.foldl_append, hstep, ih, List.reverse_cons, List.append_assoc]
    rfl

/-- A word is read back, whether or not it was written in quotes. -/
theorem atEnd_foldl_feed_quote (words : List (List Char)) (word : List Char) :
    ((quote word).foldl feed ⟨words, [], .opening⟩).AtEnd (word :: words) := by
  unfold quote
  split
  next =>
    have hopen : feed ⟨words, [], .opening⟩ '\'' = ⟨words, [], .quoted⟩ := rfl
    rw [List.cons_append, List.foldl_cons, hopen, List.foldl_append, foldl_feed_quoted,
      List.append_nil]
    exact ⟨next_reverse _ _ _, rfl⟩
  next hplain =>
    rw [needsQuotes, Bool.or_eq_true, not_or, List.any_eq_true, not_exists] at hplain
    obtain ⟨hne, hchars⟩ := hplain
    cases word with
    | nil => exact absurd rfl hne
    | cons c rest =>
      have hbare : ∀ d ∈ c :: rest, d ≠ ' ' ∧ d ≠ '\'' := by
        intro d hd
        constructor
        · rintro rfl
          exact hchars _ ⟨hd, rfl⟩
        · rintro rfl
          exact hchars _ ⟨hd, rfl⟩
      have hfirst : feed ⟨words, [], .opening⟩ c = ⟨words, [c], .bare⟩ :=
        if_neg (hbare c List.mem_cons_self).2
      rw [List.foldl_cons, hfirst,
        foldl_feed_bare fun d hd => (hbare d (List.mem_cons_of_mem _ hd)).1, ← List.reverse_cons]
      exact ⟨next_reverse _ _ _, rfl⟩

/-- A line of words is read back word by word. -/
theorem atEnd_foldl_feed_intercalate (words : List (List Char)) (word : List Char)
    (rest : List (List Char)) :
    (([' '].intercalate ((word :: rest).map quote)).foldl feed ⟨words, [], .opening⟩).AtEnd
      ((word :: rest).reverse ++ words) := by
  have hword := atEnd_foldl_feed_quote words word
  induction rest generalizing words word with
  | nil => simpa using hword
  | cons second rest ih =>
    have hlater := ih (word :: words) second (atEnd_foldl_feed_quote _ _)
    rw [List.map_cons, List.map_cons, List.intercalate_cons_cons, ← List.map_cons,
      List.append_assoc, List.foldl_append, List.singleton_append, List.foldl_cons, hword.feed_eq,
      hword.next_eq, List.reverse_cons, List.append_assoc]
    exact hlater

end Reader

/-- A command line is split into the words that it was made of, as a reader sees them. -/
theorem split_line (command : Command) : split command.line = command.words.map Utf8.lossy := by
  have hline : command.line.toList =
      [' '].intercalate ((command.words.map fun word => (Utf8.lossy word).toList).map quote) := by
    rw [line, String.toList_ofList, List.map_map]
    rfl
  have hread := (Reader.atEnd_foldl_feed_intercalate [] (Utf8.lossy command.program.bytes).toList
    (command.args.map fun word => (Utf8.lossy word).toList)).next_eq
  rw [← List.map_cons (f := fun word => (Utf8.lossy word).toList), ← words, ← hline] at hread
  rw [split, hread]
  simp [Function.comp_def]

/-- A command of text is read back from its line. -/
theorem ofLine_line {command : Command} (htext : command.IsText) :
    ofLine command.line = command := by
  have hwords : (command.words.map Utf8.lossy).map Utf8.encode = command.words := by
    rw [List.map_map, List.map_congr_left (g := id) fun word hword => ?_, List.map_id]
    obtain ⟨text, hsome⟩ := Option.isSome_iff_exists.1 (htext word hword)
    rw [Function.comp_apply, ← Utf8.encode_of_text? hsome, Utf8.lossy_encode, id]
  rw [ofLine, split_line, hwords]
  rfl

/-- Command lines can be read: whatever the words of a command are, as long as they are text, the
    line tells where each of them starts and ends, so that no two such commands have one line. -/
theorem line_readable {command : Command} (htext : command.IsText) :
    ofLine command.line = command ∧
      ∀ other : Command, other.IsText → (other.line = command.line ↔ other = command) := by
  refine ⟨ofLine_line htext, fun other hother => ⟨fun hline => ?_, congrArg line⟩⟩
  rw [← ofLine_line hother, hline, ofLine_line htext]

/-- A command whose words are empty, blank, or full of quotes and backslashes. -/
def intricate : Command where
  program := .ofText "/opt/my cc"
  args := ["", " ", "\u3000", "it's", "''", "\"q\"", "a\\", "\\'\\", "' '\\''"].map Utf8.encode

theorem line_readable_intricate : intricate.IsText ∧
    intricate.line = "'/opt/my cc' '' ' ' '\u3000' 'it'\\''s' ''\\'''\\''' '\"q\"' a\\ " ++
      "'\\'\\''\\' ''\\'' '\\''\\'\\'''\\'''" ∧
    ofLine intricate.line = intricate := by
  have htext : intricate.IsText := by decide +kernel
  exact ⟨htext, by decide +kernel, (line_readable htext).1⟩

end BootChain.Command
