import BootChain.Toml.Printer
import Mathlib.Data.List.TakeDrop
import Mathlib.Tactic.SplitIfs

namespace BootChain.Toml

variable {c : Char} {chars read rest : List Char}

theorem span_append {p : Char → Bool} (hchars : ∀ c ∈ chars, p c = true)
    (hrest : ∀ c, rest.head? = some c → p c = false) : (chars ++ rest).span p = (chars, rest) := by
  rw [List.span_eq_takeWhile_dropWhile, List.takeWhile_append_of_pos hchars,
    List.dropWhile_append_of_pos hchars]
  cases rest with
  | nil => simp
  | cons c rest => simp [hrest c rfl]

/-- A reader of texts in which escapes are read. -/
structure ReadsEscapes (reader : Mode → List Char → List Char → Option (String × List Char)) :
    Prop where
  self : ∀ {c : Char} {read rest : List Char}, c ≠ '"' → c ≠ '\\' → isControl c = false →
    reader .plain read (c :: rest) = reader .plain (c :: read) rest
  backslash : ∀ {read rest : List Char},
    reader .plain read ('\\' :: rest) = reader .escape read rest
  escape : ∀ {c : Char} {read rest chars : List Char} {mode : Mode},
    afterBackslash? c = some (mode, chars) →
      reader .escape read (c :: rest) = reader mode (chars ++ read) rest
  code : ∀ {c : Char} {read rest chars : List Char} {mode : Mode} {wanted value : Nat},
    afterDigit? wanted value c = some (mode, chars) →
      reader (.code wanted value) read (c :: rest) = reader mode (chars ++ read) rest

theorem readsEscapes_basicRest : ReadsEscapes basicRest where
  self hquote hbackslash hcontrol := by
    rw [basicRest, if_neg hquote, if_neg hbackslash, hcontrol]
    · rfl
    · nofun
    · nofun
  backslash := rfl
  escape hafter := by rw [basicRest, hafter]
  code hafter := by rw [basicRest, hafter]

/-- What may follow a backslash is never taken for the end of a line. -/
theorem foldsLine_of_afterBackslash? {mode : Mode} {written : List Char}
    (hafter : afterBackslash? c = some (mode, written)) : foldsLine (c :: rest) = false := by
  unfold afterBackslash? at hafter
  split at hafter <;> first | rfl | cases hafter

theorem longBasicRest_plain (read : List Char) (c : Char) (rest : List Char) :
    longBasicRest .plain read (c :: rest) =
      if c = '"' then
        match rest with
        | '"' :: '"' :: after => some (closeLong '"' read after)
        | _ => longBasicRest .plain ('"' :: read) rest
      else if c = '\\' then longBasicRest .escape read rest
      else if isControl c && !endsLine c rest then none
      else longBasicRest .plain (c :: read) rest := rfl

theorem readsEscapes_longBasicRest : ReadsEscapes longBasicRest where
  self hquote hbackslash hcontrol := by
    rw [longBasicRest_plain, if_neg hquote, if_neg hbackslash, hcontrol]
    rfl
  backslash := rfl
  escape hafter := by
    rw [longBasicRest, foldsLine_of_afterBackslash? hafter, hafter]
    rfl
  code hafter := by rw [longBasicRest, hafter]

theorem digit?_toUpper : ∀ n < 16, Hexadecimal.digit? n.digitChar.toUpper = some n := by decide

theorem afterDigit?_next {wanted n digit : Nat} (hdigit : digit < 16) :
    afterDigit? (wanted + 2) n digit.digitChar.toUpper =
      some (.code (wanted + 1) (n * 16 + digit), []) := by
  rw [afterDigit?, digit?_toUpper digit hdigit]
  simp

theorem afterDigit?_last {n digit : Nat} (hdigit : digit < 16)
    (hvalid : (n * 16 + digit).isValidChar) :
    afterDigit? 1 n digit.digitChar.toUpper = some (.plain, [Char.ofNat (n * 16 + digit)]) := by
  rw [afterDigit?, digit?_toUpper digit hdigit]
  simp [hvalid]

theorem toNat_lt_of_isControl (hcontrol : isControl c = true) : c.toNat < 128 := by
  simp only [isControl, Bool.or_eq_true, Bool.and_eq_true, decide_eq_true_eq] at hcontrol
  omega

namespace ReadsEscapes

variable {reader : Mode → List Char → List Char → Option (String × List Char)}
  (hreads : ReadsEscapes reader)
include hreads

/-- The four digits of a numbered escape denote the number that they were made of. -/
theorem numbered {n : Nat} (hn : n < 256) :
    reader .escape read ('u' :: '0' :: '0' :: (n / 16).digitChar.toUpper ::
        (n % 16).digitChar.toUpper :: rest) = reader .plain (Char.ofNat n :: read) rest := by
  have hlow : n % 16 < 16 := Nat.mod_lt n (by decide)
  have hhigh : n / 16 < 16 := by omega
  have hnumber : (0 * 16 + n / 16) * 16 + n % 16 = n := by omega
  have hvalid : ((0 * 16 + n / 16) * 16 + n % 16).isValidChar := .inl (by omega)
  have hlast := afterDigit?_last hlow hvalid
  rw [hnumber] at hlast
  have hzero : ∀ wanted, afterDigit? (wanted + 2) 0 '0' = some (.code (wanted + 1) 0, []) :=
    fun wanted => afterDigit?_next (by decide : 0 < 16)
  rw [hreads.escape rfl, hreads.code (hzero 2), hreads.code (hzero 1),
    hreads.code (afterDigit?_next hhigh), hreads.code hlast]
  rfl

/-- A character that an escape stands for is read back, and so is one that stands for itself. -/
theorem escapeChar (hquote : c ≠ '"') :
    reader .plain read (Toml.escapeChar c ++ rest) = reader .plain (c :: read) rest := by
  have hshort : ∀ letter : Char, afterBackslash? letter = some (.plain, [c]) →
      reader .plain read ('\\' :: letter :: rest) = reader .plain (c :: read) rest := by
    intro letter hafter
    rw [hreads.backslash, hreads.escape hafter]
    rfl
  unfold Toml.escapeChar
  split_ifs with hbackslash hbell htab hfeed hreturn hcontrol
  · exact hshort '\\' (by rw [hbackslash]; rfl)
  · exact hshort 'b' (by rw [hbell]; rfl)
  · exact hshort 't' (by rw [htab]; rfl)
  · exact hshort 'f' (by rw [hfeed]; rfl)
  · exact hshort 'r' (by rw [hreturn]; rfl)
  · have hlt := toNat_lt_of_isControl hcontrol
    have hnumbered : reader .escape read ('u' :: '0' :: '0' :: (c.toNat / 16).digitChar.toUpper ::
        (c.toNat % 16).digitChar.toUpper :: rest) = reader .plain (c :: read) rest := by
      rw [hreads.numbered (by omega), Char.ofNat_toNat]
    rw [List.cons_append, hreads.backslash]
    exact hnumbered
  · exact hreads.self hquote hbackslash (Bool.eq_false_iff.2 hcontrol)

theorem basicChar :
    reader .plain read (Toml.basicChar c ++ rest) = reader .plain (c :: read) rest := by
  unfold Toml.basicChar
  split_ifs with hquote hfeed
  · rw [hquote, List.cons_append, hreads.backslash, List.cons_append, hreads.escape rfl]
    rfl
  · rw [hfeed, List.cons_append, hreads.backslash, List.cons_append, hreads.escape rfl]
    rfl
  · exact hreads.escapeChar hquote

end ReadsEscapes

theorem basicRest_flatMap (chars read rest : List Char) :
    basicRest .plain read (chars.flatMap basicChar ++ '"' :: rest) =
      some (textOf (chars.reverse ++ read), rest) := by
  induction chars generalizing read with
  | nil => rfl
  | cons c chars ih =>
    rw [List.flatMap_cons, List.append_assoc, readsEscapes_basicRest.basicChar, ih]
    simp

theorem literalRest_append (hquote : '\'' ∉ chars) (hcontrol : ∀ c ∈ chars, isControl c = false) :
    literalRest (chars ++ '\'' :: rest) = some (String.ofList chars, rest) := by
  have hspan : (chars ++ '\'' :: rest).span (· ≠ '\'') = (chars, '\'' :: rest) := by
    refine span_append (fun c hc => ?_) (by simp)
    rw [decide_eq_true_iff]
    rintro rfl
    exact hquote hc
  have hany : chars.any isControl = false := by simpa using hcontrol
  simp only [literalRest, hspan, hany, Bool.false_eq_true, if_false]

/-- Quotes left over before the closing ones belong to the text, if there are two at most. -/
theorem closeLong_replicate {quote : Char} {count : Nat} (hcount : count ≤ 2)
    (hrest : rest.head? ≠ some quote) :
    closeLong quote read (List.replicate count quote ++ rest) =
      (textOf (List.replicate count quote ++ read), rest) := by
  obtain rfl | rfl | rfl : count = 0 ∨ count = 1 ∨ count = 2 := by omega
  · match rest with
    | [] => rfl
    | [c] => simpa [closeLong] using hrest
    | c :: d :: after =>
      have hne : c ≠ quote := by simpa using hrest
      rw [List.replicate_zero, List.nil_append, closeLong, if_neg hne]
      rfl
  · match rest with
    | [] => simp [closeLong]
    | d :: after => simpa [closeLong] using hrest
  · simp [closeLong]

/-- A reader of texts between three quotes at either end. -/
structure ReadsQuotes (quote : Char)
    (reader : List Char → List Char → Option (String × List Char)) : Prop where
  self : ∀ {read rest : List Char}, (∀ after, rest ≠ quote :: quote :: after) →
    reader read (quote :: rest) = reader (quote :: read) rest
  close : ∀ {read after : List Char},
    reader read (quote :: quote :: quote :: after) = some (closeLong quote read after)

namespace ReadsQuotes

variable {quote : Char} {reader : List Char → List Char → Option (String × List Char)} {count : Nat}
  (hreads : ReadsQuotes quote reader) (hcount : count ≤ 2)
include hreads hcount

/-- Up to two quotes belong to the text if no other one follows them. -/
theorem replicate (hrest : rest.head? ≠ some quote) :
    reader read (List.replicate count quote ++ rest) =
      reader (List.replicate count quote ++ read) rest := by
  have hone : ∀ after, rest ≠ quote :: after := by
    rintro after rfl
    exact hrest rfl
  obtain rfl | rfl | rfl : count = 0 ∨ count = 1 ∨ count = 2 := by omega
  · rfl
  · exact hreads.self fun after => hone (quote :: after)
  · refine (hreads.self fun after heq => hone after (List.tail_eq_of_cons_eq heq)).trans ?_
    exact hreads.self fun after => hone (quote :: after)

/-- Up to two quotes belong to the text if the closing ones follow them. -/
theorem replicate_close (hrest : rest.head? ≠ some quote) :
    reader read (List.replicate count quote ++ (List.replicate 3 quote ++ rest)) =
      some (textOf (List.replicate count quote ++ read), rest) := by
  have hquotes : List.replicate count quote ++ (List.replicate 3 quote ++ rest) =
      quote :: quote :: quote :: (List.replicate count quote ++ rest) := by
    obtain rfl | rfl | rfl : count = 0 ∨ count = 1 ∨ count = 2 := by omega
    all_goals rfl
  rw [hquotes, hreads.close, closeLong_replicate hcount hrest]

end ReadsQuotes

theorem readsQuotes_longBasicRest : ReadsQuotes '"' (longBasicRest .plain) where
  self hne := by
    rw [longBasicRest_plain, if_pos rfl]
    split
    next after => exact absurd rfl (hne after)
    next => rfl
  close := rfl

/-- The characters that `longBasicFrom` writes are before those that were written already. -/
theorem longBasicFrom_eq (count : Nat) (written chars : List Char) :
    longBasicFrom count written chars = longBasicFrom count [] chars ++ written := by
  induction chars generalizing count written with
  | nil => rfl
  | cons c rest ih =>
    simp only [longBasicFrom]
    split_ifs
    · rw [ih, ih 0 ['"', '\\']]
      simp
    · rw [ih, ih (count + 1) ['"']]
      simp
    · rw [ih, ih 0 ['\n']]
      simp
    · rw [ih, ih 0 (_ ++ [])]
      simp

/-- A text with escapes over lines, as it is written after so many quotes. -/
def longBasicAfter (count : Nat) (chars : List Char) : List Char :=
  (longBasicFrom count [] chars).reverse

theorem longBasicAfter_cons (count : Nat) (c : Char) (chars : List Char) :
    longBasicAfter count (c :: chars) =
      if c = '"' then
        if count ≥ 2 then '\\' :: '"' :: longBasicAfter 0 chars
        else '"' :: longBasicAfter (count + 1) chars
      else if c = '\n' then '\n' :: longBasicAfter 0 chars
      else escapeChar c ++ longBasicAfter 0 chars := by
  simp only [longBasicAfter, longBasicFrom]
  split_ifs
  all_goals
    rw [longBasicFrom_eq]
    simp

/-- What is written for a character starts with a backslash or with the character itself. -/
theorem exists_escapeChar_eq_cons (c : Char) :
    ∃ first others, escapeChar c = first :: others ∧ isControl first = false ∧
      (first = '\\' ∨ first = c) := by
  unfold escapeChar
  split_ifs with _ _ _ _ _ hcontrol
  any_goals exact ⟨_, _, rfl, by decide, .inl rfl⟩
  exact ⟨c, [], rfl, Bool.eq_false_iff.2 hcontrol, .inr rfl⟩

theorem head?_escapeChar (hquote : c ≠ '"') (rest : List Char) :
    (escapeChar c ++ rest).head? ≠ some '"' := by
  obtain ⟨first, others, heq, -, rfl | rfl⟩ := exists_escapeChar_eq_cons c
  · simp [heq]
  · simpa [heq] using hquote

/-- A text with escapes over lines is read back, behind up to two quotes. -/
theorem longBasicRest_append {count : Nat} (hcount : count ≤ 2) (chars read : List Char)
    (hrest : rest.head? ≠ some '"') :
    longBasicRest .plain read
        (List.replicate count '"' ++
          (longBasicAfter count chars ++ (List.replicate 3 '"' ++ rest))) =
      some (textOf (chars.reverse ++ (List.replicate count '"' ++ read)), rest) := by
  induction chars generalizing count read with
  | nil => exact readsQuotes_longBasicRest.replicate_close hcount hrest
  | cons c chars ih =>
    have hquotes := readsQuotes_longBasicRest
    have hescapes := readsEscapes_longBasicRest
    have hnone : ∀ read, longBasicRest .plain read
        (longBasicAfter 0 chars ++ (List.replicate 3 '"' ++ rest)) =
          some (textOf (chars.reverse ++ read), rest) := fun read => ih (Nat.zero_le 2) read
    rw [longBasicAfter_cons, List.reverse_cons, List.append_assoc, List.singleton_append]
    split_ifs with hquote htwo hfeed
    · -- A third quote in a row stands behind a backslash.
      rw [List.cons_append, List.cons_append, hquotes.replicate hcount (by simp),
        hescapes.backslash, hescapes.escape rfl, hnone, hquote]
      rfl
    · rw [List.cons_append, List.append_cons, ← List.replicate_succ', ih (by omega), hquote,
        List.replicate_succ]
      rfl
    · rw [List.cons_append, hquotes.replicate hcount (by simp), longBasicRest_plain,
        if_neg (by decide), if_neg (by decide), if_neg (by simp [endsLine]), hnone, hfeed]
    · rw [List.append_assoc, hquotes.replicate hcount (head?_escapeChar hquote _),
        hescapes.escapeChar hquote, hnone]

theorem longLiteralRest_cons (read : List Char) (c : Char) (rest : List Char) :
    longLiteralRest read (c :: rest) =
      if c = '\'' then
        match rest with
        | '\'' :: '\'' :: after => some (closeLong '\'' read after)
        | _ => longLiteralRest ('\'' :: read) rest
      else if isControl c && !endsLine c rest then none
      else longLiteralRest (c :: read) rest := rfl

theorem readsQuotes_longLiteralRest : ReadsQuotes '\'' longLiteralRest where
  self hne := by
    rw [longLiteralRest_cons, if_pos rfl]
    split
    next after => exact absurd rfl (hne after)
    next => rfl
  close := rfl

theorem hasTriple_of_append {before : List Char} (htriple : hasTriple c (before ++ chars) = false) :
    hasTriple c chars = false := by
  induction before with
  | nil => exact htriple
  | cons d before ih => exact ih (Bool.or_eq_false_iff.1 htriple).2

theorem le_two_of_hasTriple {count : Nat}
    (htriple : hasTriple c (List.replicate count c ++ chars) = false) : count ≤ 2 := by
  by_contra hthree
  obtain ⟨more, rfl⟩ : ∃ more, count = more + 3 := ⟨count - 3, by omega⟩
  simp [hasTriple, List.replicate_succ, Text.occursIn] at htriple

/-- A text without escapes over lines is read back, behind the quotes that it follows. -/
theorem longLiteralRest_append (count : Nat) (read : List Char) (hrest : rest.head? ≠ some '\'')
    (htriple : hasTriple '\'' (List.replicate count '\'' ++ chars) = false)
    (hcontrol : ∀ c ∈ chars, isControl c = true → c = '\n') :
    longLiteralRest read
        (List.replicate count '\'' ++ (chars ++ (List.replicate 3 '\'' ++ rest))) =
      some (textOf (chars.reverse ++ (List.replicate count '\'' ++ read)), rest) := by
  have hquotes := readsQuotes_longLiteralRest
  have hcount := le_two_of_hasTriple htriple
  induction chars generalizing count read with
  | nil => exact hquotes.replicate_close hcount hrest
  | cons c chars ih =>
    have hothers : ∀ d ∈ chars, isControl d = true → d = '\n' :=
      fun d hd => hcontrol d (List.mem_cons_of_mem c hd)
    rw [List.reverse_cons, List.append_assoc, List.singleton_append]
    by_cases hquote : c = '\''
    · rw [hquote, List.append_cons, ← List.replicate_succ'] at htriple
      rw [hquote, List.cons_append, List.append_cons, ← List.replicate_succ',
        ih _ _ htriple hothers (le_two_of_hasTriple htriple)]
      rfl
    · have hlast :
          (isControl c && !endsLine c (chars ++ (List.replicate 3 '\'' ++ rest))) = false := by
        cases hc : isControl c with
        | false => rfl
        | true =>
          rw [hcontrol c List.mem_cons_self hc]
          rfl
      have hfree : hasTriple '\'' ([c] ++ chars) = false := hasTriple_of_append htriple
      rw [List.cons_append, hquotes.replicate hcount (by simpa using hquote), longLiteralRest_cons,
        if_neg hquote, hlast]
      exact ih 0 _ (hasTriple_of_append hfree) hothers (Nat.zero_le 2)

theorem needsEscape_of_isControl (hescapes : chars.any needsEscape = false) (hc : c ∈ chars)
    (hcontrol : isControl c = true) : c = '\n' := by
  have hneeds := List.any_eq_false.1 hescapes c hc
  simpa [needsEscape, hcontrol] using hneeds

/-- A text that is written as it is on one line has no quote in it and no control character. -/
theorem formOf_literal (hform : formOf chars = .literal) :
    '\'' ∉ chars ∧ ∀ c ∈ chars, isControl c = false := by
  simp only [formOf] at hform
  split_ifs at hform with _ hliteral
  simp only [Bool.and_eq_true, Bool.not_eq_true', List.contains_eq_mem,
    decide_eq_false_iff_not] at hliteral
  obtain ⟨⟨hquote, hlines⟩, hescapes⟩ := hliteral
  refine ⟨hquote, fun c hc => Bool.eq_false_iff.2 fun hcontrol => hlines ?_⟩
  rwa [← needsEscape_of_isControl hescapes hc hcontrol]

/-- A text that is written as it is over lines has no three quotes in a row, and no control
    characters but line feeds. -/
theorem formOf_longLiteral (hform : formOf chars = .longLiteral) :
    hasTriple '\'' chars = false ∧ ∀ c ∈ chars, isControl c = true → c = '\n' := by
  simp only [formOf] at hform
  split_ifs at hform with _ _ _ hlong
  simp only [Bool.and_eq_true, Bool.not_eq_true'] at hlong
  exact ⟨hlong.2, fun c hc => needsEscape_of_isControl hlong.1 hc⟩

theorem text?_basic (hquotes : ∀ after, chars ≠ '"' :: '"' :: after) :
    text? ('"' :: chars) = basicRest .plain [] chars := by
  unfold text?
  split
  next after heq => exact absurd (List.tail_eq_of_cons_eq heq) (hquotes after)
  next heq => cases heq
  next => rfl

theorem text?_literal (hquotes : ∀ after, chars ≠ '\'' :: '\'' :: after) :
    text? ('\'' :: chars) = literalRest chars := by
  unfold text?
  split
  next heq => cases heq
  next after heq => exact absurd (List.tail_eq_of_cons_eq heq) (hquotes after)
  next => rfl

theorem dropLineEnd_of_head? (hhead : ∀ c, chars.head? = some c → isControl c = false) :
    dropLineEnd chars = chars := by
  unfold dropLineEnd lineEnd?
  split
  next => exact absurd (hhead _ rfl) (by decide)
  next => exact absurd (hhead _ rfl) (by decide)
  next => rfl

/-- A text that has lines starts on a line of its own, and another starts with no line end. -/
theorem dropLineEnd_written {written : List Char}
    (hhead : '\n' ∉ chars → ∀ c, written.head? = some c → isControl c = false) :
    dropLineEnd ((if chars.contains '\n' then ['\n'] else []) ++ written) = written := by
  split_ifs with hlines
  · rfl
  · exact dropLineEnd_of_head? (hhead (by simpa using hlines))

theorem isControl_of_head?_longBasicAfter (hlines : '\n' ∉ chars)
    (hhead : (longBasicAfter 0 chars ++ '"' :: rest).head? = some c) : isControl c = false := by
  cases chars with
  | nil =>
    obtain rfl : '"' = c := by simpa [longBasicAfter, longBasicFrom] using hhead
    rfl
  | cons d chars =>
    rw [longBasicAfter_cons] at hhead
    split_ifs at hhead with hquote htwo hfeed
    · simp at htwo
    · obtain rfl : '"' = c := by simpa using hhead
      rfl
    · exact absurd (hfeed ▸ List.mem_cons_self) hlines
    · obtain ⟨first, others, heq, hcontrol, -⟩ := exists_escapeChar_eq_cons d
      obtain rfl : first = c := by simpa [heq] using hhead
      exact hcontrol

theorem head?_basicChar (c : Char) (rest : List Char) :
    (basicChar c ++ rest).head? ≠ some '"' := by
  unfold basicChar
  split_ifs with hquote
  · simp
  · simp
  · exact head?_escapeChar hquote rest

theorem long_append (quote : Char) (chars written rest : List Char) :
    long quote chars written ++ rest =
      quote :: quote :: quote :: ((if chars.contains '\n' then ['\n'] else []) ++
        (written ++ (List.replicate 3 quote ++ rest))) := by
  simp [long, List.replicate_succ]

/-- A text is read back from what is written for it, whatever its characters are. -/
theorem text?_quoted (chars : List Char) (hdouble : rest.head? ≠ some '"')
    (hsingle : rest.head? ≠ some '\'') :
    text? (quoted chars ++ rest) = some (String.ofList chars, rest) := by
  unfold quoted
  split
  next =>
    -- Two quotes at the start would be read as the first two of three.
    have hquotes : ∀ after, chars.flatMap basicChar ++ '"' :: rest ≠ '"' :: '"' :: after := by
      intro after heq
      cases chars with
      | nil => exact hdouble (congrArg List.head? (List.tail_eq_of_cons_eq heq))
      | cons c chars =>
        rw [List.flatMap_cons, List.append_assoc] at heq
        exact head?_basicChar c _ (congrArg List.head? heq)
    rw [List.cons_append, List.append_assoc, List.singleton_append, text?_basic hquotes,
      basicRest_flatMap]
    simp [textOf]
  next hform =>
    obtain ⟨hquote, hcontrol⟩ := formOf_literal hform
    have hquotes : ∀ after, chars ++ '\'' :: rest ≠ '\'' :: '\'' :: after := by
      intro after heq
      cases chars with
      | nil => exact hsingle (congrArg List.head? (List.tail_eq_of_cons_eq heq))
      | cons c chars =>
        obtain rfl : c = '\'' := List.head_eq_of_cons_eq heq
        exact hquote List.mem_cons_self
    rw [List.cons_append, List.append_assoc, List.singleton_append, text?_literal hquotes,
      literalRest_append hquote hcontrol]
  next =>
    have hread := longBasicRest_append (Nat.zero_le 2) chars [] hdouble
    have hhead : '\n' ∉ chars → ∀ c,
        (longBasicAfter 0 chars ++ (List.replicate 3 '"' ++ rest)).head? = some c →
          isControl c = false := fun hlines c => isControl_of_head?_longBasicAfter hlines
    rw [long_append, text?, ← longBasicAfter, dropLineEnd_written hhead]
    refine hread.trans ?_
    simp [textOf]
  next hform =>
    obtain ⟨htriple, hcontrol⟩ := formOf_longLiteral hform
    have hread := longLiteralRest_append 0 [] hsingle htriple hcontrol
    have hhead : '\n' ∉ chars → ∀ c,
        (chars ++ (List.replicate 3 '\'' ++ rest)).head? = some c → isControl c = false := by
      intro hlines c hhead
      cases chars with
      | nil =>
        obtain rfl : '\'' = c := by simpa using hhead
        rfl
      | cons d chars =>
        obtain rfl : d = c := by simpa using hhead
        refine Bool.eq_false_iff.2 fun hd => hlines ?_
        exact hcontrol d List.mem_cons_self hd ▸ List.mem_cons_self
    rw [long_append, text?, dropLineEnd_written hhead]
    refine hread.trans ?_
    simp [textOf]

end BootChain.Toml
