import BootChain.Proofs.Text.Decimal
import BootChain.Proofs.Toml.Quoted
import BootChain.Toml.Reader

namespace BootChain.Toml

variable {c : Char} {chars word rest : List Char} {n : Nat}

section Digits

theorem bounds_of_isDigit (hdigit : c.isDigit = true) : '0' ≤ c ∧ c ≤ '9' := by
  simpa [Char.isDigit, Char.le_def] using hdigit

theorem ne_of_isDigit {d : Char} (hdigit : c.isDigit = true) (hd : d.isDigit = false) : c ≠ d := by
  rintro rfl
  simp [hdigit] at hd

theorem digit?_of_isDigit (hdigit : c.isDigit = true) :
    Hexadecimal.digit? c = some (c.toNat - '0'.toNat) ∧ c.toNat - '0'.toNat < 10 := by
  have hbounds := bounds_of_isDigit hdigit
  have hnine : c.toNat ≤ '9'.toNat := hbounds.2
  refine ⟨if_pos hbounds, ?_⟩
  change c.toNat ≤ 57 at hnine
  change c.toNat - 48 < 10
  omega

theorem digitsFrom_of_isDigit (hdigits : ∀ c ∈ chars, c.isDigit = true) {afterDigit : Bool}
    (hlast : chars = [] → afterDigit = true) (n : Nat) :
    digitsFrom 10 afterDigit n chars = some (Nat.ofDigitChars 10 chars n) := by
  induction chars generalizing afterDigit n with
  | nil =>
    rw [digitsFrom, hlast rfl]
    rfl
  | cons c chars ih =>
    have hc := hdigits c List.mem_cons_self
    obtain ⟨hdigit, hlt⟩ := digit?_of_isDigit hc
    rw [digitsFrom, if_neg (ne_of_isDigit hc rfl), hdigit]
    simp only [hlt, if_true]
    rw [ih (fun d hd => hdigits d (List.mem_cons_of_mem c hd)) fun _ => rfl, Nat.ofDigitChars_cons,
      Nat.mul_comm]

theorem digitChar_ne_zero : ∀ n < 10, 0 < n → n.digitChar ≠ '0' := by decide

/-- A number is written with no leading zero. -/
theorem head?_toDigits (hn : 0 < n) : (Nat.toDigits 10 n).head? ≠ some '0' := by
  induction n using Nat.strongRecOn with
  | ind n ih =>
    by_cases hsmall : n < 10
    · rw [Nat.toDigits_of_lt_base hsmall, List.head?_singleton]
      exact fun hzero => digitChar_ne_zero n hsmall hn (Option.some.inj hzero)
    · have hle : 10 ≤ n := by omega
      have htens := ih (n / 10) (by omega) (by omega)
      rw [Nat.toDigits_of_base_le (by decide) hle]
      cases heq : Nat.toDigits 10 (n / 10) with
      | nil => exact absurd heq Nat.toDigits_ne_nil
      | cons d digits =>
        rw [heq] at htens
        exact htens

theorem decimal?_toDigits (n : Nat) : decimal? (Nat.toDigits 10 n) = some n := by
  have hzero : ¬((Nat.toDigits 10 n).length > 1 ∧ (Nat.toDigits 10 n).head? = some '0') := by
    rintro ⟨hlong, hhead⟩
    obtain rfl | hn := Nat.eq_zero_or_pos n
    · simp at hlong
    · exact head?_toDigits hn hhead
  rw [decimal?, if_neg hzero, digitsFrom_of_isDigit (fun _ => Text.isDigit_of_mem_toDigits)
    (fun hnil => absurd hnil Nat.toDigits_ne_nil), Nat.ofDigitChars_ten_toDigits]

end Digits

section Words

theorem subset_of_twoDigits? (htwo : twoDigits? chars = some (n, rest)) : rest ⊆ chars := by
  unfold twoDigits? at htwo
  split at htwo
  next a b tail =>
    split_ifs at htwo
    cases htwo
    exact fun c hc => List.mem_cons_of_mem a (List.mem_cons_of_mem b hc)
  next => cases htwo

theorem subset_of_twoDigitsUpTo? {maximum : Nat} (htwo : twoDigitsUpTo? maximum chars = some rest) :
    rest ⊆ chars := by
  unfold twoDigitsUpTo? at htwo
  split at htwo
  next heq =>
    split_ifs at htwo
    cases htwo
    exact subset_of_twoDigits? heq
  next => cases htwo

theorem dash_mem_of_dateRest? (hdate : dateRest? chars = some rest) : '-' ∈ chars := by
  unfold dateRest? at hdate
  simp only [Option.bind_eq_bind, Option.bind_eq_some_iff, Prod.exists] at hdate
  obtain ⟨century, after, hcentury, year, tail, hyear, hdash⟩ := hdate
  split at hdash
  · exact subset_of_twoDigits? hcentury (subset_of_twoDigits? hyear List.mem_cons_self)
  · cases hdash

theorem colon_mem_of_timeRest? (htime : timeRest? chars = some rest) : ':' ∈ chars := by
  unfold timeRest? at htime
  simp only [Option.bind_eq_bind, Option.bind_eq_some_iff] at htime
  obtain ⟨tail, hhour, hcolon⟩ := htime
  split at hcolon
  · exact subset_of_twoDigitsUpTo? hhour List.mem_cons_self
  · cases hcolon

/-- A date has a dash in it, and a time of day a colon. -/
theorem isMoment_eq_false (hdash : '-' ∉ word) (hcolon : ':' ∉ word) : isMoment word = false := by
  have hdate : dateRest? word = none :=
    Option.eq_none_iff_forall_ne_some.2 fun rest heq => hdash (dash_mem_of_dateRest? heq)
  have htime : timeRest? word = none :=
    Option.eq_none_iff_forall_ne_some.2 fun rest heq => hcolon (colon_mem_of_timeRest? heq)
  rw [isMoment, hdate, htime]
  rfl

variable (hdigits : ∀ c ∈ word, c.isDigit = true)
include hdigits

theorem notMem_of_isDigit {d : Char} (hd : d.isDigit = false) : d ∉ word :=
  fun hmem => ne_of_isDigit (hdigits d hmem) hd rfl

theorem unsigned_eq_self : unsigned word = word := by
  unfold unsigned
  split
  next => exact absurd List.mem_cons_self (notMem_of_isDigit hdigits (by decide))
  next => exact absurd List.mem_cons_self (notMem_of_isDigit hdigits (by decide))
  next => rfl

theorem isFraction_eq_false : isFraction word = false := by
  have hrun : digitRun word = (word, []) := by
    have hspan : (word ++ []).span (fun c => c.isDigit || c = '_') = (word, []) :=
      span_append (fun c hc => by simp [hdigits c hc]) (by simp)
    rwa [List.append_nil] at hspan
  simp only [isFraction, unsigned_eq_self hdigits, hrun, Bool.and_false]

theorem isUnbounded_eq_false : isUnbounded word = false := by
  have hinf : word ≠ "inf".toList := by
    rintro rfl
    exact notMem_of_isDigit hdigits (by decide : 'n'.isDigit = false) (by decide)
  have hnan : word ≠ "nan".toList := by
    rintro rfl
    exact notMem_of_isDigit hdigits (by decide : 'n'.isDigit = false) (by decide)
  rw [isUnbounded, unsigned_eq_self hdigits, decide_eq_false hinf, decide_eq_false hnan]
  rfl

theorem integer?_eq_decimal? : integer? word = (decimal? word).map Int.ofNat := by
  have hnot : ∀ {first second : Char} {others : List Char}, second.isDigit = false →
      word ≠ first :: second :: others := by
    rintro first second others hsecond rfl
    exact notMem_of_isDigit hdigits hsecond (List.mem_cons_of_mem _ List.mem_cons_self)
  unfold integer?
  split
  next => exact absurd rfl (hnot (by decide))
  next => exact absurd rfl (hnot (by decide))
  next => exact absurd rfl (hnot (by decide))
  next => exact absurd List.mem_cons_self (notMem_of_isDigit hdigits (by decide))
  next => exact absurd List.mem_cons_self (notMem_of_isDigit hdigits (by decide))
  next => rfl

omit hdigits in
/-- A number is read back from its digits, which make no other value. -/
theorem word?_toDigits (n : Nat) : word? (Nat.toDigits 10 n) = some (.integer n) := by
  have hdigits : ∀ c ∈ Nat.toDigits 10 n, c.isDigit = true :=
    fun _ => Text.isDigit_of_mem_toDigits
  have hletter : 'e' ∉ Nat.toDigits 10 n := notMem_of_isDigit hdigits (by decide)
  have htrue : Nat.toDigits 10 n ≠ "true".toList := fun heq => hletter (by rw [heq]; decide)
  have hfalse : Nat.toDigits 10 n ≠ "false".toList := fun heq => hletter (by rw [heq]; decide)
  have hmoment : isMoment (Nat.toDigits 10 n) = false :=
    isMoment_eq_false (notMem_of_isDigit hdigits (by decide))
      (notMem_of_isDigit hdigits (by decide))
  rw [word?, if_neg htrue, if_neg hfalse, isFraction_eq_false hdigits,
    isUnbounded_eq_false hdigits, hmoment, integer?_eq_decimal? hdigits, decimal?_toDigits]
  rfl

end Words

section Values

theorem valueFrom_list (fuel depth : Nat) (rest : List Char) :
    valueFrom (fuel + 1) (depth + 1) ('[' :: rest) = itemsFrom fuel depth [] rest := by
  rw [valueFrom]
  rfl

theorem isWordChar_of_isDigit (hdigit : c.isDigit = true) : isWordChar c = true := by
  simp [isWordChar, isKeyChar, bounds_of_isDigit hdigit]

theorem wordFrom_append (hword : ∀ c ∈ word, isWordChar c = true)
    (hrest : ∀ c, rest.head? = some c → isWordChar c = false ∧ c ≠ ' ') :
    wordFrom (word ++ rest) = (word, rest) := by
  rw [wordFrom, span_append hword fun c hc => (hrest c hc).1]
  split
  next heq =>
    cases heq
    exact absurd rfl (hrest ' ' rfl).2
  next heq =>
    cases heq
    rfl

theorem valueFrom_of_word {fuel depth : Nat} {others : List Char} (hlist : chars.head? ≠ some '[')
    (htable : chars.head? ≠ some '{') (hword : wordFrom chars = (c :: others, rest)) :
    valueFrom (fuel + 1) depth chars =
      (word? (c :: others)).map fun value => (value, rest) := by
  unfold valueFrom
  split
  · exact absurd rfl hlist
  · exact absurd rfl htable
  · rw [hword]

theorem valueFrom_of_text {fuel depth : Nat} {content : String} {after : List Char}
    (hlist : chars.head? ≠ some '[') (htable : chars.head? ≠ some '{')
    (hword : wordFrom chars = ([], rest)) (htext : text? chars = some (content, after)) :
    valueFrom (fuel + 1) depth chars = some (.text content, after) := by
  unfold valueFrom
  split
  · exact absurd rfl hlist
  · exact absurd rfl htable
  · rw [hword]
    exact congrArg (Option.map _) htext

/-- A value without quotes is read up to the end of its line. -/
theorem valueFrom_word (fuel depth : Nat) (hword : ∀ c ∈ word, isWordChar c = true)
    (hne : word ≠ []) :
    valueFrom (fuel + 1) depth (word ++ '\n' :: rest) =
      (word? word).map fun value => (value, '\n' :: rest) := by
  have hfrom : wordFrom (word ++ '\n' :: rest) = (word, '\n' :: rest) := by
    refine wordFrom_append hword fun c hc => ?_
    obtain rfl : '\n' = c := Option.some.inj hc
    decide
  cases word with
  | nil => exact absurd rfl hne
  | cons c others =>
    have hc := hword c List.mem_cons_self
    have hhead : ∀ d, isWordChar d = false → (c :: others ++ '\n' :: rest).head? ≠ some d := by
      rintro d hd heq
      obtain rfl : c = d := Option.some.inj heq
      simp [hc] at hd
    exact valueFrom_of_word (hhead _ (by decide)) (hhead _ (by decide)) hfrom

theorem exists_quoted_eq_cons (chars : List Char) :
    ∃ quote others, quoted chars = quote :: others ∧ (quote = '"' ∨ quote = '\'') := by
  unfold quoted
  split
  · exact ⟨'"', _, rfl, .inl rfl⟩
  · exact ⟨'\'', _, rfl, .inr rfl⟩
  · exact ⟨'"', _, rfl, .inl rfl⟩
  · exact ⟨'\'', _, rfl, .inr rfl⟩

theorem valueFrom_quoted (fuel depth : Nat) (content : String) (hdouble : rest.head? ≠ some '"')
    (hsingle : rest.head? ≠ some '\'') :
    valueFrom (fuel + 1) depth (quoted content.toList ++ rest) =
      some (.text content, rest) := by
  have htext := text?_quoted content.toList hdouble hsingle
  obtain ⟨quote, others, heq, hquote⟩ := exists_quoted_eq_cons content.toList
  rw [heq, List.cons_append] at htext ⊢
  have hfrom : wordFrom (quote :: (others ++ rest)) = ([], quote :: (others ++ rest)) := by
    refine wordFrom_append (fun _ hc => absurd hc List.not_mem_nil) fun c hc => ?_
    obtain rfl : quote = c := Option.some.inj hc
    obtain rfl | rfl := hquote <;> decide
  have hhead : ∀ c, c ≠ '"' → c ≠ '\'' → (quote :: (others ++ rest)).head? ≠ some c := by
    rintro c hdouble hsingle heq
    obtain rfl : quote = c := Option.some.inj heq
    exact hquote.elim hdouble hsingle
  rw [String.ofList_toList] at htext
  exact valueFrom_of_text (hhead _ (by decide) (by decide)) (hhead _ (by decide) (by decide))
    hfrom htext

end Values

section Items

theorem skipGaps_cons (hc : c ∉ [' ', '\t', '\n', '\r', '#']) :
    skipGaps false (c :: rest) = some (c :: rest) := by
  simp only [List.mem_cons, List.not_mem_nil, or_false, not_or] at hc
  obtain ⟨hspace, htab, hfeed, hreturn, hcomment⟩ := hc
  have hends : (isBlank c || endsLine c rest) = false := by
    simp [isBlank, endsLine, hspace, htab, hfeed, hreturn]
  rw [skipGaps, hends, if_neg (by decide), if_neg hcomment]

theorem itemsFrom_blank (fuel depth : Nat) (read : List Value) (chars : List Char) :
    itemsFrom fuel depth read (' ' :: chars) = itemsFrom fuel depth read chars := by
  cases fuel with
  | zero => rfl
  | succ fuel => rw [itemsFrom, itemsFrom]; rfl

section Item

variable {fuel depth : Nat} {read : List Value} {item : Value} {after : List Char}
  (hgaps : skipGaps false chars = some chars) (hopen : chars.head? ≠ some ']')
include hgaps hopen

theorem itemsFrom_comma (hitem : valueFrom fuel depth chars = some (item, ',' :: after)) :
    itemsFrom (fuel + 1) depth read chars = itemsFrom fuel depth (item :: read) after := by
  rw [itemsFrom, hgaps]
  split
  next heq => cases heq
  next heq =>
    cases heq
    exact absurd rfl hopen
  next heq =>
    cases heq
    rw [hitem]
    rfl

theorem itemsFrom_close (hitem : valueFrom fuel depth chars = some (item, ']' :: after)) :
    itemsFrom (fuel + 1) depth read chars = some (.list false (item :: read).reverse, after) := by
  rw [itemsFrom, hgaps]
  split
  next heq => cases heq
  next heq =>
    cases heq
    exact absurd rfl hopen
  next heq =>
    cases heq
    rw [hitem]
    rfl

end Item

theorem quoted_starts (chars rest : List Char) :
    skipGaps false (quoted chars ++ rest) = some (quoted chars ++ rest) ∧
      (quoted chars ++ rest).head? ≠ some ']' := by
  obtain ⟨quote, others, heq, rfl | rfl⟩ := exists_quoted_eq_cons chars
  all_goals
    rw [heq]
    exact ⟨skipGaps_cons (by decide), by simp⟩

/-- A list of texts is read back after those items that were read, in no more steps than one for
    each item and one for the end. -/
theorem itemsFrom_intercalate {fuel : Nat} (depth : Nat) (read : List Value) {items : List String}
    (hfuel : items.length < fuel) (rest : List Char) :
    itemsFrom fuel depth read
        ([',', ' '].intercalate (items.map fun item => quoted item.toList) ++ ']' :: rest) =
      some (.list false (read.reverse ++ items.map .text), rest) := by
  induction items generalizing fuel read with
  | nil =>
    obtain ⟨fuel, rfl⟩ := Nat.exists_eq_add_of_lt hfuel
    rw [List.map_nil, List.map_nil, List.append_nil]
    rfl
  | cons item items ih =>
    obtain ⟨fuel, rfl⟩ : ∃ more, fuel = more + 2 := ⟨fuel - 2, by simp at hfuel; omega⟩
    cases items with
    | nil =>
      obtain ⟨hgaps, hopen⟩ := quoted_starts item.toList (']' :: rest)
      rw [List.map_singleton, List.intercalate_singleton,
        itemsFrom_close hgaps hopen (valueFrom_quoted _ _ _ (by simp) (by simp))]
      simp
    | cons next items =>
      have hfuel' : (next :: items).length < fuel + 1 := by simpa using hfuel
      obtain ⟨hgaps, hopen⟩ := quoted_starts item.toList (',' :: ' ' :: ([',', ' '].intercalate
        ((next :: items).map fun item => quoted item.toList) ++ ']' :: rest))
      rw [List.map_cons, List.map_cons, List.intercalate_cons_cons, List.append_assoc,
        List.append_assoc]
      refine (itemsFrom_comma hgaps hopen (valueFrom_quoted _ _ _ (by simp) (by simp))).trans ?_
      refine (itemsFrom_blank _ _ _ _).trans ((ih _ hfuel').trans ?_)
      simp

theorem length_flatMap_le_intercalate {α : Type} (f : α → List Char) (separator : List Char)
    (items : List α) :
    (items.flatMap f).length ≤ (separator.intercalate (items.map f)).length := by
  induction items with
  | nil => exact Nat.zero_le _
  | cons item items ih =>
    cases items with
    | nil => simp
    | cons next items =>
      simp only [List.flatMap_cons, List.map_cons, List.intercalate_cons_cons,
        List.length_append] at ih ⊢
      omega

theorem length_le_length_flatMap {α : Type} {f : α → List Char} (hf : ∀ item, f item ≠ [])
    (items : List α) : items.length ≤ (items.flatMap f).length := by
  induction items with
  | nil => exact Nat.zero_le _
  | cons item items ih =>
    have hitem := List.length_pos_iff.2 (hf item)
    rw [List.flatMap_cons, List.length_append, List.length_cons]
    omega

end Items

section Settings

/-- A setting is read back from what is written for it, up to the end of its line. -/
theorem value?_setting (setting : Setting) (rest : List Char) :
    value? (setting.chars ++ '\n' :: rest) = some (setting.value, '\n' :: rest) := by
  cases setting with
  | text content => exact valueFrom_quoted _ _ content (by simp) (by simp)
  | number n =>
    have hword : ∀ c ∈ Nat.toDigits 10 n, isWordChar c = true :=
      fun c hc => isWordChar_of_isDigit (Text.isDigit_of_mem_toDigits hc)
    rw [Setting.chars, Nat.toString_eq_repr, Nat.toList_repr, value?,
      valueFrom_word _ _ hword Nat.toDigits_ne_nil, word?_toDigits]
    rfl
  | flag b =>
    cases b with
    | false => exact valueFrom_word _ _ (List.all_eq_true.1 (by decide)) (by decide)
    | true => exact valueFrom_word _ _ (List.all_eq_true.1 (by decide)) (by decide)
  | texts items =>
    have hquoted : ∀ item : String, quoted item.toList ≠ [] := by
      intro item
      obtain ⟨quote, others, heq, -⟩ := exists_quoted_eq_cons item.toList
      simp [heq]
    have hitems := length_le_length_flatMap hquoted items
    have hlist := length_flatMap_le_intercalate (fun item => quoted item.toList) [',', ' '] items
    rw [Setting.chars, value?, List.cons_append, List.append_assoc, List.singleton_append,
      nestingLimit, valueFrom_list]
    refine itemsFrom_intercalate _ [] ?_ _
    simp only [List.length_cons, List.length_append]
    omega

end Settings

end BootChain.Toml
