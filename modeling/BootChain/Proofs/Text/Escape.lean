import BootChain.Text.Escape
import Mathlib.Data.List.Basic
import Mathlib.Tactic.SplitIfs

namespace BootChain.Text

variable {m n : Nat} {c d k : Char} {spelling other rest more : List Char}

theorem digitChar_inj : ∀ m < 16, ∀ n < 16, m.digitChar = n.digitChar → m = n := by decide

theorem exists_digit_of_mem_hexDigits (hmem : k ∈ hexDigits n) :
    ∃ digit, k = Nat.digitChar digit := by
  induction n using Nat.strongRecOn with
  | ind n ih =>
    rw [hexDigits, Nat.toDigits_eq_if (by decide)] at hmem
    split at hmem
    · exact ⟨n, List.mem_singleton.1 hmem⟩
    · obtain hhigh | hlow := List.mem_append.1 hmem
      · exact ih (n / 16) (by omega) hhigh
      · exact ⟨n % 16, List.mem_singleton.1 hlow⟩

theorem hexDigits_inj (heq : hexDigits m = hexDigits n) : m = n := by
  induction m using Nat.strongRecOn generalizing n with
  | ind m ih =>
    have hsome : ∀ number, Nat.toDigits 16 number ≠ [] := fun _ => Nat.toDigits_ne_nil
    simp only [hexDigits] at heq ih
    rw [Nat.toDigits_eq_if (by decide), Nat.toDigits_eq_if (n := n) (by decide)] at heq
    split at heq <;> split at heq
    next hm hn => exact digitChar_inj m hm n hn (List.cons.inj heq).1
    next hm hn =>
      rw [← List.nil_append [m.digitChar]] at heq
      exact absurd (List.append_inj' heq rfl).1.symm (hsome _)
    next hm hn =>
      rw [← List.nil_append [n.digitChar]] at heq
      exact absurd (List.append_inj' heq rfl).1 (hsome _)
    next hm hn =>
      obtain ⟨hhigh, hlow⟩ := List.append_inj' heq rfl
      have hquotient : m / 16 = n / 16 := ih (m / 16) (by omega) hhigh
      have hremainder : m % 16 = n % 16 :=
        digitChar_inj _ (Nat.mod_lt _ (by decide)) _ (Nat.mod_lt _ (by decide))
          (List.cons.inj hlow).1
      omega

/-- The digits of a number tell the number and where the brace after them stands. -/
theorem hexDigits_append_inj (heq : hexDigits m ++ '}' :: rest = hexDigits n ++ '}' :: more) :
    m = n ∧ rest = more := by
  have hread : ∀ n rest, (hexDigits n ++ '}' :: rest).takeWhile (· ≠ '}') = hexDigits n := by
    intro n rest
    rw [List.takeWhile_append_of_pos, List.takeWhile_cons_of_neg (by simp), List.append_nil]
    intro k hmem
    obtain ⟨digit, rfl⟩ := exists_digit_of_mem_hexDigits hmem
    exact decide_eq_true (Nat.digitChar_ne '}' (by decide))
  have hdigits : hexDigits m = hexDigits n := by rw [← hread m rest, heq, hread]
  rw [hdigits] at heq
  exact ⟨hexDigits_inj hdigits, (List.cons.inj (List.append_cancel_left heq)).2⟩

/-- The characters that a letter after a backslash stands for. -/
def shortEscapes : List (Char × Char) :=
  [('\x00', '0'), ('\t', 't'), ('\r', 'r'), ('\n', 'n'), ('\'', '\''), ('"', '"'), ('\\', '\\')]

theorem mem_shortEscapes_of_break :
    ∀ k ∈ ['\n', '\r'], k ∈ shortEscapes.map Prod.fst := by simp [shortEscapes]

theorem letter_notMem : ∀ escape ∈ shortEscapes, escape.2 ∉ ['\n', '\r', 'u'] := by decide

theorem shortEscapes_inj : ∀ first ∈ shortEscapes, ∀ second ∈ shortEscapes,
    first.2 = second.2 → first.1 = second.1 := by decide

/-- The ways in which a shown text may spell a character. -/
inductive Spells (c : Char) : List Char → Prop where
  | plain (hlong : c ∉ shortEscapes.map Prod.fst) : Spells c [c]
  | short {letter : Char} (hmem : (c, letter) ∈ shortEscapes) : Spells c ['\\', letter]
  | code : Spells c ('\\' :: 'u' :: '{' :: (hexDigits c.toNat ++ ['}']))

theorem spells_showChar (leading : Bool) (c : Char) : Spells c (showChar leading c) := by
  unfold showChar
  split_ifs with hzero htab hreturn hfeed hself hcode
  · exact .short (by simp [shortEscapes, hzero])
  · exact .short (by simp [shortEscapes, htab])
  · exact .short (by simp [shortEscapes, hreturn])
  · exact .short (by simp [shortEscapes, hfeed])
  · refine .short ?_
    simp only [Bool.or_eq_true, decide_eq_true_eq] at hself
    obtain (rfl | rfl) | rfl := hself <;> simp [shortEscapes]
  · exact .code
  · refine .plain ?_
    simp only [Bool.or_eq_true, decide_eq_true_eq, not_or] at hself
    simp [shortEscapes, hzero, htab, hreturn, hfeed, hself]

namespace Spells

theorem ne_nil (hspells : Spells c spelling) : spelling ≠ [] := by
  cases hspells <;> exact List.cons_ne_nil _ _

/-- No spelling of a character has a line break in it. -/
theorem notMem_break (hspells : Spells c spelling) (hbreak : k ∈ ['\n', '\r']) :
    k ∉ spelling := by
  cases hspells with
  | plain hlong =>
    rw [List.mem_singleton]
    rintro rfl
    exact hlong (mem_shortEscapes_of_break k hbreak)
  | short hmem =>
    have hletter := letter_notMem _ hmem
    rintro hspelled
    obtain rfl | hspelled := List.mem_cons.1 hspelled
    · exact absurd hbreak (by decide)
    · rw [List.mem_singleton.1 hspelled] at hbreak
      exact hletter (List.mem_append_left ['u'] hbreak)
  | code =>
    have hdigit : ∀ digit, Nat.digitChar digit ∉ ['\n', '\r'] := by
      intro digit
      simp only [List.mem_cons, List.not_mem_nil, or_false, not_or]
      exact ⟨Nat.digitChar_ne _ (by decide), Nat.digitChar_ne _ (by decide)⟩
    intro hspelled
    simp only [List.mem_cons, List.mem_append, List.not_mem_nil, or_false] at hspelled
    obtain rfl | rfl | rfl | hmem | rfl := hspelled
    case inr.inr.inr.inl =>
      obtain ⟨digit, rfl⟩ := exists_digit_of_mem_hexDigits hmem
      exact hdigit digit hbreak
    all_goals exact absurd hbreak (by decide)

/-- No spelling of a character begins one of another. -/
theorem append_inj (hspells : Spells c spelling) (hother : Spells d other)
    (heq : spelling ++ rest = other ++ more) : c = d ∧ rest = more := by
  have hbackslash : '\\' ∈ shortEscapes.map Prod.fst := by decide
  cases hspells with
  | plain hlong =>
    cases hother with
    | plain => exact List.cons.inj heq
    | short => exact absurd ((List.cons.inj heq).1 ▸ hbackslash) hlong
    | code => exact absurd ((List.cons.inj heq).1 ▸ hbackslash) hlong
  | short hmem =>
    cases hother with
    | plain hlong => exact absurd ((List.cons.inj heq).1 ▸ hbackslash) hlong
    | short hothers =>
      obtain ⟨hletter, hrest⟩ := List.cons.inj (List.cons.inj heq).2
      exact ⟨shortEscapes_inj _ hmem _ hothers hletter, hrest⟩
    | code =>
      have hletter := (List.cons.inj (List.cons.inj heq).2).1
      exact absurd (by simp [hletter]) (letter_notMem _ hmem)
  | code =>
    cases hother with
    | plain hlong => exact absurd ((List.cons.inj heq).1 ▸ hbackslash) hlong
    | short hothers =>
      have hletter := (List.cons.inj (List.cons.inj heq).2).1
      exact absurd (by simp [← hletter]) (letter_notMem _ hothers)
    | code =>
      simp only [List.cons_append, List.append_assoc, List.cons.injEq, true_and,
        List.nil_append] at heq
      obtain ⟨hnumber, hrest⟩ := hexDigits_append_inj heq
      exact ⟨Char.toNat_inj.1 hnumber, hrest⟩

end Spells

/-- What spells a text spells its characters, one after the other. -/
inductive SpellsAll : List Char → List Char → Prop where
  | nil : SpellsAll [] []
  | cons {c : Char} {chars spelling rest : List Char} (hspells : Spells c spelling)
      (hrest : SpellsAll chars rest) : SpellsAll (c :: chars) (spelling ++ rest)

theorem spellsAll_flatMap (chars : List Char) :
    SpellsAll chars (chars.flatMap (showChar false)) := by
  induction chars with
  | nil => exact .nil
  | cons c chars ih => exact .cons (spells_showChar false c) ih

theorem spellsAll_showChars : ∀ chars, SpellsAll chars (showChars chars)
  | [] => .nil
  | c :: chars => .cons (spells_showChar true c) (spellsAll_flatMap chars)

namespace SpellsAll

variable {chars others : List Char}

theorem notMem_break (hspells : SpellsAll chars spelling) (hbreak : k ∈ ['\n', '\r']) :
    k ∉ spelling := by
  induction hspells with
  | nil => exact List.not_mem_nil
  | cons hspells _ ih =>
    rw [List.mem_append, not_or]
    exact ⟨hspells.notMem_break hbreak, ih⟩

/-- A spelling is of one text only. -/
theorem inj (hspells : SpellsAll chars spelling) (hother : SpellsAll others other)
    (heq : spelling = other) : chars = others := by
  induction hspells generalizing others other with
  | nil =>
    cases hother with
    | nil => rfl
    | cons hspells => exact absurd (List.append_eq_nil_iff.1 heq.symm).1 hspells.ne_nil
  | cons hspells _ ih =>
    cases hother with
    | nil => exact absurd (List.append_eq_nil_iff.1 heq).1 hspells.ne_nil
    | cons hother hothers =>
      obtain ⟨rfl, hrest⟩ := hspells.append_inj hother heq
      rw [ih hothers hrest]

end SpellsAll

/-- Different texts are shown as different ones. -/
theorem shown_inj {first second : String} (heq : shown first = shown second) : first = second := by
  have hchars : showChars first.toList = showChars second.toList := by
    simpa only [shown, String.toList_ofList] using congrArg String.toList heq
  exact String.toList_inj.1 ((spellsAll_showChars _).inj (spellsAll_showChars _) hchars)

/-- A shown text stands on one line. -/
theorem notMem_shown {text : String} (hbreak : k ∈ ['\n', '\r']) : k ∉ (shown text).toList := by
  rw [shown, String.toList_ofList]
  exact (spellsAll_showChars text.toList).notMem_break hbreak

end BootChain.Text
