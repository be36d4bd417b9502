import BootChain.Proofs.Text.Blank
import BootChain.Text.Decimal
import Mathlib.Data.List.TakeWhile

namespace BootChain.Text

variable {m n : Nat} {rest other : List Char}

/-- What follows a number is not a further digit. -/
def EndsNumber (rest : List Char) : Prop := ∀ c ∈ rest.head?, c.isDigit = false

theorem endsNumber_nil : EndsNumber [] := fun _ hc => by cases hc

theorem endsNumber_cons {c : Char} (hc : c.isDigit = false) : EndsNumber (c :: rest) := by
  intro d hd
  cases hd
  exact hc

theorem isDigit_of_mem_toDigits {c : Char} (hc : c ∈ Nat.toDigits 10 n) : c.isDigit = true :=
  Nat.isDigit_of_mem_toDigits (by decide) (by decide) hc

theorem takeWhile_toDigits (n : Nat) (hrest : EndsNumber rest) :
    (Nat.toDigits 10 n ++ rest).takeWhile Char.isDigit = Nat.toDigits 10 n := by
  rw [List.takeWhile_append_of_pos fun _ => isDigit_of_mem_toDigits]
  cases rest with
  | nil => simp
  | cons c rest =>
    rw [List.takeWhile_cons_of_neg (by simp [hrest c rfl]), List.append_nil]

theorem toDigits_inj (heq : Nat.toDigits 10 m = Nat.toDigits 10 n) : m = n := by
  rw [← Nat.ofDigitChars_ten_toDigits (n := m), heq, Nat.ofDigitChars_ten_toDigits]

/-- The digits of a number tell the number and where they end. -/
theorem toDigits_append_inj (hrest : EndsNumber rest) (hother : EndsNumber other)
    (heq : Nat.toDigits 10 m ++ rest = Nat.toDigits 10 n ++ other) : m = n ∧ rest = other := by
  have hdigits : Nat.toDigits 10 m = Nat.toDigits 10 n := by
    rw [← takeWhile_toDigits m hrest, heq, takeWhile_toDigits n hother]
  rw [hdigits] at heq
  exact ⟨toDigits_inj hdigits, List.append_cancel_left heq⟩

end BootChain.Text

namespace BootChain.Decimal

variable {chars : List Char} {n bound : Nat}

/-- Characters that are the digits of a number. The first ones may be zeros. -/
def Digits (chars : List Char) (n : Nat) : Prop :=
  chars ≠ [] ∧ (∀ c ∈ chars, c.isDigit = true) ∧ Nat.ofDigitChars 10 chars 0 = n

/-- Characters that write a number: its digits, with one plus sign before them or without. -/
def Numeral (chars : List Char) (n : Nat) : Prop :=
  Digits chars n ∨ ∃ digits, chars = '+' :: digits ∧ Digits digits n

theorem value_eq (digits : List Char) : value digits = Nat.ofDigitChars 10 digits 0 := by
  simp only [value, Nat.ofDigitChars, Nat.mul_comm]

theorem digits?_eq_some_iff : digits? chars = some n ↔ Digits chars n := by
  have hdigits : chars.all isDigit = true ↔ ∀ c ∈ chars, c.isDigit = true := List.all_eq_true
  rw [digits?, value_eq, Digits]
  by_cases hchars : chars = []
  · simp [hchars]
  · by_cases hall : ∀ c ∈ chars, c.isDigit = true <;> simp [hchars, hdigits, hall]

theorem not_digits_plus {rest : List Char} : ¬ Digits ('+' :: rest) n := by
  rintro ⟨-, hdigits, -⟩
  exact absurd (hdigits '+' List.mem_cons_self) (by decide)

/-- Reading accepts just the numerals of numbers up to the bound, however many digits they have. -/
theorem readUpTo_eq_some_iff : readUpTo bound chars = some n ↔ Numeral chars n ∧ n ≤ bound := by
  unfold readUpTo
  rw [Option.filter_eq_some_iff, decide_eq_true_iff, digits?_eq_some_iff, Numeral]
  refine and_congr_left fun _ => ?_
  split
  next rest =>
    constructor
    · exact fun hdigits => .inr ⟨rest, rfl, hdigits⟩
    · rintro (hdigits | ⟨digits, heq, hdigits⟩)
      · exact absurd hdigits not_digits_plus
      · cases heq
        exact hdigits
  next hunsigned =>
    constructor
    · exact .inl
    · rintro (hdigits | ⟨digits, heq, -⟩)
      · exact hdigits
      · exact absurd heq (hunsigned digits)

/-- No part of a numeral is blank. -/
theorem Numeral.not_blank (hnumeral : Numeral chars n) : ∀ c ∈ chars, Text.isBlank c = false := by
  obtain ⟨-, hdigits, -⟩ | ⟨digits, rfl, -, hdigits, -⟩ := hnumeral
  · exact fun c hmem => Text.not_isBlank_of_isDigit (hdigits c hmem)
  · rintro c hmem
    obtain rfl | hmem := List.mem_cons.1 hmem
    · rfl
    · exact Text.not_isBlank_of_isDigit (hdigits c hmem)

end BootChain.Decimal
