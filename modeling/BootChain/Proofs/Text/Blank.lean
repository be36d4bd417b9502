import BootChain.Text.Blank
import Mathlib.Data.List.TakeWhile

namespace BootChain.Text

variable {text : String} {word : List Char} {c : Char}

/-- A text is a word with nothing but blanks around it. -/
def Padded (word : List Char) (text : String) : Prop :=
  ∃ before after, text.toList = before ++ word ++ after ∧ (∀ c ∈ before, isBlank c = true) ∧
    ∀ c ∈ after, isBlank c = true

/-- Trimming takes off blanks alone. -/
theorem padded_trim (text : String) : Padded (trim text).toList text := by
  let rest := text.toList.dropWhile isBlank
  have hrest : (rest.reverse.dropWhile isBlank).reverse ++
      (rest.reverse.takeWhile isBlank).reverse = rest := by
    rw [← List.reverse_append, List.takeWhile_append_dropWhile, List.reverse_reverse]
  refine ⟨text.toList.takeWhile isBlank, (rest.reverse.takeWhile isBlank).reverse, ?_,
    fun _ hmem => List.mem_takeWhile_imp hmem,
    fun _ hmem => List.mem_takeWhile_imp (List.mem_reverse.1 hmem)⟩
  rw [trim, String.toList_ofList, List.append_assoc, hrest]
  exact List.takeWhile_append_dropWhile.symm

/-- Trimming leaves the word that a text is padded from, if no part of that is blank. -/
theorem trim_of_padded (hpadded : Padded word text) (hword : ∀ c ∈ word, isBlank c = false) :
    (trim text).toList = word := by
  have hkept : ∀ {chars : List Char}, (∀ c ∈ chars, isBlank c = false) →
      chars.dropWhile isBlank = chars := by
    intro chars hchars
    rw [List.dropWhile_eq_self_iff]
    intro hpos
    rw [hchars _ (List.getElem_mem hpos)]
    exact Bool.false_ne_true
  obtain ⟨before, after, htext, hbefore, hafter⟩ := hpadded
  have hreversed : ∀ c ∈ after.reverse, isBlank c = true :=
    fun c hmem => hafter c (List.mem_reverse.1 hmem)
  rw [trim, String.toList_ofList, htext, List.append_assoc, List.dropWhile_append_of_pos hbefore]
  cases word with
  | nil =>
    have hnone : after.dropWhile isBlank = [] := List.dropWhile_eq_nil_iff.2 hafter
    rw [List.nil_append, hnone]
    rfl
  | cons first rest =>
    have hfirst : isBlank first = false := hword first List.mem_cons_self
    rw [List.cons_append, List.dropWhile_cons_of_neg (by simp [hfirst]), ← List.cons_append,
      List.reverse_append, List.dropWhile_append_of_pos hreversed, hkept, List.reverse_reverse]
    exact fun c hmem => hword c (List.mem_reverse.1 hmem)

/-- Blanks stand before the visible characters of ASCII or behind all of it. -/
theorem toNat_of_isBlank (hblank : isBlank c = true) : c.toNat ≤ 32 ∨ 133 ≤ c.toNat := by
  simp only [isBlank, Bool.or_eq_true, Bool.and_eq_true, decide_eq_true_eq, beq_iff_eq] at hblank
  omega

theorem toLower_of_isBlank (hblank : isBlank c = true) : c.toLower = c := by
  have hnat : c.val.toNat = c.toNat := rfl
  have hcapitals : 'A'.val.toNat = 65 ∧ 'Z'.val.toNat = 90 := ⟨rfl, rfl⟩
  have hbounds := toNat_of_isBlank hblank
  have hsmall : ¬ (c.val ≥ 'A'.val ∧ c.val ≤ 'Z'.val) := by
    rintro ⟨hlow, hhigh⟩
    rw [ge_iff_le, UInt32.le_iff_toNat_le] at hlow
    rw [UInt32.le_iff_toNat_le] at hhigh
    omega
  exact dif_neg hsmall

theorem not_isBlank_of_isDigit (hdigit : c.isDigit = true) : isBlank c = false := by
  have hnat : c.val.toNat = c.toNat := rfl
  simp only [Char.isDigit, Bool.and_eq_true, decide_eq_true_eq, ge_iff_le,
    UInt32.le_iff_toNat_le] at hdigit
  have hdigits : '0'.val.toNat = 48 ∧ '9'.val.toNat = 57 := ⟨rfl, rfl⟩
  rw [← Bool.not_eq_true]
  intro hblank
  have hbounds := toNat_of_isBlank hblank
  omega

/-- Only a digit has that digit for its small letter. -/
theorem toLower_of_isDigit (hdigit : c.toLower.isDigit = true) : c.toLower = c := by
  by_cases hcapital : c.val ≥ 'A'.val ∧ c.val ≤ 'Z'.val
  · have hsmall : c.toLower.val = c.val + ('a'.val - 'A'.val) := congrArg Char.val (dif_pos hcapital)
    have hdigits : '0'.val.toNat = 48 ∧ '9'.val.toNat = 57 := ⟨rfl, rfl⟩
    have hcapitals : 'A'.val.toNat = 65 ∧ 'Z'.val.toNat = 90 := ⟨rfl, rfl⟩
    have hshift : ('a'.val - 'A'.val).toNat = 32 := rfl
    simp only [Char.isDigit, hsmall, Bool.and_eq_true, decide_eq_true_eq, ge_iff_le,
      UInt32.le_iff_toNat_le, UInt32.toNat_add] at hdigit hcapital
    omega
  · exact dif_neg hcapital

end BootChain.Text
