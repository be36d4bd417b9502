import BootChain.Text.Replace

namespace BootChain.Text

variable {needle replacement text rest : List Char} {c : Char}

theorem occursIn_iff : occursIn needle text = true ↔ needle <:+: text := by
  induction text with
  | nil => simp [occursIn]
  | cons c rest ih =>
    rw [occursIn, Bool.or_eq_true, ih, List.isPrefixOf_iff_prefix, List.infix_cons_iff]

theorem replaceFrom_length (text : List Char) :
    replaceFrom needle replacement text.length (text ++ rest) =
      replaceFrom needle replacement 0 rest := by
  induction text with
  | nil => rfl
  | cons c text ih => exact ih

theorem replaceAll_of_not_infix (habsent : ¬ needle <:+: text) :
    replaceAll needle replacement text = text :=
  replaceFrom_of_not_occursIn (Bool.eq_false_iff.2 fun hoccurs => habsent (occursIn_iff.1 hoccurs))

theorem replaceAll_needle_append (hneedle : needle ≠ []) :
    replaceAll needle replacement (needle ++ rest) =
      replacement ++ replaceAll needle replacement rest := by
  obtain ⟨first, others, rfl⟩ := List.exists_cons_of_ne_nil hneedle
  have hstarts : (first :: others).isPrefixOf (first :: (others ++ rest)) = true :=
    List.isPrefixOf_iff_prefix.2 (List.prefix_append _ _)
  rw [replaceAll, List.cons_append, replaceFrom, if_pos hstarts, List.length_cons,
    Nat.add_sub_cancel, replaceFrom_length]
  rfl

/-- No occurrence of a needle begins within a text, whatever comes after the text. -/
def FreeOf (needle text : List Char) : Prop :=
  ∀ tail, tail <:+ text → tail ≠ [] → ∀ rest, ¬ needle <+: tail ++ rest

theorem freeOf_nil : FreeOf needle [] :=
  fun _ htail hne => absurd (List.suffix_nil.1 htail) hne

theorem freeOf_cons_iff : FreeOf needle (c :: text) ↔
    (∀ rest, ¬ needle <+: c :: (text ++ rest)) ∧ FreeOf needle text := by
  constructor
  · intro hfree
    refine ⟨hfree _ List.suffix_rfl (List.cons_ne_nil c text), fun tail htail => ?_⟩
    exact hfree tail (htail.trans (List.suffix_cons c text))
  · rintro ⟨hfirst, hfree⟩ tail htail hne
    rcases List.suffix_cons_iff.1 htail with rfl | htail
    · exact hfirst
    · exact hfree tail htail hne

/-- A text without the first character of a needle is free of the needle. -/
theorem freeOf_of_notMem (habsent : c ∉ text) : FreeOf (c :: rest) text := by
  intro tail htail hne after hstarts
  obtain ⟨first, others, rfl⟩ := List.exists_cons_of_ne_nil hne
  have hfirst : c = first := (List.cons_prefix_cons.1 hstarts).1
  exact habsent (htail.subset (hfirst ▸ List.mem_cons_self))

/-- An occurrence in a longer text lies after a part in which none begins. -/
theorem infix_of_freeOf (hfree : FreeOf needle text) (hoccurs : needle <:+: text ++ rest) :
    needle <:+: rest := by
  induction text with
  | nil => exact hoccurs
  | cons c text ih =>
    obtain ⟨hfirst, htext⟩ := freeOf_cons_iff.1 hfree
    rcases List.infix_cons_iff.1 hoccurs with hstarts | hoccurs
    · exact absurd hstarts (hfirst rest)
    · exact ih htext hoccurs

/-- Replacing leaves a text alone in which no occurrence begins. -/
theorem replaceAll_append_of_freeOf (hfree : FreeOf needle text) (rest : List Char) :
    replaceAll needle replacement (text ++ rest) = text ++ replaceAll needle replacement rest := by
  induction text with
  | nil => rfl
  | cons c text ih =>
    obtain ⟨hfirst, htext⟩ := freeOf_cons_iff.1 hfree
    have hnot : ¬ needle.isPrefixOf (c :: (text ++ rest)) = true := fun hstarts =>
      hfirst rest (List.isPrefixOf_iff_prefix.1 hstarts)
    rw [replaceAll, List.cons_append, replaceFrom, if_neg hnot]
    exact congrArg (c :: ·) (ih htext)

end BootChain.Text
