import BootChain.Template
import BootChain.Proofs.Text.Replace

namespace BootChain

namespace Placeholder

variable {p q : Placeholder} {text rest : List Char}

theorem mem_all (p : Placeholder) : p ∈ all := by
  cases p <;> simp [all]

theorem chars_eq (p : Placeholder) : p.chars = '{' :: (p.name.toList ++ ['}']) := rfl

theorem chars_ne_nil (p : Placeholder) : p.chars ≠ [] := List.cons_ne_nil _ _

theorem closing_mem_chars (p : Placeholder) : '}' ∈ p.chars := by simp [chars_eq]

theorem opening_notMem_name (p : Placeholder) : '{' ∉ p.name.toList ++ ['}'] := by
  cases p <;> decide

/-- No two placeholders start one text. -/
theorem eq_of_starts (hp : p.chars <+: text) (hq : q.chars <+: text) : p = q := by
  have hstart : p.chars <+: q.chars ∨ q.chars <+: p.chars :=
    List.prefix_or_prefix_of_prefix hp hq
  revert hstart
  cases p <;> cases q <;> decide

/-- No occurrence of a placeholder begins within another one. -/
theorem freeOf_chars (hne : p ≠ q) : Text.FreeOf q.chars p.chars := by
  refine Text.freeOf_cons_iff.2 ⟨fun rest hstarts => ?_, Text.freeOf_of_notMem p.opening_notMem_name⟩
  exact hne (eq_of_starts (List.prefix_append p.chars rest) hstarts)

end Placeholder

namespace Template

/-- A part of a word. -/
inductive Piece where
  | plain (c : Char)
  | hole (p : Placeholder)

/-- The characters of a piece, with `f` in the places of placeholders. -/
def Piece.fill (f : Placeholder → List Char) : Piece → List Char
  | plain c => [c]
  | hole p => f p

/-- What a word is made of: placeholders and characters other than an opening brace, and then
    perhaps an opening brace that is never closed, with what follows it. -/
structure Spelling where
  pieces : List Piece
  unclosed? : Option (List Char)
  ne_opening : ∀ c, .plain c ∈ pieces → c ≠ '{'
  closing_notMem : ∀ rest ∈ unclosed?, '}' ∉ rest

namespace Spelling

variable {f g : Placeholder → List Char} {p q : Placeholder}

/-- The word with `f` in the places of its placeholders. -/
def fill (f : Placeholder → List Char) (spelling : Spelling) : List Char :=
  spelling.pieces.flatMap (Piece.fill f) ++ spelling.unclosed?.elim [] ('{' :: ·)

/-- The word itself. -/
def chars (spelling : Spelling) : List Char := spelling.fill Placeholder.chars

end Spelling

/-- A word in which each brace that is closed again belongs to a placeholder. -/
def WellFormed (word : List Char) : Prop := ∃ spelling : Spelling, spelling.chars = word

section

variable {p : Placeholder} {word rest : List Char} {c : Char}

theorem prefix_of_placeholderAt? (hfound : placeholderAt? word = some p) : p.chars <+: word := by
  unfold placeholderAt? at hfound
  have hstarts := List.find?_some hfound
  exact List.isPrefixOf_iff_prefix.1 hstarts

theorem placeholderAt?_eq_some_iff : placeholderAt? word = some p ↔ p.chars <+: word := by
  constructor
  · exact prefix_of_placeholderAt?
  · intro hstarts
    cases hfound : placeholderAt? word with
    | none =>
      have habsent := List.find?_eq_none.1 hfound p p.mem_all
      exact absurd (List.isPrefixOf_iff_prefix.2 hstarts) habsent
    | some q => rw [Placeholder.eq_of_starts (prefix_of_placeholderAt? hfound) hstarts]

/-- No placeholder begins where no brace is closed. -/
theorem placeholderAt?_eq_none (habsent : '}' ∉ word) : placeholderAt? word = none := by
  rw [Option.eq_none_iff_forall_not_mem]
  intro p hfound
  exact habsent ((placeholderAt?_eq_some_iff.1 hfound).subset p.closing_mem_chars)

theorem hasUnknownFrom_length (passed rest : List Char) :
    hasUnknownFrom passed.length (passed ++ rest) = hasUnknownFrom 0 rest := by
  induction passed with
  | nil => rfl
  | cons c passed ih => exact ih

theorem hasUnknownFrom_plain (hplain : c ≠ '{') :
    hasUnknownFrom 0 (c :: rest) = hasUnknownFrom 0 rest := by
  rw [hasUnknownFrom, if_neg hplain]

theorem hasUnknownFrom_hole (p : Placeholder) (rest : List Char) :
    hasUnknownFrom 0 (p.chars ++ rest) = hasUnknownFrom 0 rest := by
  have hfound : placeholderAt? ('{' :: (p.name.toList ++ ['}'] ++ rest)) = some p :=
    placeholderAt?_eq_some_iff.2 (List.prefix_append p.chars rest)
  rw [p.chars_eq, List.cons_append, hasUnknownFrom, if_pos rfl, hfound]
  exact hasUnknownFrom_length (p.name.toList ++ ['}']) rest

theorem hasUnknownFrom_opening (hnone : placeholderAt? ('{' :: rest) = none) :
    hasUnknownFrom 0 ('{' :: rest) = rest.contains '}' := by
  rw [hasUnknownFrom, if_pos rfl, hnone]

/-- What the scanner has passed over says nothing about what comes next. -/
theorem hasUnknownFrom_pieces {pieces : List Piece} (hplain : ∀ c, .plain c ∈ pieces → c ≠ '{') :
    hasUnknownFrom 0 (pieces.flatMap (Piece.fill Placeholder.chars) ++ rest) =
      hasUnknownFrom 0 rest := by
  induction pieces with
  | nil => rfl
  | cons piece pieces ih =>
    have hrest := ih fun c hmem => hplain c (List.mem_cons_of_mem _ hmem)
    rw [List.flatMap_cons, List.append_assoc, ← hrest]
    cases piece with
    | plain c => exact hasUnknownFrom_plain (hplain c List.mem_cons_self)
    | hole p => exact hasUnknownFrom_hole p _

theorem WellFormed.nil : WellFormed [] := ⟨⟨[], none, nofun, nofun⟩, rfl⟩

theorem WellFormed.plain (hplain : c ≠ '{') (hrest : WellFormed rest) : WellFormed (c :: rest) := by
  obtain ⟨spelling, rfl⟩ := hrest
  refine ⟨⟨.plain c :: spelling.pieces, spelling.unclosed?, fun d hmem => ?_,
    spelling.closing_notMem⟩, rfl⟩
  rcases List.mem_cons.1 hmem with heq | hmem
  · cases heq
    exact hplain
  · exact spelling.ne_opening d hmem

theorem WellFormed.hole (p : Placeholder) (hrest : WellFormed rest) :
    WellFormed (p.chars ++ rest) := by
  obtain ⟨spelling, rfl⟩ := hrest
  refine ⟨⟨.hole p :: spelling.pieces, spelling.unclosed?, fun d hmem => ?_,
    spelling.closing_notMem⟩, ?_⟩
  · exact spelling.ne_opening d ((List.mem_cons.1 hmem).resolve_left nofun)
  · exact List.append_assoc _ _ _

theorem WellFormed.unclosed (habsent : '}' ∉ rest) : WellFormed ('{' :: rest) :=
  ⟨⟨[], some rest, nofun, fun _ hrest => by cases hrest; exact habsent⟩, rfl⟩

/-- The scanner finds nothing unknown in exactly the words that are well formed. -/
theorem hasUnknownFrom_eq_false_iff (word : List Char) :
    hasUnknownFrom 0 word = false ↔ WellFormed word := by
  constructor
  · intro hknown
    induction hlength : word.length using Nat.strongRecOn generalizing word with
    | ind length ih =>
      subst hlength
      cases word with
      | nil => exact .nil
      | cons c rest =>
        by_cases hopening : c = '{'
        · subst hopening
          cases hfound : placeholderAt? ('{' :: rest) with
          | none =>
            rw [hasUnknownFrom_opening hfound] at hknown
            exact .unclosed (by simpa using hknown)
          | some p =>
            obtain ⟨after, heq⟩ := placeholderAt?_eq_some_iff.1 hfound
            rw [← heq, hasUnknownFrom_hole] at hknown
            rw [← heq]
            refine .hole p (ih after.length ?_ after hknown rfl)
            have hlength := congrArg List.length heq
            have hpos := List.length_pos_iff.2 p.chars_ne_nil
            rw [List.length_append] at hlength
            omega
        · rw [hasUnknownFrom_plain hopening] at hknown
          exact .plain hopening (ih rest.length (by simp) rest hknown rfl)
  · rintro ⟨⟨pieces, unclosed?, hplain, hclosing⟩, rfl⟩
    rw [Spelling.chars, Spelling.fill, hasUnknownFrom_pieces hplain]
    cases unclosed? with
    | none => rfl
    | some rest =>
      have habsent : '}' ∉ '{' :: rest := by simpa using hclosing rest rfl
      exact (hasUnknownFrom_opening (placeholderAt?_eq_none habsent)).trans
        (by simpa using hclosing rest rfl)

theorem hasUnknown_eq_true_iff (word : String) :
    hasUnknown word = true ↔ ¬ WellFormed word.toList := by
  rw [← hasUnknownFrom_eq_false_iff, Bool.not_eq_false]
  rfl

end

/-- The first item of a list that has a property. -/
def IsFirst {α : Type} (property : α → Prop) (list : List α) (item : α) : Prop :=
  property item ∧ ∃ before after, list = before ++ item :: after ∧
    ∀ earlier ∈ before, ¬ property earlier

theorem find?_eq_some_iff {α : Type} {property : α → Prop} {test : α → Bool}
    (htest : ∀ item, test item = true ↔ property item) {list : List α} {item : α} :
    list.find? test = some item ↔ IsFirst property list item := by
  simp [List.find?_eq_some_iff_append, IsFirst, ← htest]

theorem find?_eq_none_iff {α : Type} {property : α → Prop} {test : α → Bool}
    (htest : ∀ item, test item = true ↔ property item) {list : List α} :
    list.find? test = none ↔ ∀ item ∈ list, ¬ property item := by
  simp [← htest]

theorem find?_hasUnknown_eq_none_iff {words : List String} :
    words.find? hasUnknown = none ↔ ∀ word ∈ words, WellFormed word.toList := by
  simp [find?_eq_none_iff hasUnknown_eq_true_iff]

/-- A placeholder occurs in some of the words. -/
def Named (words : List String) (p : Placeholder) : Prop :=
  ∃ word ∈ words, p.chars <:+: word.toList

theorem not_names_iff (words : List String) (p : Placeholder) :
    (!names words p) = true ↔ ¬ Named words p := by
  simp [names, Named, Text.occursIn_iff]

section

variable {role other : TemplateRole} {words : List String} {template : Template} {word : String}
  {p : Placeholder}

/-- The first word that is not well formed is reported, whatever placeholder is missing besides. -/
theorem ofWords_eq_unknown_iff : ofWords role words = .error (.unknown other word) ↔
    role = other ∧ IsFirst (fun word => ¬ WellFormed word.toList) words word := by
  rw [← find?_eq_some_iff hasUnknown_eq_true_iff, ofWords]
  cases words.find? hasUnknown with
  | some first => simp
  | none => cases role.required.find? fun p => !names words p <;> simp

theorem ofWords_eq_missing_iff : ofWords role words = .error (.missing other p) ↔
    role = other ∧ (∀ word ∈ words, WellFormed word.toList) ∧
      IsFirst (fun p => ¬ Named words p) role.required p := by
  rw [← find?_hasUnknown_eq_none_iff, ← find?_eq_some_iff (not_names_iff words), ofWords]
  cases words.find? hasUnknown with
  | some first => simp
  | none => cases role.required.find? fun p => !names words p <;> simp

theorem ofWords_eq_ok_iff : ofWords role words = .ok template ↔
    ⟨words⟩ = template ∧ (∀ word ∈ words, WellFormed word.toList) ∧
      ∀ p ∈ role.required, Named words p := by
  have hnamed : (role.required.find? fun p => !names words p) = none ↔
      ∀ p ∈ role.required, Named words p := by
    simp [find?_eq_none_iff (not_names_iff words)]
  rw [← find?_hasUnknown_eq_none_iff, ← hnamed, ofWords]
  cases words.find? hasUnknown with
  | some first => simp
  | none => cases role.required.find? fun p => !names words p <;> simp

end

end Template

end BootChain
