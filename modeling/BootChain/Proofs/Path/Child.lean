import BootChain.Proofs.Path.Extension
import BootChain.Proofs.Path.Way

namespace BootChain.Path

variable {root : Path} {start piece name : Bytes}

/-- A piece behind a slash adds what it stands for. -/
theorem components_append_piece (hslash : slash ∉ piece) : components ⟨start ++ slash :: piece⟩ =
    components ⟨start ++ [slash]⟩ ++ (Component.ofSegment? piece).toList := by
  have hsegments : segments (start ++ slash :: piece) = segments start ++ [piece] := by
    rw [segments_append_slash, segments_of_slash_notMem hslash]
  have hopening : segments (start ++ [slash]) = segments start ++ [[]] := segments_append_slash _ _
  obtain ⟨first, rest, hstart⟩ := List.exists_cons_of_ne_nil (segments_ne_nil start)
  have hlead : (⟨start ++ slash :: piece⟩ : Path).isAbsolute =
      (⟨start ++ [slash]⟩ : Path).isAbsolute := by
    cases start <;> simp [isAbsolute]
  have hlast : [piece].filterMap Component.ofSegment? = (Component.ofSegment? piece).toList := by
    rw [List.filterMap_cons]
    cases Component.ofSegment? piece <;> rfl
  simp only [components, hsegments, hopening, hlead, hstart, List.filterMap_append, hlast]
  simp [Component.ofSegment?]

/-- A slash at the end adds nothing, unless it is the root. -/
theorem components_append_slash (hne : start ≠ []) :
    components ⟨start ++ [slash]⟩ = components ⟨start⟩ := by
  have hsegments : segments (start ++ [slash]) = segments start ++ [[]] := segments_append_slash _ _
  obtain ⟨first, rest, hstart⟩ := List.exists_cons_of_ne_nil (segments_ne_nil start)
  have hlead : (⟨start ++ [slash]⟩ : Path).isAbsolute = (⟨start⟩ : Path).isAbsolute := by
    obtain ⟨b, more, rfl⟩ := List.exists_cons_of_ne_nil hne
    rfl
  simp only [components, hsegments, hlead, hstart, List.filterMap_append]
  simp [Component.ofSegment?]

/-- Taking off idle slashes and dots leaves the components, as long as the root stays. -/
theorem components_dropIdle (reversed : Bytes) :
    components ⟨if (dropIdle reversed).reverse = [] ∧ (⟨reversed.reverse⟩ : Path).isAbsolute = true
      then [slash] else (dropIdle reversed).reverse⟩ = components ⟨reversed.reverse⟩ := by
  induction reversed with
  | nil => rfl
  | cons b rest ih =>
    rw [dropIdle]
    split
    next hslash =>
      subst hslash
      by_cases hrest : rest = []
      · subst hrest
        rfl
      · have hne : rest.reverse ≠ [] := by simpa using hrest
        have hlead : (⟨rest.reverse ++ [slash]⟩ : Path).isAbsolute =
            (⟨rest.reverse⟩ : Path).isAbsolute := by
          obtain ⟨c, more, hreverse⟩ := List.exists_cons_of_ne_nil hne
          rw [hreverse]
          rfl
        rw [List.reverse_cons, components_append_slash hne, hlead, ih]
    next =>
      split
      next hidle =>
        obtain ⟨rfl, hhead⟩ := hidle
        obtain ⟨more, rfl⟩ := List.head?_eq_some_iff.1 hhead
        have hreverse : (dot :: slash :: more).reverse = more.reverse ++ slash :: [dot] := by simp
        have hlead : (⟨more.reverse ++ slash :: [dot]⟩ : Path).isAbsolute =
            (⟨(slash :: more).reverse⟩ : Path).isAbsolute := by
          rw [List.reverse_cons]
          cases more.reverse <;> rfl
        rw [hreverse, hlead, ih, components_append_piece (by decide), List.reverse_cons]
        exact (List.append_nil _).symm
      next => rw [if_neg (by simp)]

/-- What stands before a name is its parent, in as many components. -/
theorem exists_parent? {before : Bytes} (hlead : IsLead before) (hstep : IsStep name) :
    ∃ parent, parent? ⟨before ++ name⟩ = some parent ∧ parent.components = components ⟨before⟩ := by
  have habsolute : (⟨before ++ name⟩ : Path).isAbsolute = (⟨before⟩ : Path).isAbsolute := by
    cases before with
    | nil => exact not_isAbsolute_of_slash_notMem hstep.slash_notMem
    | cons b rest => rfl
  have hidle := components_dropIdle before.reverse
  rw [List.reverse_reverse] at hidle
  refine ⟨_, ?_, hidle⟩
  rw [parent?, splitLast_step hlead hstep, habsolute]
  exact if_neg hstep.ne_nil

/-- A path is the one of a name in a directory: it goes one component further, the name is its file
    name, and its parent is the directory. -/
structure IsChild (path root : Path) (name : Bytes) : Prop where
  components_eq : path.components = root.components ++ [.name name]
  fileName?_eq : path.fileName? = some name
  parent : ∃ parent, path.parent? = some parent ∧ parent.components = root.components

theorem ofSegment?_step (hstep : IsStep name) : Component.ofSegment? name = some (.name name) := by
  simp [Component.ofSegment?, hstep.ne_nil, hstep.ne_dot, hstep.ne_dots]

theorem components_step (hstep : IsStep name) : components ⟨name⟩ = [.name name] := by
  rw [components, segments_of_slash_notMem hstep.slash_notMem,
    not_isAbsolute_of_slash_notMem hstep.slash_notMem]
  simp [ofSegment?_step hstep, hstep.ne_dot]

/-- A step that is joined to a path leads to a child of it. -/
theorem isChild_join_step (root : Path) (hstep : IsStep name) :
    (root.join ⟨name⟩).IsChild root name := by
  by_cases hroot : root.bytes = []
  · have hempty : root.components = components ⟨[]⟩ := by rw [← hroot]
    rw [join_of_nil hstep.slash_notMem hroot]
    refine ⟨?_, fileName?_step (.inl rfl) hstep, ?_⟩
    · rw [hempty, components_step hstep]
      rfl
    · rw [hempty]
      exact exists_parent? (.inl rfl) hstep
  · have hopening : components ⟨opening root⟩ = root.components := by
      rw [opening]
      split
      next => rfl
      next => exact components_append_slash hroot
    obtain ⟨start, hstart⟩ := exists_opening root
    rw [join_eq_opening hstep.slash_notMem hroot]
    refine ⟨?_, fileName?_step (isLead_opening root) hstep, ?_⟩
    · rw [← hopening, hstart, List.append_assoc, List.singleton_append,
        components_append_piece hstep.slash_notMem, ofSegment?_step hstep]
      rfl
    · rw [← hopening]
      exact exists_parent? (isLead_opening root) hstep

/-- A name that is joined to a path is a child of it. -/
theorem isChild_join (root : Path) (hname : IsName name) : (root.join ⟨name⟩).IsChild root name :=
  isChild_join_step root hname.isStep

/-- The parent of a step below a path that ends in one is that path as it is written. -/
theorem parent?_join (root : Path) {last : Bytes} (hlast : IsStep last) (hname : IsStep name) :
    ((root.join ⟨last⟩).join ⟨name⟩).parent? = some (root.join ⟨last⟩) := by
  obtain ⟨before, hlead, hjoin⟩ :
      ∃ before, IsLead before ∧ root.join ⟨last⟩ = ⟨before ++ last⟩ := by
    by_cases hroot : root.bytes = []
    · exact ⟨[], .inl rfl, join_of_nil hlast.slash_notMem hroot⟩
    · exact ⟨_, isLead_opening root, join_eq_opening hlast.slash_notMem hroot⟩
  have hne : before ++ last ≠ [] := by simp [hlast.ne_nil]
  have hidle : trimmed ⟨before ++ last ++ [slash]⟩ = before ++ last := by
    rw [trimmed, List.reverse_append, List.reverse_singleton, List.singleton_append, dropIdle,
      if_pos rfl]
    exact trimmed_append hlast.slash_notMem hlast.ne_nil hlast.ne_dot
  rw [hjoin, join_eq_opening hname.slash_notMem hne, opening_step hlast, parent?,
    splitLast_step (.inr (by simp)) hname]
  simp only [hname.ne_nil, hidle, hne, false_and, if_false]

theorem parent?_below (root : Path) {names : List Bytes} (hne : names ≠ [])
    (hnames : ∀ piece ∈ names ++ [name], IsStep piece) :
    (root.below (names ++ [name])).parent? = some (root.below names) := by
  obtain ⟨start, last, rfl⟩ := (List.eq_nil_or_concat' names).resolve_left hne
  rw [below_concat, below_concat]
  exact parent?_join _ (hnames last (by simp)) (hnames name (by simp))

end BootChain.Path
