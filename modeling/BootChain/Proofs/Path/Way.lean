import BootChain.Proofs.Path
import BootChain.Proofs.Text.Utf8.Divide
import Mathlib.Data.List.Basic

namespace BootChain.Path

variable {base : Path} {name : Bytes} {dirs pieces : List Bytes}

/-- What stands before a piece of a path ends in a slash, if there is anything. -/
def IsLead (before : Bytes) : Prop := before = [] ∨ before.getLast? = some slash

/-- The way through some directories, up to the slash behind the last one. -/
def through (dirs : List Bytes) : Bytes := dirs.flatMap fun dir => dir ++ [slash]

theorem isLead_append {before after : Bytes} (hbefore : IsLead before) (hafter : IsLead after) :
    IsLead (before ++ after) := by
  obtain rfl | hlast := hafter
  · rwa [List.append_nil]
  · right
    rw [List.getLast?_append, hlast]
    rfl

theorem isLead_through (dirs : List Bytes) : IsLead (through dirs) := by
  induction dirs with
  | nil => exact .inl rfl
  | cons dir rest ih =>
    refine isLead_append (.inr ?_) ih
    rw [List.getLast?_append]
    rfl

/-- What follows the last slash of a path is its last piece. -/
theorem exists_last (bytes : Bytes) :
    ∃ before last, bytes = before ++ last ∧ IsLead before ∧ slash ∉ last := by
  induction bytes with
  | nil => exact ⟨[], [], rfl, .inl rfl, List.not_mem_nil⟩
  | cons b rest ih =>
    obtain ⟨before, last, rfl, rfl | hbefore, hlast⟩ := ih
    · by_cases hb : b = slash
      · exact ⟨[b], last, rfl, .inr (by rw [hb]; rfl), hlast⟩
      · exact ⟨[], b :: last, rfl, .inl rfl, by simp [Ne.symm hb, hlast]⟩
    · refine ⟨b :: before, last, rfl, .inr ?_, hlast⟩
      rw [List.getLast?_cons, hbefore]
      rfl

theorem exists_segments_append {before last : Bytes} (hlead : IsLead before)
    (hslash : slash ∉ last) : ∃ pieces, segments (before ++ last) = pieces ++ [last] := by
  have hlast := segments_of_slash_notMem hslash
  obtain rfl | hbefore := hlead
  · exact ⟨[], hlast⟩
  · obtain ⟨start, rfl⟩ := List.getLast?_eq_some_iff.1 hbefore
    refine ⟨segments start, ?_⟩
    rw [List.append_assoc, List.singleton_append, segments_append_slash, hlast]

theorem join_lead {before : Bytes} (hlead : IsLead before) (hslash : slash ∉ name) :
    (⟨before⟩ : Path).join ⟨name⟩ = ⟨before ++ name⟩ := by
  rw [join, not_isAbsolute_of_slash_notMem hslash, if_neg Bool.false_ne_true]
  exact if_pos hlead

theorem intercalate_concat (dirs : List Bytes) (name : Bytes) :
    [slash].intercalate (dirs ++ [name]) = through dirs ++ name := by
  induction dirs with
  | nil => simp [through]
  | cons dir rest ih =>
    have hne : rest ++ [name] ≠ [] := by simp
    rw [List.cons_append, List.intercalate_cons_of_ne_nil hne, ih]
    simp [through]

section

variable (base) in
/-- The path of a directory as it stands before the names in it. -/
def opening : Bytes :=
  if base.bytes.getLast? = some slash then base.bytes else base.bytes ++ [slash]

variable (base) in
theorem exists_opening : ∃ before, opening base = before ++ [slash] := by
  rw [opening]
  split
  next hlast => exact List.getLast?_eq_some_iff.1 hlast
  next => exact ⟨_, rfl⟩

variable (base) in
theorem isLead_opening : IsLead (opening base) := by
  obtain ⟨before, hopening⟩ := exists_opening base
  right
  rw [hopening, List.getLast?_append]
  rfl

theorem join_relative {rest : Path} (hrelative : rest.isAbsolute = false)
    (hbase : base.bytes ≠ []) : base.join rest = ⟨opening base ++ rest.bytes⟩ := by
  simp only [join, hrelative, opening, hbase, false_or, Bool.false_eq_true, if_false]
  split <;> simp

theorem join_eq_opening (hslash : slash ∉ name) (hbase : base.bytes ≠ []) :
    base.join ⟨name⟩ = ⟨opening base ++ name⟩ :=
  join_relative (not_isAbsolute_of_slash_notMem hslash) hbase

/-- A slash follows a path that ends in a step before anything else does. -/
theorem opening_step {before : Bytes} (hstep : IsStep name) :
    opening ⟨before ++ name⟩ = before ++ name ++ [slash] := by
  have hlast : (before ++ name).getLast? ≠ some slash := by
    obtain ⟨last, hlast⟩ : ∃ last, name.getLast? = some last :=
      Option.ne_none_iff_exists'.1 (by simpa using hstep.ne_nil)
    rw [List.getLast?_append, hlast]
    rintro heq
    rw [Option.some_or, Option.some_inj] at heq
    exact hstep.slash_notMem (heq ▸ List.mem_of_getLast? hlast)
  rw [opening, if_neg hlast]

theorem opening_join (hname : IsName name) (hbase : base.bytes ≠ []) :
    opening (base.join ⟨name⟩) = opening base ++ name ++ [slash] := by
  rw [join_eq_opening hname.slash_notMem hbase, opening_step hname.isStep]

/-- The path of a name some directories down. -/
theorem foldl_join (hdirs : ∀ dir ∈ dirs, IsName dir) (hname : IsName name)
    (hbase : base.bytes ≠ []) :
    (dirs ++ [name]).foldl (fun path name => path.join ⟨name⟩) base =
      ⟨opening base ++ through dirs ++ name⟩ := by
  induction dirs generalizing base with
  | nil => simpa [through] using join_eq_opening hname.slash_notMem hbase
  | cons dir rest ih =>
    have hdir := hdirs dir List.mem_cons_self
    rw [List.cons_append, List.foldl_cons,
      ih (fun dir hmem => hdirs dir (List.mem_cons_of_mem _ hmem)) (join_ne_nil hdir),
      opening_join hdir hbase]
    simp [through]

end

theorem segments_intercalate (hne : pieces ≠ []) (hslash : ∀ piece ∈ pieces, slash ∉ piece) :
    segments ([slash].intercalate pieces) = pieces := by
  induction pieces with
  | nil => exact absurd rfl hne
  | cons piece rest ih =>
    have hpiece := segments_of_slash_notMem (hslash piece List.mem_cons_self)
    by_cases hrest : rest = []
    · subst hrest
      simpa using hpiece
    · rw [List.intercalate_cons_of_ne_nil hrest, List.append_assoc, List.singleton_append,
        segments_append_slash, hpiece,
        ih hrest fun piece hmem => hslash piece (List.mem_cons_of_mem _ hmem)]
      rfl

/-- Whatever a path is, slashes between its pieces make it up again. -/
theorem intercalate_segments (bytes : Bytes) : [slash].intercalate (segments bytes) = bytes := by
  induction bytes with
  | nil => rfl
  | cons b rest ih =>
    obtain ⟨piece, pieces, hrest⟩ := List.exists_cons_of_ne_nil (segments_ne_nil rest)
    rw [segments_cons]
    split
    next hslash => rw [List.intercalate_cons_of_ne_nil (segments_ne_nil rest), ih, hslash]; rfl
    next =>
      rw [hrest] at ih ⊢
      dsimp only
      by_cases hnil : pieces = []
      · rw [hnil, List.intercalate_singleton] at ih ⊢
        rw [ih]
      · rw [List.intercalate_cons_of_ne_nil hnil] at ih ⊢
        rw [← ih]
        rfl

/-- The path some names down from a directory. -/
def below (directory : Path) (names : List Bytes) : Path :=
  names.foldl (fun path name => path.join ⟨name⟩) directory

theorem below_concat (directory : Path) (names : List Bytes) (name : Bytes) :
    directory.below (names ++ [name]) = (directory.below names).join ⟨name⟩ :=
  List.foldl_concat _ _ _ _

/-- The pieces of a way, shown one by one, are the pieces of what the way is shown as. -/
theorem lossy_intercalate (pieces : List Bytes) :
    Utf8.lossy ([slash].intercalate pieces) = "/".intercalate (pieces.map Utf8.lossy) := by
  induction pieces with
  | nil => rfl
  | cons piece rest ih =>
    by_cases hrest : rest = []
    · simp [hrest]
    · rw [List.intercalate_cons_of_ne_nil hrest, List.append_assoc, List.singleton_append,
        Utf8.lossy_append_ascii (by decide), ih, List.map_cons,
        String.intercalate_cons_of_ne_nil (by simpa using hrest)]
      rfl

/-- A relative way has its pieces as components, if none of them is empty or a dot. -/
theorem components_intercalate (hne : pieces ≠ [])
    (hpieces : ∀ piece ∈ pieces, slash ∉ piece ∧ piece ≠ [] ∧ piece ≠ [dot]) :
    components ⟨[slash].intercalate pieces⟩ =
      pieces.map fun piece => if piece = [dot, dot] then .up else .name piece := by
  have hsegments := segments_intercalate hne fun piece hmem => (hpieces piece hmem).1
  obtain ⟨first, rest, rfl⟩ := List.exists_cons_of_ne_nil hne
  obtain ⟨hslash, hnil, hdot⟩ := hpieces first List.mem_cons_self
  have hrelative : (⟨[slash].intercalate (first :: rest)⟩ : Path).isAbsolute = false := by
    obtain ⟨b, more, rfl⟩ := List.exists_cons_of_ne_nil hnil
    rw [List.mem_cons, not_or] at hslash
    by_cases hrest : rest = []
    · simp [isAbsolute, hrest, Ne.symm hslash.1]
    · simp [isAbsolute, List.intercalate_cons_of_ne_nil hrest, Ne.symm hslash.1]
  have hsteps : (first :: rest).filterMap Component.ofSegment? =
      (first :: rest).map fun piece => if piece = [dot, dot] then .up else .name piece := by
    refine List.filterMap_eq_map_iff_forall_eq_some.2 fun piece hmem => ?_
    obtain ⟨-, hnil, hdot⟩ := hpieces piece hmem
    simp only [Component.ofSegment?, hnil, hdot, or_self, if_false]
    split <;> rfl
  simp only [components, hsegments, hrelative, hsteps, List.head?_cons, Option.some.injEq, hdot,
    Bool.false_eq_true, if_false, List.nil_append]

end BootChain.Path
