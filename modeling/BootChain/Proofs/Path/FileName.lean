import BootChain.Proofs.Path.Child

namespace BootChain.Path

variable {p q : Path} {before last name stem old new : Bytes}

section LastPiece

/-- What is left when the idle octets at the end of a path are gone ends in a part of a step. -/
theorem not_idle_of_dropIdle {reversed rest : Bytes} {b : UInt8}
    (hleft : dropIdle reversed = b :: rest) :
    b ≠ slash ∧ ¬ (b = dot ∧ rest.head? = some slash) := by
  induction reversed with
  | nil => cases hleft
  | cons c more ih =>
    rw [dropIdle] at hleft
    split at hleft
    · exact ih hleft
    next hslash =>
      split at hleft
      · exact ih hleft
      next hidle =>
        cases hleft
        exact ⟨hslash, hidle⟩

theorem splitLast_append_eq (p : Path) : p.splitLast.1 ++ p.splitLast.2 = p.trimmed := by
  have hreverse : p.trimmed.reverse.takeWhile (· ≠ slash) ++
    p.trimmed.reverse.dropWhile (· ≠ slash) = p.trimmed.reverse := List.takeWhile_append_dropWhile
  rw [splitLast, ← List.reverse_append, hreverse, List.reverse_reverse]

theorem isLead_splitLast (p : Path) : IsLead p.splitLast.1 := by
  have hhead := List.head?_dropWhile_not (· ≠ slash) p.trimmed.reverse
  rw [IsLead, splitLast, List.reverse_eq_nil_iff, List.getLast?_reverse]
  cases hdrop : p.trimmed.reverse.dropWhile (· ≠ slash) with
  | nil => exact .inl rfl
  | cons b rest =>
    rw [hdrop] at hhead
    exact .inr (by simpa using hhead)

theorem slash_notMem_splitLast (p : Path) : slash ∉ p.splitLast.2 := by
  rw [splitLast, List.mem_reverse]
  exact fun hmem => by simpa using List.mem_takeWhile_imp hmem

/-- A path has a last piece unless nothing is left of it, and a dot is one only where it stands
    alone. -/
theorem splitLast_cases (p : Path) : p.splitLast = ([], []) ∨
    p.splitLast.2 ≠ [] ∧ (p.splitLast.2 = [dot] → p.splitLast.1 = []) := by
  have hwhole := splitLast_append_eq p
  obtain hnil | hlast := isLead_splitLast p
  · by_cases hempty : p.splitLast.2 = []
    · exact .inl (Prod.ext hnil hempty)
    · exact .inr ⟨hempty, fun _ => hnil⟩
  · obtain ⟨start, hstart⟩ := List.getLast?_eq_some_iff.1 hlast
    have hleft : dropIdle p.bytes.reverse = p.splitLast.2.reverse ++ slash :: start.reverse := by
      rw [hstart, trimmed, ← List.reverse_inj, List.reverse_reverse] at hwhole
      simpa using hwhole.symm
    refine .inr ⟨fun hempty => ?_, fun hdot => ?_⟩
    · rw [hempty] at hleft
      exact absurd rfl (not_idle_of_dropIdle hleft).1
    · rw [hdot] at hleft
      exact absurd ⟨rfl, rfl⟩ (not_idle_of_dropIdle hleft).2

end LastPiece

section FileName

/-- What the last piece of a path stands for. -/
def lastComponent (piece : Bytes) : Component :=
  if piece = [dot] then .here else if piece = [dot, dot] then .up else .name piece

theorem getLast?_components_append (hlead : IsLead before) (hslash : slash ∉ last)
    (hne : last ≠ []) (hdot : last = [dot] → before = []) :
    (components ⟨before ++ last⟩).getLast? = some (lastComponent last) := by
  obtain rfl | hbefore := hlead
  · rw [List.nil_append, components, segments_of_slash_notMem hslash,
      not_isAbsolute_of_slash_notMem hslash, lastComponent]
    by_cases hhere : last = [dot]
    · simp [hhere, Component.ofSegment?]
    · by_cases hup : last = [dot, dot] <;> simp [hhere, hup, hne, Component.ofSegment?]
  · obtain ⟨start, rfl⟩ := List.getLast?_eq_some_iff.1 hbefore
    have hhere : last ≠ [dot] := fun heq => by simpa using hdot heq
    rw [List.append_assoc, List.singleton_append, components_append_piece hslash, lastComponent,
      if_neg hhere]
    by_cases hup : last = [dot, dot] <;> simp [hhere, hup, hne, Component.ofSegment?]

/-- A path ends in a name just if that is its last component. -/
theorem fileName?_eq_some_iff :
    p.fileName? = some name ↔ p.components.getLast? = some (.name name) := by
  have hidle := components_dropIdle p.bytes.reverse
  rw [List.reverse_reverse] at hidle
  change components ⟨if p.trimmed = [] ∧ p.isAbsolute = true then [slash] else p.trimmed⟩ =
    p.components at hidle
  rw [← hidle, ← splitLast_append_eq p, fileName?]
  obtain hnone | ⟨hne, hdot⟩ := splitLast_cases p
  · rw [hnone]
    cases p.isAbsolute <;> simp [components, segments, isAbsolute, Component.ofSegment?]
  · have hleft : ¬ (p.splitLast.1 ++ p.splitLast.2 = [] ∧ p.isAbsolute = true) := by simp [hne]
    rw [if_neg hleft, getLast?_components_append (isLead_splitLast p) (slash_notMem_splitLast p)
      hne hdot, lastComponent]
    by_cases hhere : p.splitLast.2 = [dot]
    · simp [hhere]
    · by_cases hup : p.splitLast.2 = [dot, dot] <;> simp [hne, hhere, hup]

theorem fileName?_eq_of_components (heq : p.components = q.components) :
    p.fileName? = q.fileName? :=
  Option.ext fun name => by rw [fileName?_eq_some_iff, fileName?_eq_some_iff, heq]

theorem isStep_of_fileName? (hname : p.fileName? = some name) : IsStep name := by
  have hslash := slash_notMem_splitLast p
  simp only [fileName?, Option.ite_none_left_eq_some, not_or, Option.some.injEq] at hname
  obtain ⟨⟨hne, hdot, hdots⟩, rfl⟩ := hname
  exact ⟨hslash, hne, hdot, hdots⟩

end FileName

section Extension

theorem extension?_eq_of_components (heq : p.components = q.components) :
    p.extension? = q.extension? := by
  rw [extension?, extension?, fileName?_eq_of_components heq]

/-- A stem is some of a file name. -/
theorem stem?_eq_some (hstem : p.stem? = some stem) : slash ∉ stem ∧ stem ≠ [] := by
  obtain ⟨name, hname, rfl⟩ := Option.map_eq_some_iff.1 hstem
  have hstep := isStep_of_fileName? hname
  cases hcut : cutAtDot? name with
  | none => exact ⟨hstep.slash_notMem, hstep.ne_nil⟩
  | some parts =>
    obtain ⟨hparts, -, hne⟩ := cutAtDot?_eq_some_iff.1 hcut
    refine ⟨fun hmem => hstep.slash_notMem ?_, hne⟩
    rw [hparts]
    exact List.mem_append_left _ hmem

variable (hslash : slash ∉ new) (hdot : dot ∉ new) (hne : new ≠ [])
include hslash hdot hne

/-- A path that gets an extension has that one then, unless it has no file name to put it at. -/
theorem extension?_setExtension (p : Path) :
    (p.setExtension new).extension? = none ∨ (p.setExtension new).extension? = some new := by
  rw [setExtension]
  split
  next hstem =>
    left
    have hname : p.fileName? = none := Option.map_eq_none_iff.1 hstem
    rw [extension?, hname]
    rfl
  next stem hstem =>
    right
    obtain ⟨hslashStem, hneStem⟩ := stem?_eq_some hstem
    have hstep := isStep_append_dot hslashStem hneStem hslash hne
    dsimp only
    rw [if_neg hne, List.append_assoc, extension?_step (isLead_splitLast p) hstep,
      cutAtDot?_eq_some_iff.2 ⟨rfl, hdot, hneStem⟩]
    rfl

/-- A path with a new extension is not the same place as any with another one. -/
theorem components_withExtension_ne (p : Path) (hold : q.extension? = some old)
    (hother : new ≠ old) : (p.withExtension new).components ≠ q.components := by
  intro heq
  have hextension := extension?_eq_of_components heq
  rw [hold] at hextension
  obtain hnone | hnew := extension?_setExtension hslash hdot hne
    ⟨p.bytes.take (p.bytes.length - (p.extension?.map List.length).getD 0)⟩
  · exact nomatch hnone.symm.trans hextension
  · exact hother (Option.some.inj (hnew.symm.trans hextension))

end Extension

end BootChain.Path
