import BootChain.Path.Extension
import BootChain.Proofs.Path.Way
import Mathlib.Data.List.TakeWhile

namespace BootChain.Path

variable {name stem old before : Bytes}

theorem cutAtDot?_eq_some_iff {extension : Bytes} :
    cutAtDot? name = some (stem, extension) ↔
      name = stem ++ dot :: extension ∧ dot ∉ extension ∧ stem ≠ [] := by
  constructor
  · intro hcut
    have hreverse : name.reverse.takeWhile (· ≠ dot) ++ name.reverse.dropWhile (· ≠ dot) =
      name.reverse := List.takeWhile_append_dropWhile
    have hafter : dot ∉ name.reverse.takeWhile (· ≠ dot) := fun hmem => by
      simpa using List.mem_takeWhile_imp hmem
    have hhead := List.head?_dropWhile_not (· ≠ dot) name.reverse
    simp only [cutAtDot?] at hcut
    generalize name.reverse.takeWhile (· ≠ dot) = after at hcut hreverse hafter
    split at hcut
    next => cases hcut
    next => cases hcut
    next first rest hrest hdrop =>
      obtain ⟨rfl, rfl⟩ := Prod.mk.inj (Option.some.inj hcut)
      rw [hdrop] at hhead hreverse
      have hfirst : first = dot := by simpa using hhead
      subst hfirst
      refine ⟨?_, by simpa using hafter, fun hnil => hrest (List.reverse_eq_nil_iff.1 hnil)⟩
      rw [← List.reverse_reverse name, ← hreverse]
      simp
  · rintro ⟨rfl, hdot, hne⟩
    have hpos : ∀ b ∈ extension.reverse, decide (b ≠ dot) = true := by
      intro b hb
      rw [decide_eq_true_iff]
      rintro rfl
      exact hdot (List.mem_reverse.1 hb)
    have htake : (stem ++ dot :: extension).reverse.takeWhile (· ≠ dot) = extension.reverse := by
      rw [List.reverse_append, List.reverse_cons, List.append_assoc,
        List.takeWhile_append_of_pos hpos]
      simp
    have hdrop : (stem ++ dot :: extension).reverse.dropWhile (· ≠ dot) =
        dot :: stem.reverse := by
      rw [List.reverse_append, List.reverse_cons, List.append_assoc,
        List.dropWhile_append_of_pos hpos]
      simp
    obtain ⟨last, init, hstem⟩ := List.exists_cons_of_ne_nil (List.reverse_ne_nil_iff.2 hne)
    simp only [cutAtDot?, htake, hdrop, hstem]
    rw [← hstem, List.reverse_reverse, List.reverse_reverse]

theorem isStep_append_dot {extension : Bytes} (hslashStem : slash ∉ stem) (hstem : stem ≠ [])
    (hslash : slash ∉ extension) (hne : extension ≠ []) : IsStep (stem ++ dot :: extension) := by
  have hlength : 3 ≤ (stem ++ dot :: extension).length := by
    have hstemLength := List.length_pos_of_ne_nil hstem
    have hextensionLength := List.length_pos_of_ne_nil hne
    rw [List.length_append, List.length_cons]
    omega
  refine ⟨?_, ?_, ?_, ?_⟩
  · simp only [List.mem_append, List.mem_cons, not_or]
    exact ⟨hslashStem, by decide, hslash⟩
  all_goals
    intro heq
    rw [heq] at hlength
    exact absurd hlength (by decide)

section

variable (hslash : slash ∉ name) (hne : name ≠ []) (hdot : name ≠ [dot])
include hslash hne hdot

/-- No octet of a last piece that is neither empty nor a dot is idle. -/
theorem trimmed_append : trimmed ⟨before ++ name⟩ = before ++ name := by
  obtain ⟨last, init, hreverse⟩ := List.exists_cons_of_ne_nil (List.reverse_ne_nil_iff.2 hne)
  have hmem : ∀ b ∈ last :: init, b ≠ slash := by
    rintro b hb rfl
    rw [← hreverse, List.mem_reverse] at hb
    exact hslash hb
  have hlast : last ≠ slash := hmem last List.mem_cons_self
  have hidle : dropIdle (last :: (init ++ before.reverse)) = last :: (init ++ before.reverse) := by
    rw [dropIdle, if_neg hlast, if_neg]
    rintro ⟨rfl, hhead⟩
    cases init with
    | nil => exact hdot (by simpa using congrArg List.reverse hreverse)
    | cons next init =>
      have hnext : next = slash := by simpa using hhead
      exact hmem next (by simp) hnext
  rw [trimmed, List.reverse_append, hreverse, List.cons_append, hidle, ← List.cons_append,
    ← hreverse, ← List.reverse_append, List.reverse_reverse]

theorem splitLast_append (hlead : IsLead before) : splitLast ⟨before ++ name⟩ = (before, name) := by
  have hpos : ∀ b ∈ name.reverse, decide (b ≠ slash) = true := by
    intro b hb
    rw [decide_eq_true_iff]
    rintro rfl
    exact hslash (List.mem_reverse.1 hb)
  have hends : before.reverse.takeWhile (· ≠ slash) = [] ∧
      before.reverse.dropWhile (· ≠ slash) = before.reverse := by
    obtain rfl | hlast := hlead
    · exact ⟨rfl, rfl⟩
    · obtain ⟨more, rfl⟩ := List.getLast?_eq_some_iff.1 hlast
      simp
  simp only [splitLast, trimmed_append hslash hne hdot, List.reverse_append,
    List.takeWhile_append_of_pos hpos, List.dropWhile_append_of_pos hpos, hends.1, hends.2,
    List.append_nil, List.reverse_reverse]

end

section

variable (hlead : IsLead before)
include hlead

theorem splitLast_step (hstep : IsStep name) : splitLast ⟨before ++ name⟩ = (before, name) :=
  splitLast_append hstep.slash_notMem hstep.ne_nil hstep.ne_dot hlead

theorem fileName?_step (hstep : IsStep name) : fileName? ⟨before ++ name⟩ = some name := by
  simp [fileName?, splitLast_step hlead hstep, hstep.ne_nil, hstep.ne_dot, hstep.ne_dots]

theorem extension?_step (hstep : IsStep name) :
    extension? ⟨before ++ name⟩ = (cutAtDot? name).map Prod.snd := by
  rw [extension?, fileName?_step hlead hstep]
  rfl

variable (hname : IsName (stem ++ dot :: old)) (hold : dot ∉ old) (hstem : stem ≠ [])
include hname hold hstem

/-- Cutting off the old extension leaves the dot before it. -/
theorem withExtension_eq (new : Bytes) : withExtension ⟨before ++ (stem ++ dot :: old)⟩ new =
    setExtension ⟨before ++ (stem ++ [dot])⟩ new := by
  have hcut := cutAtDot?_eq_some_iff.2 ⟨rfl, hold, hstem⟩
  have htake : (before ++ (stem ++ dot :: old)).take
      ((before ++ (stem ++ dot :: old)).length - old.length) = before ++ (stem ++ [dot]) := by
    have hsplit : before ++ (stem ++ dot :: old) = before ++ (stem ++ [dot]) ++ old := by simp
    rw [hsplit, List.length_append, Nat.add_sub_cancel, List.take_left]
  simp only [withExtension, extension?_step hlead hname.isStep, hcut, Option.map_some,
    Option.getD_some, htake]

/-- The new extension takes the place of the old one, unless the stem is a dot. -/
theorem withExtension_name (hdot : stem ≠ [dot]) (new : Bytes) :
    withExtension ⟨before ++ (stem ++ dot :: old)⟩ new =
      ⟨before ++ stem ++ if new = [] then [] else dot :: new⟩ := by
  have hcutName : IsName (stem ++ [dot]) := by
    obtain ⟨hslash, hnul, -, -, -⟩ := hname
    simp only [List.mem_append, List.mem_cons, not_or] at hslash hnul
    refine ⟨by simp [hslash.1, hslash.2.1], by simp [hnul.1, hnul.2.1], by simp, ?_, ?_⟩
    · simpa using hstem
    · intro heq
      have hcancel : stem ++ [dot] = [dot] ++ [dot] := heq
      exact hdot (List.append_cancel_right hcancel)
  have hcut := cutAtDot?_eq_some_iff.2 ⟨rfl, List.not_mem_nil, hstem⟩
  rw [withExtension_eq hlead hname hold hstem, setExtension, stem?,
    fileName?_step hlead hcutName.isStep]
  simp only [Option.map_some, hcut, Option.getD_some, splitLast_step hlead hcutName.isStep]
  split <;> simp

end

/-- A name that starts with two dots and has no third one loses its extension for good: what is
    left of it is no name. -/
theorem withExtension_dots (hlead : IsLead before) (hname : IsName ([dot] ++ dot :: old))
    (hold : dot ∉ old) (new : Bytes) :
    withExtension ⟨before ++ ([dot] ++ dot :: old)⟩ new = ⟨before ++ [dot, dot]⟩ := by
  have hsplit : splitLast ⟨before ++ [dot, dot]⟩ = (before, [dot, dot]) :=
    splitLast_append (by decide) (by decide) (by decide) hlead
  rw [withExtension_eq hlead hname hold (by decide)]
  simp [setExtension, stem?, fileName?, hsplit]

/-- The path of a name with another extension is that of another name in the same directory, unless
    it ends in two dots. It is the same name only if that had the extension before. -/
theorem withExtension_cases (hlead : IsLead before) (hname : IsName name) {new : Bytes}
    (hslash : slash ∉ new) (hnul : 0 ∉ new) (hne : new ≠ []) :
    withExtension ⟨before ++ name⟩ new = ⟨before ++ [dot, dot]⟩ ∨
      ∃ other, IsName other ∧ withExtension ⟨before ++ name⟩ new = ⟨before ++ other⟩ ∧
        (other = name → extension? ⟨before ++ name⟩ = some new) := by
  have hisName : ∀ {stem : Bytes}, slash ∉ stem → 0 ∉ stem → stem ≠ [] →
      IsName (stem ++ dot :: new) := by
    intro stem hslashStem hnulStem hstem
    obtain ⟨hslashAll, hnil, hdot, hdots⟩ := isStep_append_dot hslashStem hstem hslash hne
    refine ⟨hslashAll, ?_, hnil, hdot, hdots⟩
    simp only [List.mem_append, List.mem_cons, not_or]
    exact ⟨hnulStem, by decide, hnul⟩
  cases hcut : cutAtDot? name with
  | none =>
    refine .inr
      ⟨name ++ dot :: new, hisName hname.slash_notMem hname.nul_notMem hname.ne_nil, ?_, ?_⟩
    · have hold : extension? ⟨before ++ name⟩ = none := by
        rw [extension?_step hlead hname.isStep, hcut]
        rfl
      simp only [withExtension, hold, Option.map_none, Option.getD_none, Nat.sub_zero,
        List.take_length]
      rw [setExtension, stem?, fileName?_step hlead hname.isStep, Option.map_some, hcut,
        splitLast_step hlead hname.isStep]
      simp [hne]
    · intro hsame
      simp at hsame
  | some parts =>
    obtain ⟨stem, old⟩ := parts
    obtain ⟨rfl, hold, hstem⟩ := cutAtDot?_eq_some_iff.1 hcut
    by_cases hdots : stem = [dot]
    · subst hdots
      exact .inl (withExtension_dots hlead hname hold new)
    · obtain ⟨hslashName, hnulName, -, -, -⟩ := id hname
      simp only [List.mem_append, not_or] at hslashName hnulName
      refine .inr ⟨stem ++ dot :: new, hisName hslashName.1 hnulName.1 hstem, ?_, ?_⟩
      · rw [withExtension_name hlead hname hold hstem hdots, if_neg hne, List.append_assoc]
      · intro hsame
        have hnew : new = old := by simpa using hsame
        rw [extension?_step hlead hname.isStep, hcut, hnew]
        rfl

end BootChain.Path
