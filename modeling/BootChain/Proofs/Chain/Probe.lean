import BootChain.Chain.Probe
import BootChain.Proofs.Chain
import BootChain.Proofs.Path
import BootChain.Proofs.Text.Utf8.Divide
import Mathlib.Data.List.Basic

namespace BootChain

namespace Path

variable {base rest : Path}

/-- A text that is no absolute path adds nothing to what keeps a path from being text. -/
theorem isSome_text?_join (hrelative : rest.isAbsolute = false)
    (htext : rest.text?.isSome = true) :
    (base.join rest).text?.isSome = true ↔ base.text?.isSome = true := by
  have hslash : slash.toNat < 128 := by decide
  simp only [join, hrelative, Bool.false_eq_true, if_false]
  split
  next hend =>
    obtain hempty | hlast := hend
    · simp only [text?, hempty, List.nil_append]
      exact iff_of_true htext rfl
    · obtain ⟨before, hbase⟩ := List.getLast?_eq_some_iff.1 hlast
      simp only [text?, hbase, List.append_assoc, List.singleton_append,
        Utf8.isSome_text?_append_ascii hslash]
      exact and_congr_right fun _ => iff_of_true htext rfl
  next =>
    simp only [text?, Utf8.isSome_text?_append_ascii hslash]
    exact and_iff_left htext

theorem isSome_text?_ofText (text : String) : (ofText text).text?.isSome = true := by
  rw [text?, ofText, Utf8.text?_encode]
  rfl

theorem isAbsolute_ofText {text : String} (hslash : '/' ∉ text.toList) :
    (ofText text).isAbsolute = false :=
  not_isAbsolute_of_slash_notMem (slash_notMem_encode hslash)

end Path

namespace Chain

variable {files : FileSystem} {directory : Path} {baseName : String} {chain : Chain}
  {generation other : Generation} {last : Nat}

/-- What is found in the place of a generation. -/
def slotAt (files : FileSystem) (directory : Path) (baseName : String) (generation : Generation) :
    Slot :=
  let path := expectedPath directory baseName generation
  if files.isExecutable path then .available ⟨generation, path⟩ else .missing path

theorem path_slotAt :
    (slotAt files directory baseName generation).path =
      expectedPath directory baseName generation := by
  by_cases hfound : files.isExecutable (expectedPath directory baseName generation) = true
  · simp [slotAt, hfound, Slot.path]
  · simp [slotAt, hfound, Slot.path]

theorem get?_probeOne : (probeOne files directory baseName chain generation).get? other =
    if other = generation then some (slotAt files directory baseName generation)
    else chain.get? other := by
  have hget : ∀ slot, (chain.slots.insert generation slot).get? other =
      if other = generation then some slot else chain.get? other :=
    fun slot => SortedMap.get?_insert chain.slots generation slot other
  by_cases hfound : files.isExecutable (expectedPath directory baseName generation) = true
  · simp only [probeOne, slotAt, hfound, if_true]
    exact hget _
  · simp only [probeOne, slotAt, hfound, Bool.false_eq_true, if_false]
    exact hget _

theorem get?_foldl_probeOne (generations : List Generation) :
    (generations.foldl (probeOne files directory baseName) chain).get? generation =
      if generation ∈ generations then some (slotAt files directory baseName generation)
      else chain.get? generation := by
  induction generations generalizing chain with
  | nil => simp
  | cons first rest ih =>
    rw [List.foldl_cons, ih, get?_probeOne]
    by_cases hrest : generation ∈ rest
    · simp [hrest]
    · by_cases hfirst : generation = first
      · simp [hfirst]
      · simp [hrest, hfirst]

theorem mem_generationsUpTo_iff : generation ∈ generationsUpTo last ↔ generation.number ≤ last := by
  rw [generationsUpTo, List.mem_filterMap]
  constructor
  · rintro ⟨number, hmem, hnumber⟩
    rw [Generation.number_of_ofNat? hnumber]
    have := List.mem_range'_1.1 hmem
    omega
  · intro hle
    have := generation.pos
    exact ⟨generation.number, List.mem_range'_1.2 (by omega), generation.ofNat?_number⟩

/-- A probe has a slot for each generation up to its last, with what is found in its place. -/
theorem get?_probe : (probe files directory baseName last).get? generation =
    if generation.number ≤ last then some (slotAt files directory baseName generation)
    else none := by
  rw [probe, get?_foldl_probeOne]
  simp only [mem_generationsUpTo_iff]
  rfl

theorem ascending_generationsUpTo (last : Nat) :
    (generationsUpTo last).Pairwise fun a b => compare a b = .lt := by
  refine List.pairwise_filterMap.2 ((List.pairwise_lt_range' 1).imp ?_)
  intro m n hlt lower hlower upper hupper
  rw [Generation.compare_eq_lt, Generation.number_of_ofNat? hlower,
    Generation.number_of_ofNat? hupper]
  exact hlt

/-- The generations up to a number have just the numbers from one up to it. -/
theorem map_number_generationsUpTo (hlast : last < 4294967296) :
    (generationsUpTo last).map Generation.number = List.range' 1 last := by
  have hnumber : ∀ number ∈ List.range' 1 last,
      (Generation.ofNat? number).map Generation.number = some (id number) := by
    intro number hmem
    have := List.mem_range'_1.1 hmem
    rw [Generation.ofNat?, dif_pos (by omega)]
    rfl
  rw [generationsUpTo, List.map_filterMap, List.filterMap_eq_map_iff_forall_eq_some.2 hnumber,
    List.map_id]

/-- A probe lists the generations in order. -/
theorem keys_probe :
    (probe files directory baseName last).slots.keys = generationsUpTo last := by
  refine SortedMap.eq_of_ascending (f := id) (SortedMap.ascending_keys _)
    (ascending_generationsUpTo last) fun generation => ?_
  have hget : (probe files directory baseName last).slots.get? generation =
    if generation.number ≤ last then some (slotAt files directory baseName generation)
    else none := get?_probe
  rw [SortedMap.mem_keys_iff, hget, mem_generationsUpTo_iff]
  by_cases hle : generation.number ≤ last <;> simp [hle]

theorem eq_slotAt_of_mem_probe {slot : Slot}
    (hmem : (generation, slot) ∈ (probe files directory baseName last).toList) :
    slot = slotAt files directory baseName generation := by
  have hget : (probe files directory baseName last).get? generation = some slot :=
    SortedMap.get?_eq_some_iff.2 hmem
  rw [get?_probe] at hget
  split at hget
  · exact (Option.some.inj hget).symm
  · cases hget

theorem notMem_label {c : Char} (hstage : c ∉ "stage".toList) (hdigit : c.isDigit = false) :
    c ∉ generation.label.toList := by
  rw [Generation.toList_label, List.mem_append, not_or]
  refine ⟨hstage, fun hmem => ?_⟩
  rw [Text.isDigit_of_mem_toDigits hmem] at hdigit
  cases hdigit

/-- The name by which the compiler of a generation goes. -/
def binaryName (baseName : String) (generation : Generation) : String :=
  if generation = .first then baseName else baseName ++ "." ++ generation.label

theorem expectedPath_eq : expectedPath directory baseName generation =
    directory.join (.ofText (binaryName baseName generation)) := by
  unfold expectedPath binaryName
  split <;> rfl

theorem toList_binaryName_of_ne (hlater : generation ≠ .first) :
    (binaryName baseName generation).toList =
      baseName.toList ++ '.' :: generation.label.toList := by
  rw [binaryName, if_neg hlater]
  simp

theorem binaryName_inj :
    binaryName baseName generation = binaryName baseName other ↔ generation = other := by
  refine ⟨fun heq => ?_, fun heq => congrArg (binaryName baseName) heq⟩
  have hfirst : (binaryName baseName .first).toList = baseName.toList := rfl
  have hlists := congrArg String.toList heq
  by_cases hgeneration : generation = .first
  · by_cases hother : other = .first
    · exact hgeneration.trans hother.symm
    · rw [hgeneration, hfirst, toList_binaryName_of_ne hother] at hlists
      simp at hlists
  · by_cases hother : other = .first
    · rw [hother, hfirst, toList_binaryName_of_ne hgeneration] at hlists
      simp at hlists
    · rw [toList_binaryName_of_ne hgeneration, toList_binaryName_of_ne hother,
        List.append_cancel_left_eq] at hlists
      exact Generation.label_inj (String.toList_inj.1 (List.cons.inj hlists).2)

/-- Each compiler goes by a name that leads one step further, if the first one does. -/
theorem isStep_binaryName (hslash : '/' ∉ baseName.toList)
    (hbase : Path.IsStep (Utf8.encode baseName)) :
    Path.IsStep (Utf8.encode (binaryName baseName generation)) := by
  by_cases hfirst : generation = .first
  · rwa [binaryName, if_pos hfirst]
  · have hlabel : '/' ∉ generation.label.toList := notMem_label (by decide) (by decide)
    have hlong : 2 < (baseName.toList ++ '.' :: generation.label.toList).length := by
      rw [Generation.toList_label, List.length_append, List.length_cons, List.length_append]
      have : "stage".toList.length = 5 := by decide
      omega
    refine Path.isStep_encode ?_ ?_ ?_ ?_
    · simp [toList_binaryName_of_ne hfirst, hslash, hlabel]
    all_goals
      rw [toList_binaryName_of_ne hfirst]
      intro heq
      rw [heq] at hlong
      exact absurd hlong (by decide)

theorem isSome_text?_expectedPath (hname : '/' ∉ baseName.toList) :
    (expectedPath directory baseName generation).text?.isSome = true ↔
      directory.text?.isSome = true := by
  have hlabel : '/' ∉ generation.label.toList := notMem_label (by decide) (by decide)
  have hextended : '/' ∉ (baseName ++ "." ++ generation.label).toList := by
    simp [hname, hlabel]
  unfold expectedPath
  split
  · exact Path.isSome_text?_join (Path.isAbsolute_ofText hname) (Path.isSome_text?_ofText _)
  · exact Path.isSome_text?_join (Path.isAbsolute_ofText hextended) (Path.isSome_text?_ofText _)

/-- The places that were probed are text just if the directory is that they are in. -/
theorem paths_probe_iff (hname : '/' ∉ baseName.toList) (hlast : 1 ≤ last) :
    (∀ slot ∈ (probe files directory baseName last).slots.values,
      slot.path.text?.isSome = true) ↔ directory.text?.isSome = true := by
  rw [SortedMap.values, List.forall_mem_map]
  constructor
  · intro htexts
    have hfirst : (probe files directory baseName last).get? .first =
        some (slotAt files directory baseName .first) := by
      rw [get?_probe]
      exact if_pos hlast
    have htext := htexts _ (SortedMap.get?_eq_some_iff.1 hfirst)
    rwa [path_slotAt, isSome_text?_expectedPath hname] at htext
  · rintro htext ⟨generation, slot⟩ hmem
    have hslot : (probe files directory baseName last).get? generation = some slot :=
      SortedMap.get?_eq_some_iff.2 hmem
    rw [get?_probe] at hslot
    split at hslot
    · cases hslot
      rwa [path_slotAt, isSome_text?_expectedPath hname]
    · cases hslot

end Chain

end BootChain
