import BootChain.Proofs.Chain
import Mathlib.Data.List.Induction

namespace BootChain.Chain

variable {chain : Chain} {generation : Generation} {slot : Slot}

/-- One change to a chain. -/
inductive Edit where
  | addAvailable (stage : Stage)
  | addMissing (generation : Generation) (expectedPath : Path)
  | restrictTo (generations : List Generation)
  deriving DecidableEq, Repr

namespace Edit

def apply (chain : Chain) : Edit → Chain
  | addAvailable stage => chain.addAvailable stage
  | addMissing generation path => chain.addMissing generation path
  | restrictTo generations => chain.restrictTo generations

/-- What an edit records, and under which generation. -/
def record? : Edit → Option (Generation × Slot)
  | addAvailable stage => some (stage.generation, .available stage)
  | addMissing generation path => some (generation, .missing path)
  | restrictTo _ => none

/-- True of an edit that records something under a generation or leaves the generation out. -/
def concerns (generation : Generation) : Edit → Bool
  | addAvailable stage => generation = stage.generation
  | addMissing other _ => generation = other
  | restrictTo generations => !generations.contains generation

theorem concerns_of_record? {edit : Edit} (hrecord : edit.record? = some (generation, slot)) :
    edit.concerns generation = true := by
  cases edit with
  | addAvailable stage =>
    cases hrecord
    simp [concerns]
  | addMissing other path =>
    cases hrecord
    simp [concerns]
  | restrictTo generations => cases hrecord

/-- What an edit records under a generation that it concerns stands under that generation. -/
theorem map_record?_iff {edit : Edit} (hconcerns : edit.concerns generation = true) :
    edit.record?.map Prod.snd = some slot ↔ edit.record? = some (generation, slot) := by
  cases edit with
  | addAvailable stage =>
    have hgeneration : generation = stage.generation := by simpa [concerns] using hconcerns
    simp [record?, hgeneration]
  | addMissing other path =>
    have hgeneration : generation = other := by simpa [concerns] using hconcerns
    simp [record?, hgeneration]
  | restrictTo generations => simp [record?]

/-- An edit says what stands under the generations that it concerns, and nothing about others. -/
theorem get?_apply (chain : Chain) (edit : Edit) (generation : Generation) :
    (edit.apply chain).get? generation =
      if edit.concerns generation then edit.record?.map Prod.snd else chain.get? generation := by
  cases edit with
  | addAvailable stage =>
    refine (SortedMap.get?_insert _ _ _ _).trans ?_
    simp [concerns, record?, get?]
  | addMissing other path =>
    refine (SortedMap.get?_insert _ _ _ _).trans ?_
    simp [concerns, record?, get?]
  | restrictTo generations =>
    refine (SortedMap.get?_filterKeys _ _ _).trans ?_
    cases hlisted : generations.contains generation <;> simp only [concerns, hlisted] <;> rfl

end Edit

/-- The chain that some edits make of the empty one, the first of them first. -/
def ofEdits (edits : List Edit) : Chain := edits.foldl Edit.apply empty

theorem ofEdits_concat (edits : List Edit) (last : Edit) :
    ofEdits (edits ++ [last]) = last.apply (ofEdits edits) := by
  rw [ofEdits, ofEdits, List.foldl_append]
  rfl

/-- The edit that put a slot where it stands: no later one concerns the generation. -/
def PutBy (edits : List Edit) (generation : Generation) (slot : Slot) : Prop :=
  ∃ before edit after, edits = before ++ edit :: after ∧
    edit.record? = some (generation, slot) ∧ ∀ later ∈ after, later.concerns generation = false

theorem not_putBy_nil : ¬ PutBy [] generation slot := by
  rintro ⟨before, edit, after, heq, -⟩
  simp at heq

/-- A slot was put by the last edit if that concerns its generation, else by one before. -/
theorem putBy_concat_iff {edits : List Edit} {last : Edit} :
    PutBy (edits ++ [last]) generation slot ↔
      if last.concerns generation then last.record?.map Prod.snd = some slot
      else PutBy edits generation slot := by
  constructor
  · rintro ⟨before, edit, after, hedits, hrecord, hlater⟩
    obtain rfl | ⟨inner, final, rfl⟩ := List.eq_nil_or_concat after
    · obtain ⟨-, rfl⟩ := List.append_singleton_inj.1 hedits
      rw [if_pos (Edit.concerns_of_record? hrecord), hrecord]
      rfl
    · rw [List.concat_eq_append, ← List.cons_append, ← List.append_assoc] at hedits
      obtain ⟨rfl, rfl⟩ := List.append_singleton_inj.1 hedits
      have hlast : last.concerns generation = false := hlater last (by simp)
      rw [hlast, if_neg Bool.false_ne_true]
      exact ⟨before, edit, inner, rfl, hrecord, fun later hmem => hlater later (by simp [hmem])⟩
  · intro hput
    split at hput
    next hconcerns => exact ⟨edits, last, [], rfl, (Edit.map_record?_iff hconcerns).1 hput, nofun⟩
    next hconcerns =>
      obtain ⟨before, edit, after, rfl, hrecord, hlater⟩ := hput
      refine ⟨before, edit, after ++ [last], by simp, hrecord, fun later hmem => ?_⟩
      rcases List.mem_append.1 hmem with hmem | hmem
      · exact hlater later hmem
      · rw [List.mem_singleton.1 hmem]
        simpa using hconcerns

/-- The slot of each generation is the one that was put there last. -/
theorem get?_ofEdits_iff (edits : List Edit) (generation : Generation) (slot : Slot) :
    (ofEdits edits).get? generation = some slot ↔ PutBy edits generation slot := by
  induction edits using List.reverseRecOn with
  | nil => exact iff_of_false nofun not_putBy_nil
  | append_singleton edits last ih =>
    rw [ofEdits_concat, Edit.get?_apply, putBy_concat_iff]
    split
    · exact Iff.rfl
    · exact ih

theorem has_restrictTo_iff {generations : List Generation} :
    (chain.restrictTo generations).Has generation ↔
      chain.Has generation ∧ generation ∈ generations := by
  have hget := Edit.get?_apply chain (.restrictTo generations) generation
  by_cases hlisted : generation ∈ generations
  · simp_all [Has, Edit.apply, Edit.concerns]
  · simp_all [Has, Edit.apply, Edit.concerns, Edit.record?]

theorem links_restrictTo (chain : Chain) (generations : List Generation) :
    (chain.restrictTo generations).links =
      chain.links.filter fun link => link.1 ∈ generations ∧ link.2 ∈ generations := by
  have hlinks : (chain.restrictTo generations).links = chain.links.filter fun link =>
      generations.contains link.1 && generations.contains link.2 :=
    links_eq_filter fun generation => by rw [has_restrictTo_iff, List.contains_iff_mem]
  rw [hlinks]
  simp

/-- A chain that is as some edits say. -/
structure Records (edits : List Edit) (chain : Chain) : Prop where
  /-- Under each generation stands what was last put there and not left out since. -/
  get?_iff : ∀ generation slot,
    chain.get? generation = some slot ↔ PutBy edits generation slot
  /-- A compiler that is there stands under its own generation. -/
  generation_eq : ∀ generation stage,
    chain.get? generation = some (.available stage) → stage.generation = generation
  mem_available_iff : ∀ stage,
    stage ∈ chain.available ↔ chain.get? stage.generation = some (.available stage)
  available_ascending :
    chain.available.Pairwise fun a b => a.generation.number < b.generation.number
  mem_links_iff : ∀ lower upper, (lower, upper) ∈ chain.links ↔
    upper.number = lower.number + 1 ∧
      lower ∈ chain.available.map Stage.generation ∧ upper ∈ chain.available.map Stage.generation
  links_ascending : chain.links.Pairwise fun a b => a.1.number < b.1.number
  links_restrictTo : ∀ generations, (chain.restrictTo generations).links =
    chain.links.filter fun link => link.1 ∈ generations ∧ link.2 ∈ generations

/-- Every chain that edits make is as they say: the last slot put under a generation stands there,
    and the links are the pairs of neighbours that are both there, whatever lies between others. -/
theorem records_ofEdits (edits : List Edit) : Records edits (ofEdits edits) where
  get?_iff := get?_ofEdits_iff edits
  generation_eq generation stage hstage := by
    obtain ⟨-, edit, -, -, hrecord, -⟩ := (get?_ofEdits_iff edits generation _).1 hstage
    cases edit with
    | addAvailable added =>
      cases hrecord
      rfl
    | addMissing other path => cases hrecord
    | restrictTo generations => cases hrecord
  mem_available_iff _ := mem_available_iff
  available_ascending := by
    refine (List.pairwise_map.1 (ascending_available _)).imp fun hlt => ?_
    exact Generation.compare_eq_lt.1 hlt
  mem_links_iff lower upper := by
    rw [mem_links_iff, mem_map_available_iff, mem_map_available_iff]
    exact ⟨fun ⟨hlower, hupper, hnext⟩ => ⟨hnext, hlower, hupper⟩,
      fun ⟨hnext, hlower, hupper⟩ => ⟨hlower, hupper, hnext⟩⟩
  links_ascending := (ascending_links _).imp fun hlt => Generation.compare_eq_lt.1 hlt
  links_restrictTo := links_restrictTo _

end BootChain.Chain
