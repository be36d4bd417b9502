import BootChain.Proofs.Except
import BootChain.Proofs.Report.Status

namespace BootChain

/-- A value has a form that can be written down. -/
def Encodes {α : Type} (form : Except EncodeError α) : Prop := ∃ value, form = .ok value

section

variable {α β : Type}

@[simp]
theorem encodes_pure (value : α) : Encodes (pure value) := ⟨value, rfl⟩

/-- Where what comes next does not depend on the form of a first part, both have to have one. -/
theorem encodes_bind_iff {form : Except EncodeError α} {next : α → Except EncodeError β} {p : Prop}
    (hnext : ∀ value, Encodes (next value) ↔ p) : Encodes (form >>= next) ↔ Encodes form ∧ p := by
  cases form with
  | error cause => exact iff_of_false nofun fun ⟨hform, _⟩ => nomatch hform
  | ok value => exact (hnext value).trans (and_iff_right ⟨value, rfl⟩).symm

theorem encodes_bind_pure_iff {form : Except EncodeError α} {f : α → β} :
    Encodes (form >>= fun value => pure (f value)) ↔ Encodes form := by
  rw [encodes_bind_iff fun value => iff_true_intro (encodes_pure (f value)), and_true]

theorem encodes_mapM_iff {f : α → Except EncodeError β} {list : List α} :
    Encodes (list.mapM f) ↔ ∀ value ∈ list, Encodes (f value) :=
  Except.exists_mapM_eq_ok_iff

end

theorem Path.encodes_json_iff {path : Path} : Encodes path.json ↔ path.text?.isSome = true := by
  unfold json
  split
  next text htext => simp [htext, Encodes]
  next hnone => simp [hnone, Encodes]

theorem Slot.encodes_json_iff {slot : Slot} :
    Encodes slot.json ↔ slot.path.text?.isSome = true := by
  rw [← Path.encodes_json_iff]
  cases slot with
  | available stage => exact encodes_bind_pure_iff
  | missing path => exact encodes_bind_pure_iff

theorem Chain.encodes_json_iff {chain : Chain} :
    Encodes chain.json ↔ ∀ slot ∈ chain.slots.values, slot.path.text?.isSome = true := by
  rw [json, encodes_bind_pure_iff, encodes_mapM_iff, SortedMap.values, List.forall_mem_map]
  refine forall₂_congr fun entry _ => ?_
  rw [← Slot.encodes_json_iff]
  exact encodes_bind_pure_iff

/-- The path that a cause of failure names. -/
def Cause.path? : Cause → Option Path
  | .notWritten path => some path
  | _ => none

theorem Cause.encodes_json_iff {cause : Cause} :
    Encodes cause.json ↔ ∀ path ∈ cause.path?, path.text?.isSome = true := by
  cases cause with
  | notWritten path =>
    simp only [path?, Option.mem_some_iff, forall_eq', ← Path.encodes_json_iff]
    exact encodes_bind_pure_iff
  | _ => exact iff_of_true ⟨_, rfl⟩ nofun

/-- The path that a trial names in its failure. -/
def Trial.path? (trial : Trial) : Option Path :=
  trial.failure.bind fun failure => failure.cause.path?

theorem Trial.encodes_json_iff {trial : Trial} :
    Encodes trial.json ↔ ∀ path ∈ trial.path?, path.text?.isSome = true := by
  unfold json path?
  cases trial.failure with
  | none => exact iff_of_true ⟨_, rfl⟩ nofun
  | some failure =>
    refine encodes_bind_pure_iff.trans ?_
    exact encodes_bind_pure_iff.trans Cause.encodes_json_iff

/-- The path that a cell names: that of a compiler that is missing, or of a product that was not
    written. -/
def Cell.path? : Cell → Option Path
  | .notEvaluated path => some path
  | .skipped => none
  | .evaluated trial _ => trial.path?

theorem Cell.encodes_json_iff {cell : Cell} :
    Encodes cell.json ↔ ∀ path ∈ cell.path?, path.text?.isSome = true := by
  cases cell with
  | notEvaluated path =>
    simp only [path?, Option.mem_some_iff, forall_eq', ← Path.encodes_json_iff]
    exact encodes_bind_pure_iff
  | skipped => exact iff_of_true ⟨_, rfl⟩ nofun
  | evaluated trial matchesExpected => exact encodes_bind_pure_iff.trans Trial.encodes_json_iff

namespace Report

theorem encodes_json_iff {report : Report} : Encodes report.json ↔
    ∀ cell ∈ report.allCells, ∀ path ∈ cell.path?, path.text?.isSome = true := by
  rw [json, encodes_bind_pure_iff, encodes_mapM_iff, allCells, List.forall_mem_flatMap,
    SortedMap.values, List.forall_mem_map]
  refine forall₂_congr fun entry _ => encodes_bind_pure_iff.trans ?_
  rw [encodes_mapM_iff, SortedMap.values, List.forall_mem_map]
  exact forall₂_congr fun _ _ => encodes_bind_pure_iff.trans Cell.encodes_json_iff

/-- The document of a run can be written just if each path in it is text. -/
theorem encodes_canonicalText_iff {chain : Chain} {report : Report} :
    Encodes (report.canonicalText chain) ↔
      (∀ slot ∈ chain.slots.values, slot.path.text?.isSome = true) ∧
        ∀ cell ∈ report.allCells, ∀ path ∈ cell.path?, path.text?.isSome = true := by
  rw [canonicalText, encodes_bind_pure_iff, document,
    encodes_bind_iff fun _ => encodes_bind_pure_iff, Chain.encodes_json_iff, encodes_json_iff]

end Report

end BootChain
