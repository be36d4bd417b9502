import BootChain.Proofs.FileSystem
import Mathlib.Data.List.Nodup

namespace BootChain.FileSystem

variable {fs : FileSystem} {place directory : Location} {node : Node} {name : Bytes}
  {names : List Bytes} {depth : Nat}

/-- What stands below a directory and is no directory itself, at most `depth` levels down: each
    by the names on the way to it. Symbolic links are such and are not followed. -/
def leavesWithin (fs : FileSystem) : Nat → Location → List (List Bytes)
  | 0, _ => []
  | depth + 1, here =>
    (fs.namesIn here).flatMap fun name =>
      match fs.node? (here ++ [name]) with
      | some .dir => (leavesWithin fs depth (here ++ [name])).map (name :: ·)
      | some _ => [[name]]
      | none => []

/-- A tree as there is one: no two nodes stand at one place, and every step down is a name. -/
structure Orderly (fs : FileSystem) : Prop where
  nodup : (fs.nodes.map Prod.fst).Nodup
  isName : ∀ entry ∈ fs.nodes, ∀ piece ∈ entry.1, Path.IsName piece

namespace Orderly

variable (horderly : fs.Orderly)
include horderly

theorem put (hplace : ∀ piece ∈ place, Path.IsName piece) : (fs.put place node).Orderly := by
  obtain ⟨hnodup, hname⟩ := horderly
  unfold FileSystem.put
  split
  next =>
    have hplaces : (fs.nodes.map fun entry => if entry.1 = place then (place, node) else entry).map
        Prod.fst = fs.nodes.map Prod.fst := by
      rw [List.map_map]
      refine List.map_congr_left fun entry _ => ?_
      rw [Function.comp_apply]
      split
      next heq => exact heq.symm
      next => rfl
    constructor
    · rwa [hplaces]
    · intro entry hmem
      obtain ⟨old, hold, rfl⟩ := List.mem_map.1 hmem
      split
      · exact hplace
      · exact hname old hold
  next hfree =>
    have hnew : place ∉ fs.nodes.map Prod.fst := by
      intro hmem
      obtain ⟨entry, hentry, rfl⟩ := List.mem_map.1 hmem
      have hsome : (fs.nodes.lookup entry.1).isSome = true := by
        rw [List.lookup_isSome_iff]
        exact ⟨entry, hentry, beq_self_eq_true _⟩
      exact hfree hsome
    constructor
    · rw [List.map_append, List.map_cons, List.map_nil, List.nodup_append]
      refine ⟨hnodup, List.nodup_singleton _, fun other hother last hlast => ?_⟩
      rw [List.mem_singleton.1 hlast]
      rintro rfl
      exact hnew hother
    · intro entry hmem
      rcases List.mem_append.1 hmem with hmem | hmem
      · exact hname entry hmem
      · cases List.mem_singleton.1 hmem
        exact hplace

theorem isName_of_mem_namesIn (hmem : name ∈ fs.namesIn directory) : Path.IsName name := by
  rw [namesIn, List.mem_filterMap] at hmem
  obtain ⟨entry, hentry, hlast⟩ := hmem
  split at hlast
  · exact horderly.isName entry hentry name (List.mem_of_getLast? hlast)
  · cases hlast

theorem nodup_namesIn (directory : Location) : (fs.namesIn directory).Nodup := by
  have hplaces : fs.namesIn directory = (fs.nodes.map Prod.fst).filterMap fun place =>
      if place ≠ [] ∧ place.dropLast = directory then place.getLast? else none := by
    rw [namesIn, List.filterMap_map]
    rfl
  rw [hplaces]
  -- A place is told by the directory it is in and its name there.
  refine List.Nodup.filterMap (fun first second name hfirst hsecond => ?_) horderly.nodup
  rw [Option.mem_def] at hfirst hsecond
  split at hfirst
  next hin =>
    split at hsecond
    next hin' =>
      rw [← List.dropLast_append_getLast? name hfirst, ← List.dropLast_append_getLast? name hsecond,
        hin.2, hin'.2]
    next => cases hsecond
  next => cases hfirst

theorem isName_of_mem_leavesWithin (hmem : names ∈ fs.leavesWithin depth place) :
    names ≠ [] ∧ ∀ name ∈ names, Path.IsName name := by
  induction depth generalizing place names with
  | zero => cases hmem
  | succ depth ih =>
    rw [leavesWithin, List.mem_flatMap] at hmem
    obtain ⟨name, hname, hmem⟩ := hmem
    have hisName := horderly.isName_of_mem_namesIn hname
    split at hmem
    next =>
      obtain ⟨rest, hrest, rfl⟩ := List.mem_map.1 hmem
      exact ⟨List.cons_ne_nil _ _, List.forall_mem_cons.2 ⟨hisName, (ih hrest).2⟩⟩
    next =>
      cases List.mem_singleton.1 hmem
      exact ⟨List.cons_ne_nil _ _, List.forall_mem_cons.2 ⟨hisName, by simp⟩⟩
    next => cases hmem

/-- No file is found twice, at whatever depth the walk stops. -/
theorem nodup_leavesWithin (depth : Nat) (place : Location) :
    (fs.leavesWithin depth place).Nodup := by
  induction depth generalizing place with
  | zero => exact List.nodup_nil
  | succ depth ih =>
    rw [leavesWithin, List.nodup_flatMap]
    constructor
    · intro name hname
      split
      · exact (ih _).map fun first second heq => (List.cons.inj heq).2
      · exact List.nodup_singleton _
      · exact List.nodup_nil
    · -- What is found below a name starts with the name, so names keep their finds apart.
      refine (horderly.nodup_namesIn place).imp ?_
      refine fun {first second} hne names hfirst hsecond => hne ?_
      have hhead : ∀ {name : Bytes}, names ∈ (match fs.node? (place ++ [name]) with
          | some .dir => (fs.leavesWithin depth (place ++ [name])).map (name :: ·)
          | some _ => [[name]]
          | none => []) → names.head? = some name := by
        intro name hmem
        split at hmem
        next =>
          obtain ⟨rest, -, rfl⟩ := List.mem_map.1 hmem
          rfl
        next =>
          cases List.mem_singleton.1 hmem
          rfl
        next => cases hmem
      exact Option.some.inj ((hhead hfirst).symm.trans (hhead hsecond))

end Orderly

end BootChain.FileSystem
