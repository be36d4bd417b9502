import BootChain.Proofs.FileSystem.Grounded
import BootChain.Proofs.FileSystem.Leaves
import Mathlib.Data.List.Perm.Subperm

namespace BootChain.FileSystem

variable {fs a b : FileSystem} {place here : Location} {node : Node} {name : Bytes}
  {names : List Bytes} {depth : Nat}

/-- What stands below a directory at any depth and is no directory itself. -/
def IsLeaf (fs : FileSystem) (place : Location) (names : List Bytes) : Prop :=
  names ≠ [] ∧ ∃ node, fs.node? (place ++ names) = some node ∧ node ≠ .dir

theorem node?_eq_some_iff (hnodup : (fs.nodes.map Prod.fst).Nodup) (hplace : place ≠ []) :
    fs.node? place = some node ↔ (place, node) ∈ fs.nodes := by
  rw [node?, if_neg hplace]
  constructor
  · intro hlookup
    obtain ⟨before, after, hnodes, -⟩ := List.lookup_eq_some_iff.1 hlookup
    simp [hnodes]
  · intro hmem
    obtain ⟨before, after, hnodes⟩ := List.append_of_mem hmem
    rw [hnodes, List.map_append, List.map_cons, List.nodup_append] at hnodup
    refine List.lookup_eq_some_iff.2 ⟨before, after, hnodes, fun entry hentry => ?_⟩
    rw [bne_iff_ne]
    exact (hnodup.2.2 entry.1 (List.mem_map_of_mem hentry) place (by simp)).symm

/-- A directory lists just the names with which there is something in it. -/
theorem mem_namesIn_iff : name ∈ fs.namesIn place ↔ (fs.node? (place ++ [name])).isSome = true := by
  rw [namesIn, List.mem_filterMap, node?, if_neg (by simp), List.lookup_isSome_iff]
  refine exists_congr fun entry => and_congr_right fun _ => ?_
  rw [beq_iff_eq]
  constructor
  · intro hlast
    split at hlast
    next hin => rw [← hin.2, List.dropLast_append_getLast? name hlast]
    next => cases hlast
  · rintro hentry
    rw [← hentry, if_pos ⟨by simp, List.dropLast_concat⟩, List.getLast?_concat]

theorem node?_of_stat {p : Path} (hstat : fs.stat p = .ok (place, node)) :
    fs.node? place = some node := by
  obtain ⟨asDirectory, hresolve⟩ := resolve_of_stat hstat
  exact node?_of_walk (resolve_eq_ok_iff.1 hresolve).2.2.2

theorem list_eq_ok_iff {p : Path} {listed : List Bytes} : fs.list p = .ok (place, listed) ↔
    fs.stat p = .ok (place, .dir) ∧ listed = fs.namesIn place := by
  rw [list]
  cases fs.stat p with
  | error e => simp [bind, Except.bind]
  | ok found =>
    obtain ⟨other, node⟩ := found
    cases node with
    | dir =>
      simp only [bind, Except.bind, Except.ok.injEq, Prod.mk.injEq, and_true]
      constructor
      · rintro ⟨rfl, rfl⟩
        exact ⟨rfl, rfl⟩
      · rintro ⟨rfl, rfl⟩
        exact ⟨rfl, rfl⟩
    | file content mode => simp [bind, Except.bind]
    | link target => simp [bind, Except.bind]
    | device device => simp [bind, Except.bind]

/-- A directory in a directory is where its name leads to from there, if its path leads anywhere. -/
theorem LeadsTo.eq_of_join {root : Path} {home : Location} (hleads : fs.LeadsTo root home)
    (hname : Path.IsName name) (hnode : fs.node? (home ++ [name]) = some .dir)
    (hjoin : fs.LeadsTo (root.join ⟨name⟩) here) : here = home ++ [name] := by
  by_cases hlong : TooLong root name
  · have hlink : ¬ fs.HasLink (home ++ [name]) := by
      rintro ⟨target, htarget⟩
      cases hnode.symm.trans htarget
    cases hjoin with
    | here hroot _ => exact absurd hroot (Path.join_ne_nil hname)
    | there hstat =>
      obtain ⟨asDirectory, hresolve⟩ := resolve_of_stat hstat
      rw [hleads.resolve_name hname fun _ => hlink, if_pos hlong] at hresolve
      cases hresolve
  · exact hjoin.unique (hleads.join hname hlong hnode)

namespace Grounded

variable (hgrounded : fs.Grounded)
include hgrounded

/-- On the way to whatever there is, there are only directories. -/
theorem dir_of_append (hnames : names ≠ []) (hnode : fs.node? (place ++ names) = some node) :
    fs.node? place = some .dir := by
  induction names using List.reverseRecOn generalizing node with
  | nil => exact absurd rfl hnames
  | append_singleton names name ih =>
    have hparent := hgrounded.parent _ _ hnode
    rw [← List.append_assoc, List.dropLast_concat] at hparent
    by_cases hnil : names = []
    · rwa [hnil, List.append_nil] at hparent
    · exact ih hnil hparent

/-- No way leads further down than there are nodes, since every step of it is to another one. -/
theorem length_le (hnode : fs.node? place = some node) : place.length ≤ fs.nodes.length := by
  let steps := (List.range place.length).map fun k => place.take (k + 1)
  have hnodup : steps.Nodup := by
    refine List.Nodup.map_on (fun k hk l hl heq => ?_) List.nodup_range
    have hlengths := congrArg List.length heq
    rw [List.mem_range] at hk hl
    rw [List.length_take, List.length_take] at hlengths
    omega
  have hsubset : steps ⊆ fs.nodes.map Prod.fst := by
    intro step hstep
    obtain ⟨k, hk, rfl⟩ := List.mem_map.1 hstep
    rw [List.mem_range] at hk
    have hne : place.take (k + 1) ≠ [] := by
      rw [← List.length_pos_iff, List.length_take]
      omega
    obtain ⟨found, hfound⟩ : ∃ found, fs.node? (place.take (k + 1)) = some found := by
      by_cases hrest : place.drop (k + 1) = []
      · rw [List.drop_eq_nil_iff] at hrest
        exact ⟨node, by rwa [List.take_of_length_le hrest]⟩
      · rw [← List.take_append_drop (k + 1) place] at hnode
        exact ⟨.dir, hgrounded.dir_of_append hrest hnode⟩
    rw [node?, if_neg hne] at hfound
    obtain ⟨before, after, hnodes, -⟩ := List.lookup_eq_some_iff.1 hfound
    simp [hnodes]
  have hle := (hnodup.subperm hsubset).length_le
  simpa [steps] using hle

/-- A walk that may go as deep as there are nodes finds whatever there is. -/
theorem mem_leavesWithin_iff (hdir : fs.node? place = some .dir)
    (hdepth : fs.nodes.length ≤ place.length + depth) :
    names ∈ fs.leavesWithin depth place ↔ fs.IsLeaf place names := by
  induction depth generalizing place names with
  | zero =>
    refine ⟨fun hmem => absurd hmem List.not_mem_nil, ?_⟩
    rintro ⟨hnames, node, hnode, -⟩
    have hle := hgrounded.length_le hnode
    have hpos := List.length_pos_iff.2 hnames
    rw [List.length_append] at hle
    omega
  | succ depth ih =>
    have hdeeper : ∀ name : Bytes, fs.nodes.length ≤ (place ++ [name]).length + depth := by
      intro name
      rw [List.length_append, List.length_singleton]
      omega
    rw [leavesWithin, List.mem_flatMap]
    constructor
    · rintro ⟨name, -, hmem⟩
      split at hmem
      next hnode =>
        obtain ⟨rest, hrest, rfl⟩ := List.mem_map.1 hmem
        obtain ⟨-, node, hfound, hne⟩ := (ih hnode (hdeeper name)).1 hrest
        rw [List.append_assoc] at hfound
        exact ⟨List.cons_ne_nil _ _, node, hfound, hne⟩
      next node hne hnode =>
        cases List.mem_singleton.1 hmem
        exact ⟨List.cons_ne_nil _ _, node, hnode, hne⟩
      next => cases hmem
    · rintro ⟨hnames, node, hnode, hne⟩
      obtain ⟨name, rest, rfl⟩ := List.exists_cons_of_ne_nil hnames
      have hsplit : place ++ name :: rest = (place ++ [name]) ++ rest := by simp
      by_cases hrest : rest = []
      · subst hrest
        refine ⟨name, mem_namesIn_iff.2 (by rw [hnode]; rfl), ?_⟩
        rw [hnode]
        cases node with
        | dir => exact absurd rfl hne
        | file content mode => exact List.mem_singleton_self _
        | link target => exact List.mem_singleton_self _
        | device device => exact List.mem_singleton_self _
      · rw [hsplit] at hnode
        have hhere := hgrounded.dir_of_append hrest hnode
        refine ⟨name, mem_namesIn_iff.2 (by rw [hhere]; rfl), ?_⟩
        rw [hhere]
        exact List.mem_map_of_mem ((ih hhere (hdeeper name)).2 ⟨hrest, node, hnode, hne⟩)

/-- Being allowed to go deeper than there are nodes makes no difference to a walk. -/
theorem leavesWithin_add (more : Nat) (hdir : fs.node? place = some .dir)
    (hdepth : fs.nodes.length ≤ place.length + depth) :
    fs.leavesWithin (depth + more) place = fs.leavesWithin depth place := by
  induction depth generalizing place with
  | zero =>
    refine List.eq_nil_iff_forall_not_mem.2 fun names hmem => ?_
    rw [hgrounded.mem_leavesWithin_iff hdir (by omega),
      ← hgrounded.mem_leavesWithin_iff hdir hdepth] at hmem
    exact List.not_mem_nil hmem
  | succ depth ih =>
    rw [Nat.add_right_comm, leavesWithin, leavesWithin]
    refine List.flatMap_congr fun name _ => ?_
    split
    next hnode =>
      rw [ih hnode]
      rw [List.length_append, List.length_singleton]
      omega
    next => rfl
    next => rfl

end Grounded

section

variable (hsame : AgreeOff [] a b)
include hsame

theorem AgreeOff.node?_congr (place : Location) : a.node? place = b.node? place :=
  hsame.node?_eq place List.not_mem_nil

theorem AgreeOff.walkPieces_congr {follow : Bool} {pieces : List Bytes}
    {onLink onOtherLink : Location → Path → List Bytes → Except IoError Target}
    (honLink : ∀ here target rest, onLink here target rest = onOtherLink here target rest) :
    a.walkPieces follow onLink here pieces = b.walkPieces follow onOtherLink here pieces := by
  induction pieces generalizing here with
  | nil => rw [walkPieces, walkPieces, hsame.node?_congr]
  | cons piece rest ih =>
    simp only [walkPieces_cons, passage, hsame.node?_congr, ih, honLink]

theorem AgreeOff.walk_congr {follow : Bool} {budget : Nat} {pieces : List Bytes} :
    a.walk follow budget here pieces = b.walk follow budget here pieces := by
  induction budget generalizing here pieces with
  | zero => exact hsame.walkPieces_congr fun _ _ _ => rfl
  | succ budget ih => exact hsame.walkPieces_congr fun _ _ _ => ih

/-- A path leads to the same, wherever the same stands at every place. -/
theorem AgreeOff.stat_congr (p : Path) : a.stat p = b.stat p := by
  rw [stat, stat, resolve, resolve, hsame.workingDirectory_eq, hsame.walk_congr]

end

theorem agreeOff_of_perm (hnodup : (a.nodes.map Prod.fst).Nodup) (hperm : b.nodes.Perm a.nodes)
    (hworking : b.workingDirectory = a.workingDirectory) : AgreeOff [] b a where
  workingDirectory_eq := hworking
  node?_eq place _ := by
    by_cases hroot : place = []
    · rw [hroot, node?, node?, if_pos rfl, if_pos rfl]
    · refine Option.ext fun node => ?_
      rw [node?_eq_some_iff hnodup hroot, ← hperm.mem_iff]
      exact node?_eq_some_iff ((hperm.map _).nodup_iff.2 hnodup) hroot

/-- Directories may list their entries in any order. -/
theorem Orderly.of_perm (horderly : a.Orderly) (hperm : b.nodes.Perm a.nodes) : b.Orderly where
  nodup := (hperm.map _).nodup_iff.2 horderly.nodup
  isName entry hmem := horderly.isName entry (hperm.mem_iff.1 hmem)

theorem Grounded.congr (hgrounded : a.Grounded) (hsame : AgreeOff [] b a) : b.Grounded where
  parent place node hnode := by
    rw [hsame.node?_congr] at hnode ⊢
    exact hgrounded.parent place node hnode
  working := by
    rw [hsame.node?_congr, hsame.workingDirectory_eq]
    exact hgrounded.working

/-- Walks through the same tree find the same, though perhaps in another order. -/
theorem Grounded.leavesWithin_perm (hgrounded : a.Grounded) (horderly : a.Orderly)
    (horderly' : b.Orderly) (hsame : AgreeOff [] b a) (hdir : a.node? place = some .dir)
    {depth' : Nat} (hdepth : a.nodes.length ≤ place.length + depth)
    (hdepth' : b.nodes.length ≤ place.length + depth') :
    (b.leavesWithin depth' place).Perm (a.leavesWithin depth place) := by
  rw [List.perm_ext_iff_of_nodup (horderly'.nodup_leavesWithin _ _)
    (horderly.nodup_leavesWithin _ _)]
  intro names
  rw [hgrounded.mem_leavesWithin_iff hdir hdepth,
    (hgrounded.congr hsame).mem_leavesWithin_iff (by rwa [hsame.node?_congr]) hdepth', IsLeaf,
    IsLeaf]
  simp only [hsame.node?_congr]

end BootChain.FileSystem
