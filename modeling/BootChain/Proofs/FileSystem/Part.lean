import BootChain.Proofs.FileSystem.Walk

namespace BootChain.FileSystem

/-- What the first file system holds, the second holds too. -/
structure PartOf (a b : FileSystem) : Prop where
  workingDirectory_eq : a.workingDirectory = b.workingDirectory
  node?_eq : ∀ place node, a.node? place = some node → b.node? place = some node

/-- What stands at a path. A symbolic link at the end of the path stands for itself. -/
def occupant? (fs : FileSystem) (p : Path) : Option Node :=
  match fs.resolve false p with
  | .ok (.found _ node _) => some node
  | _ => none

/-- The files after an attempt to remove one of them. -/
def sweep (fs : FileSystem) (p : Path) : FileSystem :=
  match fs.removeFile p with
  | .ok later => later
  | .error _ => fs

variable {fs a b c later : FileSystem} {place here : Location} {node : Node} {p root : Path}
  {name : Bytes} {follow asDirectory : Bool} {pieces : List Bytes}

theorem PartOf.refl (fs : FileSystem) : fs.PartOf fs := ⟨rfl, fun _ _ => id⟩

theorem PartOf.trans (hab : a.PartOf b) (hbc : b.PartOf c) : a.PartOf c where
  workingDirectory_eq := hab.workingDirectory_eq.trans hbc.workingDirectory_eq
  node?_eq place node hnode := hbc.node?_eq place node (hab.node?_eq place node hnode)

/-- Where there is more than before, there was nothing. -/
theorem PartOf.node?_eq_none (hab : a.PartOf b) (hne : b.node? place ≠ a.node? place) :
    a.node? place = none := by
  cases hnode : a.node? place with
  | none => rfl
  | some node => exact absurd ((hab.node?_eq _ _ hnode).trans hnode.symm) hne

theorem partOf_erase (hplace : place ≠ []) : (fs.erase place).PartOf fs where
  workingDirectory_eq := rfl
  node?_eq other found hfound := by
    rw [node?_erase hplace] at hfound
    split at hfound
    · cases hfound
    · exact hfound

theorem partOf_put (hplace : place ≠ []) (hfree : fs.node? place = none) :
    fs.PartOf (fs.put place node) where
  workingDirectory_eq := workingDirectory_put.symm
  node?_eq other found hfound := by
    rw [node?_put hplace, if_neg]
    · exact hfound
    · rintro rfl
      cases hfree.symm.trans hfound

section

variable (hab : a.PartOf b)
include hab

/-- Where there is more, a name leads to what it did, unless it was free. -/
theorem PartOf.passage_eq {piece : Bytes} {found : Passage} (hpassage : a.passage here piece = found)
    (hfree : found ≠ .free) : b.passage here piece = found := by
  obtain ⟨_, -, hall⟩ | hname := passage_cases here piece
  · rw [hall, ← hall a, hpassage]
  · rw [hname] at hpassage ⊢
    cases hnode : a.node? (here ++ [piece]) with
    | none =>
      rw [hnode] at hpassage
      exact absurd hpassage.symm hfree
    | some node =>
      rw [hab.node?_eq _ _ hnode, ← hnode]
      exact hpassage

theorem PartOf.walks {budget : Nat}
    (hwalks : a.Walks follow budget here pieces (.found place node asDirectory)) :
    b.Walks follow budget here pieces (.found place node asDirectory) := by
  generalize htarget : Target.found place node asDirectory = target at hwalks ⊢
  induction hwalks with
  | arrived hnode => exact .arrived (hab.node?_eq _ _ hnode)
  | on hpassage _ ih => exact .on (hab.passage_eq hpassage nofun) (ih htarget)
  | linked hpassage hstay => exact .linked (hab.passage_eq hpassage nofun) hstay
  | followed hpassage hstay _ ih =>
    exact .followed (hab.passage_eq hpassage nofun) hstay (ih htarget)
  | blocked hpassage hidle => exact .blocked (hab.passage_eq hpassage nofun) hidle
  | free => cases htarget

/-- What a path leads to, it leads to where there is more. -/
theorem PartOf.resolve_found (hfound : a.resolve follow p = .ok (.found place node asDirectory)) :
    b.resolve follow p = .ok (.found place node asDirectory) := by
  obtain ⟨hnul, hne, hlength, hwalk⟩ := resolve_eq_ok_iff.1 hfound
  rw [hab.workingDirectory_eq] at hwalk
  exact resolve_eq_ok_iff.2
    ⟨hnul, hne, hlength, walk_eq_ok_iff.2 (hab.walks (walk_eq_ok_iff.1 hwalk))⟩

end

theorem occupant?_eq_some_iff : fs.occupant? p = some node ↔
    ∃ place asDirectory, fs.resolve false p = .ok (.found place node asDirectory) := by
  rw [occupant?]
  split
  next place found asDirectory hresolve => simp [hresolve]
  next hother =>
    constructor
    · nofun
    · rintro ⟨place, asDirectory, hresolve⟩
      exact absurd hresolve (hother place node asDirectory)

theorem PartOf.occupant?_eq (hab : a.PartOf b) (hoccupant : a.occupant? p = some node) :
    b.occupant? p = some node := by
  obtain ⟨place, asDirectory, hresolve⟩ := occupant?_eq_some_iff.1 hoccupant
  exact occupant?_eq_some_iff.2 ⟨place, asDirectory, hab.resolve_found hresolve⟩

/-- What is removed is the file or the link at the end of the path. -/
theorem removeFile_eq_ok_iff : fs.removeFile p = .ok later ↔
    ∃ place node, fs.resolve false p = .ok (.found place node false) ∧ node ≠ .dir ∧
      later = fs.erase place := by
  rw [removeFile]
  cases hresolve : fs.resolve false p with
  | error e => simp [bind, Except.bind]
  | ok target =>
    cases target with
    | free place asDirectory => simp [bind, Except.bind]
    | found place node asDirectory =>
      cases node <;> cases asDirectory <;> simp [bind, Except.bind, eq_comm]

theorem node?_of_resolve (hfound : fs.resolve follow p = .ok (.found place node asDirectory)) :
    fs.node? place = some node :=
  node?_of_walk (resolve_eq_ok_iff.1 hfound).2.2.2

theorem ne_nil_of_node? (hnode : fs.node? place = some node) (hne : node ≠ .dir) : place ≠ [] := by
  rintro rfl
  exact hne (Option.some.inj hnode).symm

/-- Behind a last piece that is not empty, nothing can be left idle. -/
theorem isEmpty_of_idle {piece : Bytes} {rest : List Bytes}
    (hlast : ∀ last ∈ (piece :: rest).getLast?, last ≠ []) (hidle : Idle rest) :
    rest.isEmpty = true := by
  cases rest with
  | nil => rfl
  | cons first others =>
    have hend := List.getLast?_eq_getLast_of_ne_nil (List.cons_ne_nil first others)
    rw [List.getLast?_cons_cons] at hlast
    exact absurd (hidle _ (List.getLast_mem _)) (hlast _ hend)

/-- A walk that ends with a name and follows no link there asks for no directory. -/
theorem Walks.not_asDirectory {budget : Nat}
    (hwalks : fs.Walks false budget here pieces (.found place node asDirectory))
    (hlast : ∀ last ∈ pieces.getLast?, last ≠ []) : asDirectory = false := by
  generalize htarget : Target.found place node asDirectory = target at hwalks
  induction hwalks with
  | arrived =>
    cases htarget
    rfl
  | @on _ _ _ piece rest _ _ _ ih =>
    by_cases hrest : rest = []
    · exact ih (by simp [hrest]) htarget
    · rw [List.getLast?_cons_of_ne_nil hrest] at hlast
      exact ih hlast htarget
  | linked _ hstay =>
    cases htarget
    rw [isEmpty_of_idle hlast hstay.1]
    rfl
  | @followed _ _ piece rest _ _ _ hstay _ ih =>
    have hrest : rest ≠ [] := by
      rintro rfl
      exact hstay ⟨nofun, rfl⟩
    rw [List.getLast?_cons_of_ne_nil hrest] at hlast
    exact ih (by rwa [List.getLast?_append_of_ne_nil _ hrest]) htarget
  | blocked _ hidle =>
    cases htarget
    rw [isEmpty_of_idle hlast hidle]
    rfl
  | free => cases htarget

theorem not_asDirectory_of_resolve (hname : Path.IsName name)
    (hresolve : fs.resolve false (root.join ⟨name⟩) = .ok (.found place node asDirectory)) :
    asDirectory = false := by
  obtain ⟨-, -, -, hwalk⟩ := resolve_eq_ok_iff.1 hresolve
  have hlast : ∀ last ∈ (Path.segments (root.join ⟨name⟩).bytes).getLast?, last ≠ [] := by
    by_cases hroot : root.bytes = []
    · rw [Path.join_of_nil hname.slash_notMem hroot, Path.segments_of_slash_notMem hname.slash_notMem]
      simp [hname.ne_nil]
    · obtain ⟨pieces, idle, -, -, hsegments⟩ := Path.segments_join hname hroot
      rw [hsegments, List.getLast?_concat]
      simp [hname.ne_nil]
  exact (walk_eq_ok_iff.1 hwalk).not_asDirectory hlast

theorem sweep_partOf (fs : FileSystem) (p : Path) : (fs.sweep p).PartOf fs := by
  rw [sweep]
  split
  next later hremoved =>
    obtain ⟨place, node, hresolve, hdir, rfl⟩ := removeFile_eq_ok_iff.1 hremoved
    exact partOf_erase (ne_nil_of_node? (node?_of_resolve hresolve) hdir)
  next => exact .refl fs

/-- An attempt to remove a file changes at most the place where the path leads. There was something
    there that is no directory, and it is gone. -/
theorem of_node?_sweep_ne (hne : (fs.sweep p).node? place ≠ fs.node? place) :
    ∃ node, fs.resolve false p = .ok (.found place node false) ∧ node ≠ .dir ∧
      (fs.sweep p).node? place = none := by
  rw [sweep] at hne ⊢
  split at hne
  next later hremoved =>
    obtain ⟨found, node, hresolve, hdir, rfl⟩ := removeFile_eq_ok_iff.1 hremoved
    have hfound := ne_nil_of_node? (node?_of_resolve hresolve) hdir
    rw [node?_erase hfound] at hne ⊢
    split at hne
    next heq =>
      rw [heq]
      exact ⟨node, hresolve, hdir, if_pos rfl⟩
    next => exact absurd rfl hne
  next => exact absurd rfl hne

/-- What stands at the path of a name after an attempt to remove it can only be a directory. -/
theorem occupant?_sweep (hname : Path.IsName name)
    (hoccupant : (fs.sweep (root.join ⟨name⟩)).occupant? (root.join ⟨name⟩) = some node) :
    node = .dir := by
  obtain ⟨place, asDirectory, hfound⟩ := occupant?_eq_some_iff.1 hoccupant
  -- what is found after the removal was there before, so that it is what the removal had found
  have hbefore := (sweep_partOf fs _).resolve_found hfound
  cases not_asDirectory_of_resolve hname hbefore
  by_contra hdir
  have hremoved := removeFile_eq_ok_iff.2 ⟨place, node, hbefore, hdir, rfl⟩
  have hplace := ne_nil_of_node? (node?_of_resolve hbefore) hdir
  rw [sweep, hremoved] at hfound
  have hgone := node?_of_resolve hfound
  rw [node?_erase hplace, if_pos rfl] at hgone
  cases hgone

theorem foldl_sweep_partOf (files : List Path) (fs : FileSystem) :
    (files.foldl sweep fs).PartOf fs := by
  induction files generalizing fs with
  | nil => exact .refl fs
  | cons file rest ih => exact (ih (fs.sweep file)).trans (sweep_partOf fs file)

/-- Of the names in a directory that were all to be removed, only directories can be left. -/
theorem occupant?_foldl_sweep {files : List Path}
    (hfiles : ∀ file ∈ files, ∃ name, Path.IsName name ∧ file = root.join ⟨name⟩)
    (hmem : p ∈ files) (hoccupant : (files.foldl sweep fs).occupant? p = some node) :
    node = .dir := by
  induction files generalizing fs with
  | nil => cases hmem
  | cons file rest ih =>
    obtain ⟨⟨name, hname, rfl⟩, hrest⟩ := List.forall_mem_cons.1 hfiles
    rcases List.mem_cons.1 hmem with rfl | hmem
    · exact occupant?_sweep hname ((foldl_sweep_partOf rest _).occupant?_eq hoccupant)
    · exact ih hrest hmem hoccupant

end BootChain.FileSystem
