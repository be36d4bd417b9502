import BootChain.Proofs.FileSystem.Leaves
import BootChain.Proofs.FileSystem.Writing
import BootChain.Proofs.Path.Child

namespace BootChain

/-- What a node holds if it is a regular file. -/
def Node.content? : Node → Option Bytes
  | .file content _ => some content
  | _ => none

theorem Node.content?_eq_some_iff {node : Node} {content : Bytes} :
    node.content? = some content ↔ ∃ mode, node = .file content mode := by
  cases node <;> simp [content?]

namespace FileSystem

/-- A directory with nothing below it but directories and regular files, each in reach of its
    path. -/
structure Plain (fs : FileSystem) (directory : Path) (base : Location) : Prop where
  orderly : fs.Orderly
  grounded : fs.Grounded
  stat_eq : fs.stat directory = .ok (base, .dir)
  short : ∀ above name, (fs.node? (base ++ (above ++ [name]))).isSome = true →
    ¬ TooLong (directory.below above) name
  node_cases : ∀ names node, fs.node? (base ++ names) = some node →
    node = .dir ∨ ∃ content mode, node = .file content mode

/-- What the file at a place holds, if there is one. -/
def held? (fs : FileSystem) (place : Location) : Option Bytes :=
  (fs.node? place).bind Node.content?

variable {fs later : FileSystem} {directory p : Path} {base place here : Location} {name : Bytes}
  {names dirs : List Bytes} {content : Bytes} {node : Node}

theorem held?_eq_some_iff :
    fs.held? place = some content ↔ ∃ mode, fs.node? place = some (.file content mode) := by
  simp only [held?, Option.bind_eq_some_iff, Node.content?_eq_some_iff]
  constructor
  · rintro ⟨_, hnode, mode, rfl⟩
    exact ⟨mode, hnode⟩
  · rintro ⟨mode, hnode⟩
    exact ⟨_, hnode, mode, rfl⟩

theorem held?_put (hplace : place ≠ []) (other : Location) :
    (fs.put place node).held? other =
      if other = place then node.content? else fs.held? other := by
  rw [held?, node?_put hplace]
  split <;> rfl

theorem Orderly.isName_of_node? (horderly : fs.Orderly) (hnode : fs.node? place = some node) :
    ∀ piece ∈ place, Path.IsName piece := by
  by_cases hroot : place = []
  · simp [hroot]
  · rw [node?, if_neg hroot] at hnode
    obtain ⟨before, after, hnodes, -⟩ := List.lookup_eq_some_iff.1 hnode
    exact horderly.isName (place, node) (by simp [hnodes])

section Descent

theorem ensureDir_cases (hensured : fs.ensureDir p = .ok later) :
    later = fs ∧ fs.isDirectory p = true ∨ fs.createDir p = .ok later := by
  rw [ensureDir] at hensured
  split at hensured
  next hcreated =>
    cases hensured
    exact .inr hcreated
  next =>
    split at hensured
    next hdirectory =>
      cases hensured
      exact .inl ⟨rfl, hdirectory⟩
    next => cases hensured

theorem createDir_of_ensureDir {e : IoError} (hensured : fs.ensureDir p = .error e) :
    fs.createDir p = .error e := by
  rw [ensureDir] at hensured
  split at hensured
  next => cases hensured
  next hcreated =>
    split at hensured <;> cases hensured
    exact hcreated

/-- In a directory that there is, nothing keeps a name from being found. -/
theorem LeadsTo.createDir_ne_notFound (hleads : fs.LeadsTo p here) (hname : Path.IsName name) :
    fs.createDir (p.join ⟨name⟩) ≠ .error .notFound := by
  rw [createDir, hleads.resolve_name hname fun hfollow => absurd hfollow Bool.false_ne_true]
  split
  · rintro ⟨⟩
  · rw [arrive]
    cases fs.node? (here ++ [name]) <;> rintro ⟨⟩

/-- What is missing for a directory below one that there is, is below that one too. -/
theorem exists_parent_below {parent : Path} (hstat : fs.stat directory = .ok (base, .dir))
    (hnames : ∀ name ∈ names, Path.IsName name)
    (hensured : fs.ensureDir (directory.below names) = .error .notFound)
    (hparent : (directory.below names).parent? = some parent) :
    ∃ above name, names = above ++ [name] ∧ parent = directory.below above := by
  obtain rfl | ⟨above, name, rfl⟩ := List.eq_nil_or_concat' names
  · cases hensured.symm.trans (ensureDir_of_stat hstat)
  · have hname := hnames name (by simp)
    refine ⟨above, name, rfl, ?_⟩
    by_cases hne : above = []
    · subst hne
      exact absurd (createDir_of_ensureDir hensured)
        (LeadsTo.createDir_ne_notFound (.there hstat) hname)
    · rw [Path.parent?_below _ hne fun piece hmem => (hnames piece hmem).isStep] at hparent
      exact (Option.some.inj hparent).symm

variable {Holds : FileSystem → Prop}

/-- What holds of files with a directory and stays whenever a single one is created below it stays
    when one is created with the parents that are missing. -/
theorem createDirsUpTo_below (hbase : ∀ fs, Holds fs → ∃ base, fs.stat directory = .ok (base, .dir))
    (hstep : ∀ fs later names, names ≠ [] → (∀ name ∈ names, Path.IsName name) → Holds fs →
      fs.createDir (directory.below names) = .ok later → Holds later)
    (depth : Nat) (hnames : ∀ name ∈ names, Path.IsName name) (hholds : Holds fs) :
    Holds (fs.createDirsUpTo depth (directory.below names)).2 := by
  induction depth generalizing fs names with
  | zero => exact hholds
  | succ depth ih =>
    have hensure : ∀ {fs later : FileSystem}, Holds fs →
        fs.ensureDir (directory.below names) = .ok later → Holds later := by
      intro fs later hholds hensured
      obtain ⟨rfl, -⟩ | hcreated := ensureDir_cases hensured
      · exact hholds
      · by_cases hne : names = []
        · obtain ⟨base, hstat⟩ := hbase fs hholds
          subst hne
          cases hensured.symm.trans (ensureDir_of_stat hstat)
          exact hholds
        · exact hstep fs later names hne hnames hholds hcreated
    rw [createDirsUpTo]
    split
    next => exact hholds
    next =>
      split
      next hensured => exact hensure hholds hensured
      next hensured =>
        split
        next => exact hholds
        next parent hparent =>
          obtain ⟨base, hstat⟩ := hbase fs hholds
          obtain ⟨above, name, rfl, rfl⟩ := exists_parent_below hstat hnames hensured hparent
          have hup := ih (fun name hmem => hnames name (List.mem_append_left _ hmem)) hholds
          split
          next made hmade =>
            rw [hmade] at hup
            split
            next hensured => exact hensure hup hensured
            next => exact hup
          next => exact hup
      next => exact hholds

theorem createDirs_below (hbase : ∀ fs, Holds fs → ∃ base, fs.stat directory = .ok (base, .dir))
    (hstep : ∀ fs later names, names ≠ [] → (∀ name ∈ names, Path.IsName name) → Holds fs →
      fs.createDir (directory.below names) = .ok later → Holds later)
    (hnames : ∀ name ∈ names, Path.IsName name) (hholds : Holds fs) :
    Holds (fs.createDirs (directory.below names)).2 :=
  createDirsUpTo_below hbase hstep _ hnames hholds

/-- A directory that is created can be found. -/
theorem stat_of_ensureDir (hensured : fs.ensureDir p = .ok later) :
    ∃ home, later.stat p = .ok (home, .dir) := by
  obtain ⟨rfl, hdirectory⟩ | hcreated := ensureDir_cases hensured
  · rw [isDirectory] at hdirectory
    split at hdirectory
    next home hstat => exact ⟨home, hstat⟩
    next => cases hdirectory
  · obtain ⟨place, asDirectory, hresolve, rfl⟩ := createDir_eq_ok_iff.1 hcreated
    obtain ⟨hnul, hne, hlength, hwalk⟩ := resolve_eq_ok_iff.1 hresolve
    have hfound := (walk_eq_ok_iff.1 (walk_free hwalk)).put_dir
    refine ⟨place, stat_dir_iff.2 ⟨false, resolve_eq_ok_iff.2 ⟨hnul, hne, hlength, ?_⟩⟩⟩
    rw [workingDirectory_put]
    exact walk_eq_ok_iff.2 hfound

theorem stat_of_createDirsUpTo {depth : Nat} (hne : p.bytes ≠ [])
    (hcreated : fs.createDirsUpTo depth p = (.ok (), later)) :
    ∃ home, later.stat p = .ok (home, .dir) := by
  cases depth with
  | zero => cases hcreated
  | succ depth =>
    rw [createDirsUpTo, if_neg hne] at hcreated
    split at hcreated
    next hensured =>
      cases hcreated
      exact stat_of_ensureDir hensured
    next =>
      split at hcreated
      next => cases hcreated
      next =>
        split at hcreated
        next =>
          split at hcreated
          next hensured =>
            cases hcreated
            exact stat_of_ensureDir hensured
          next => cases hcreated
        next hfailed => exact (hfailed later hcreated).elim
    next => cases hcreated

theorem withDirs_eq_ok_iff : fs.withDirs p = .ok later ↔ fs.createDirs p = (.ok (), later) := by
  rw [withDirs]
  split
  next made hcreated => simp [hcreated]
  next e made hcreated => simp [hcreated]

end Descent

namespace Plain

variable (hplain : fs.Plain directory base)
include hplain

theorem bytes_ne_nil : directory.bytes ≠ [] := by
  obtain ⟨_, hresolve⟩ := stat_dir_iff.1 hplain.stat_eq
  exact (resolve_eq_ok_iff.1 hresolve).2.1

theorem not_hasLink (names : List Bytes) : ¬ fs.HasLink (base ++ names) := by
  rintro ⟨target, htarget⟩
  obtain hdir | ⟨content, mode, hfile⟩ := hplain.node_cases names _ htarget
  · cases hdir
  · cases hfile

theorem isName_of_node? (hnode : fs.node? (base ++ names) = some node) :
    ∀ name ∈ names, Path.IsName name :=
  fun name hmem => hplain.orderly.isName_of_node? hnode name (List.mem_append_right _ hmem)

/-- The path of a directory below the directory leads to its place. -/
theorem leadsTo (hdir : fs.node? (base ++ names) = some .dir) :
    fs.LeadsTo (directory.below names) (base ++ names) := by
  induction names using List.reverseRecOn with
  | nil =>
    rw [List.append_nil]
    exact .there hplain.stat_eq
  | append_singleton above name ih =>
    have hname := hplain.isName_of_node? hdir name (by simp)
    have hshort := hplain.short above name (by rw [hdir]; rfl)
    rw [← List.append_assoc] at hdir ⊢
    rw [Path.below_concat]
    exact (ih (hplain.grounded.dir_of_append (List.cons_ne_nil _ _) hdir)).join hname hshort hdir

/-- The path of whatever stands below the directory leads there. -/
theorem stat_below (hnode : fs.node? (base ++ names) = some node) :
    fs.stat (directory.below names) = .ok (base ++ names, node) := by
  have hlink : ∀ target, node ≠ .link target := by
    rintro target rfl
    exact hplain.not_hasLink names ⟨target, hnode⟩
  obtain rfl | ⟨above, name, rfl⟩ := List.eq_nil_or_concat' names
  · rw [List.append_nil] at hnode ⊢
    cases hnode.symm.trans (node?_of_stat hplain.stat_eq)
    exact hplain.stat_eq
  · have hname := hplain.isName_of_node? hnode name (by simp)
    have hshort := hplain.short above name (by rw [hnode]; rfl)
    rw [← List.append_assoc] at hnode ⊢
    rw [Path.below_concat]
    have hdir := hplain.grounded.dir_of_append (List.cons_ne_nil _ _) hnode
    exact (hplain.leadsTo hdir).stat_name hname hshort hnode hlink

/-- A path below the directory leads nowhere but to the place below it. -/
theorem eq_of_leadsTo (hnames : ∀ name ∈ names, Path.IsName name)
    (hleads : fs.LeadsTo (directory.below names) here) : here = base ++ names := by
  induction names using List.reverseRecOn generalizing here with
  | nil =>
    rw [List.append_nil]
    exact hleads.unique (.there hplain.stat_eq)
  | append_singleton above name ih =>
    have hname := hnames name (by simp)
    rw [Path.below_concat] at hleads
    cases hleads with
    | here hroot => exact absurd hroot (Path.join_ne_nil hname)
    | there hstat =>
      obtain ⟨asDirectory, hresolve⟩ := stat_dir_iff.1 hstat
      obtain ⟨home, hhome⟩ := hplain.grounded.leadsTo_of_resolve hname hresolve
      obtain rfl := ih (fun name hmem => hnames name (List.mem_append_left _ hmem)) hhome
      have hlink : ¬ fs.HasLink (base ++ above ++ [name]) := by
        rw [List.append_assoc]
        exact hplain.not_hasLink _
      have hshort := hhome.not_tooLong hname hresolve
      rw [hhome.resolve_name hname fun _ => hlink, if_neg hshort, arrive] at hresolve
      rw [← List.append_assoc]
      split at hresolve <;> cases hresolve
      rfl

/-- Where a path of a name below the directory resolves, its parent leads to the place above. -/
theorem leadsTo_of_resolve {follow : Bool} {target : Target}
    (hnames : ∀ piece ∈ names ++ [name], Path.IsName piece)
    (hresolve : fs.resolve follow (directory.below (names ++ [name])) = .ok target) :
    fs.LeadsTo (directory.below names) (base ++ names) ∧
      ¬ TooLong (directory.below names) name := by
  have hname := hnames name (by simp)
  rw [Path.below_concat] at hresolve
  obtain ⟨home, hhome⟩ := hplain.grounded.leadsTo_of_resolve hname hresolve
  obtain rfl :=
    hplain.eq_of_leadsTo (fun name hmem => hnames name (List.mem_append_left _ hmem)) hhome
  exact ⟨hhome, hhome.not_tooLong hname hresolve⟩

theorem isName_append (hnames : ∀ name ∈ names, Path.IsName name) :
    ∀ piece ∈ base ++ names, Path.IsName piece := by
  intro piece hmem
  rcases List.mem_append.1 hmem with hmem | hmem
  · exact hplain.orderly.isName_of_node? (node?_of_stat hplain.stat_eq) piece hmem
  · exact hnames piece hmem

/-- One more directory leaves everything plain, and no file holds anything else. -/
theorem createDir (hne : names ≠ []) (hnames : ∀ name ∈ names, Path.IsName name)
    (hcreated : fs.createDir (directory.below names) = .ok later) :
    later.Plain directory base ∧ later.held? = fs.held? := by
  have hgrounded := hplain.grounded.of_createDir hcreated
  obtain ⟨place, asDirectory, hresolve, rfl⟩ := createDir_eq_ok_iff.1 hcreated
  obtain ⟨above, name, rfl⟩ := (List.eq_nil_or_concat' names).resolve_left hne
  have hname := hnames name (by simp)
  obtain ⟨hleads, hshort⟩ := hplain.leadsTo_of_resolve hnames hresolve
  rw [Path.below_concat, hleads.resolve_name hname fun hfollow => absurd hfollow Bool.false_ne_true,
    if_neg hshort, arrive, List.append_assoc] at hresolve
  split at hresolve <;> cases hresolve
  next hfree =>
    have hplace : base ++ (above ++ [name]) ≠ [] := by simp
    have hpart : fs.PartOf (fs.put (base ++ (above ++ [name])) .dir) := partOf_put hplace hfree
    obtain ⟨asDirectory, hstat⟩ := stat_dir_iff.1 hplain.stat_eq
    refine ⟨⟨hplain.orderly.put (hplain.isName_append hnames), hgrounded,
      stat_dir_iff.2 ⟨asDirectory, hpart.resolve_found hstat⟩, fun others other hother => ?_,
      fun others node hother => ?_⟩, ?_⟩
    · rw [node?_put hplace] at hother
      split at hother
      next heq =>
        obtain ⟨rfl, hlast⟩ := List.append_inj' (List.append_cancel_left heq) rfl
        cases hlast
        exact hshort
      next => exact hplain.short others other hother
    · rw [node?_put hplace] at hother
      split at hother
      next => exact .inl (Option.some.inj hother).symm
      next => exact hplain.node_cases others node hother
    · funext other
      rw [held?_put hplace]
      split
      next heq => rw [heq, held?, hfree]; rfl
      next => rfl

/-- Nor do several directories that are created one above the other. -/
theorem createDirs (hnames : ∀ name ∈ names, Path.IsName name)
    (hcreated : fs.createDirs (directory.below names) = (.ok (), later)) :
    later.Plain directory base ∧ later.held? = fs.held? := by
  have hbase : ∀ files : FileSystem, files.Plain directory base ∧ files.held? = fs.held? →
      ∃ base, files.stat directory = .ok (base, .dir) := fun _ hfiles => ⟨base, hfiles.1.stat_eq⟩
  have hlater := createDirs_below hbase (fun files made names hne hnames hfiles hmade => by
    obtain ⟨hmadePlain, hmadeHeld⟩ := hfiles.1.createDir hne hnames hmade
    exact ⟨hmadePlain, hmadeHeld.trans hfiles.2⟩) hnames ⟨hplain, rfl⟩
  rwa [hcreated] at hlater

/-- A file that is written below a directory holds what was written, and all others what they
    did. -/
theorem write (hne : names ≠ []) (hnames : ∀ name ∈ names, Path.IsName name)
    (hwritten : fs.write (directory.below names) content = .ok later) :
    later.Plain directory base ∧
      ∀ place, later.held? place =
        if place = base ++ names then some content else fs.held? place := by
  obtain ⟨target, hresolve, -⟩ := write_cases hwritten
  obtain ⟨above, name, rfl⟩ := (List.eq_nil_or_concat' names).resolve_left hne
  have hname := hnames name (by simp)
  obtain ⟨hleads, hshort⟩ := hplain.leadsTo_of_resolve hnames hresolve
  have hlink : ¬ fs.HasLink (base ++ above ++ [name]) := by
    rw [List.append_assoc]
    exact hplain.not_hasLink _
  rw [Path.below_concat] at hwritten
  obtain ⟨-, hwrote⟩ := hleads.write_name hname hlink hwritten
  have hgrounded := hwrote.grounded hplain.grounded (hleads.dir hplain.grounded)
  rw [List.append_assoc] at hwrote
  have hplace : base ++ (above ++ [name]) ≠ [] := by simp
  have hleadsLater : ∀ {p here}, fs.LeadsTo p here → later.LeadsTo p here := hwrote.leadsTo hplace
  cases hwrote with
  | device device hdevice =>
    obtain hdir | ⟨_, _, hfile⟩ := hplain.node_cases _ _ hdevice
    · cases hdir
    · cases hfile
  | file mode hfile =>
    refine ⟨⟨hplain.orderly.put (hplain.isName_append hnames), hgrounded, ?_,
      fun others other hother => ?_, fun others node hother => ?_⟩, fun place => ?_⟩
    · cases hleadsLater (.there hplain.stat_eq) with
      | here hroot => exact absurd hroot hplain.bytes_ne_nil
      | there hstat => exact hstat
    · rw [node?_put hplace] at hother
      split at hother
      next heq =>
        obtain ⟨rfl, hlast⟩ := List.append_inj' (List.append_cancel_left heq) rfl
        cases hlast
        exact hshort
      next => exact hplain.short others other hother
    · rw [node?_put hplace] at hother
      split at hother
      next => exact .inr ⟨content, mode, (Option.some.inj hother).symm⟩
      next => exact hplain.node_cases others node hother
    · exact held?_put hplace place

/-- So is every directory below it. -/
theorem join (hdir : fs.node? (base ++ [name]) = some .dir) :
    fs.Plain (directory.join ⟨name⟩) (base ++ [name]) := by
  have hsplit : ∀ names, base ++ [name] ++ names = base ++ name :: names := by simp
  refine ⟨hplain.orderly, hplain.grounded, hplain.stat_below hdir, fun above other hnode => ?_,
    fun names node hnode => ?_⟩
  · rw [hsplit] at hnode
    exact hplain.short (name :: above) other hnode
  · rw [hsplit] at hnode
    exact hplain.node_cases (name :: names) node hnode

/-- A directory that is made in it is plain too, and holds what it did. -/
theorem withDirs_join (hname : Path.IsName name)
    (hmade : fs.withDirs (directory.join ⟨name⟩) = .ok later) :
    later.Plain directory base ∧ later.Plain (directory.join ⟨name⟩) (base ++ [name]) ∧
      later.held? = fs.held? := by
  have hcreated := withDirs_eq_ok_iff.1 hmade
  have hnames : ∀ piece ∈ [name], Path.IsName piece := by simpa using hname
  obtain ⟨hlater, hheld⟩ := hplain.createDirs hnames hcreated
  obtain ⟨home, hstat⟩ := stat_of_createDirsUpTo (Path.join_ne_nil hname) hcreated
  obtain rfl := hlater.eq_of_leadsTo hnames (.there hstat)
  exact ⟨hlater, hlater.join (node?_of_stat hstat), hheld⟩

theorem isLeaf_iff : fs.IsLeaf base names ↔ ∃ content, fs.held? (base ++ names) = some content := by
  simp only [IsLeaf, held?_eq_some_iff]
  constructor
  · rintro ⟨-, node, hnode, hdir⟩
    obtain rfl | ⟨content, mode, rfl⟩ := hplain.node_cases names node hnode
    · exact absurd rfl hdir
    · exact ⟨content, mode, hnode⟩
  · rintro ⟨content, mode, hnode⟩
    refine ⟨?_, _, hnode, by simp⟩
    rintro rfl
    rw [List.append_nil, node?_of_stat hplain.stat_eq] at hnode
    cases hnode

end Plain

/-- An empty directory is plain. -/
theorem plain_of_list (horderly : fs.Orderly) (hgrounded : fs.Grounded)
    (hlist : fs.list directory = .ok (base, [])) :
    fs.Plain directory base ∧ ∀ names, fs.held? (base ++ names) = none := by
  obtain ⟨hstat, hlisted⟩ := list_eq_ok_iff.1 hlist
  have hbase := node?_of_stat hstat
  have hnone : ∀ name rest, fs.node? (base ++ name :: rest) = none := by
    intro name rest
    have hfirst : fs.node? (base ++ [name]) = none := by
      have hnotMem : name ∉ fs.namesIn base := by simp [← hlisted]
      rwa [mem_namesIn_iff, Bool.not_eq_true, Option.isSome_eq_false_iff,
        Option.isNone_iff_eq_none] at hnotMem
    rw [List.append_cons]
    by_contra hsome
    obtain ⟨node, hnode⟩ := Option.ne_none_iff_exists'.1 hsome
    by_cases hrest : rest = []
    · rw [hrest, List.append_nil, hfirst] at hnode
      cases hnode
    · cases hfirst.symm.trans (hgrounded.dir_of_append hrest hnode)
  have hdirs : ∀ names node, fs.node? (base ++ names) = some node → names = [] ∧ node = .dir := by
    intro names node hnode
    cases names with
    | nil =>
      rw [List.append_nil, hbase] at hnode
      exact ⟨rfl, (Option.some.inj hnode).symm⟩
    | cons name rest => cases (hnone name rest).symm.trans hnode
  refine ⟨⟨horderly, hgrounded, hstat, fun above name hsome => ?_, fun names node hnode => ?_⟩,
    fun names => ?_⟩
  · obtain ⟨node, hnode⟩ := Option.isSome_iff_exists.1 hsome
    exact absurd (hdirs _ node hnode).1 (List.concat_ne_nil _ _)
  · exact .inl (hdirs names node hnode).2
  · refine Option.eq_none_iff_forall_ne_some.2 fun content hheld => ?_
    obtain ⟨mode, hnode⟩ := held?_eq_some_iff.1 hheld
    cases (hdirs names _ hnode).2

end FileSystem

end BootChain
