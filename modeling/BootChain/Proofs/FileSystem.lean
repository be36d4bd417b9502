import BootChain.Proofs.FileSystem.Resolution
import BootChain.Proofs.Path

namespace BootChain.FileSystem

variable {fs : FileSystem} {place other home : Location} {node : Node}

section

variable {root : Path} {name : Bytes}

/-- A path leads to a directory. An empty path stands for the working directory, from where names
    are looked for as they are. -/
inductive LeadsTo (fs : FileSystem) (root : Path) (home : Location) : Prop
  | here (hroot : root.bytes = []) (hhome : fs.workingDirectory = home)
  | there (hstat : fs.stat root = .ok (home, .dir))

/-- The path of a name in a directory is longer than paths can be, or the name itself is. -/
def TooLong (root : Path) (name : Bytes) : Prop :=
  4096 ≤ (root.join ⟨name⟩).bytes.length ∨ 255 < name.length

instance : Decidable (TooLong root name) := inferInstanceAs (Decidable (_ ∨ _))

theorem resolve_of_stat {p : Path} (hstat : fs.stat p = .ok (place, node)) :
    ∃ asDirectory, fs.resolve true p = .ok (.found place node asDirectory) := by
  rw [stat] at hstat
  cases hresolve : fs.resolve true p with
  | error e => simp [hresolve, bind, Except.bind] at hstat
  | ok target =>
    cases target with
    | free place asDirectory => simp [hresolve, bind, Except.bind] at hstat
    | found found other asDirectory =>
      simp only [hresolve, bind, Except.bind] at hstat
      split at hstat
      · cases hstat
      · cases hstat
        exact ⟨asDirectory, rfl⟩

/-- A path that resolves is not empty, holds no NUL and is not too long, and the walk along it
    ends where it leads. -/
theorem resolve_eq_ok_iff {follow : Bool} {p : Path} {target : Target} :
    fs.resolve follow p = .ok target ↔
      (0 : UInt8) ∉ p.bytes ∧ p.bytes ≠ [] ∧ p.bytes.length < 4096 ∧
        fs.walk follow linkBudget (if p.isAbsolute then [] else fs.workingDirectory)
          (Path.segments p.bytes) = .ok target := by
  rw [resolve]
  by_cases hnul : (0 : UInt8) ∈ p.bytes
  · simp [hnul]
  · by_cases hnil : p.bytes = []
    · simp [hnil]
    · by_cases hlong : 4096 ≤ p.bytes.length
      · simp [hnul, hnil, hlong, Nat.not_lt.2 hlong]
      · simp [hnul, hnil, hlong, Nat.not_le.1 hlong]

theorem resolve_of_walk {follow : Bool} {p : Path} (hnul : (0 : UInt8) ∉ p.bytes)
    (hne : p.bytes ≠ []) : fs.resolve follow p =
      if 4096 ≤ p.bytes.length then .error .nameTooLong
      else fs.walk follow linkBudget (if p.isAbsolute then [] else fs.workingDirectory)
        (Path.segments p.bytes) := by
  rw [resolve, if_neg (by simpa using hnul), if_neg hne]

/-- Where a path leads to a directory, its walk goes on with a name as from the directory. -/
theorem LeadsTo.resolve_join {follow : Bool} {result : Except IoError Target}
    (hleads : fs.LeadsTo root home) (hname : Path.IsName name)
    (hend : ∀ budget, fs.walk follow budget home [name] = result) :
    fs.resolve follow (root.join ⟨name⟩) =
      if 4096 ≤ (root.join ⟨name⟩).bytes.length then .error .nameTooLong else result := by
  have hnul : (0 : UInt8) ∉ (root.join ⟨name⟩).bytes := by
    rw [Path.nul_mem_join_iff hname]
    cases hleads with
    | here hroot hhome => simp [hroot]
    | there hstat =>
      obtain ⟨asDirectory, hresolve⟩ := resolve_of_stat hstat
      exact (resolve_eq_ok_iff.1 hresolve).1
  cases hleads with
  | here hroot hhome =>
    rw [Path.join_of_nil hname.slash_notMem hroot] at hnul ⊢
    rw [resolve_of_walk hnul hname.ne_nil, Path.not_isAbsolute_of_isName hname,
      Path.segments_of_slash_notMem hname.slash_notMem, hhome]
    congr 1
    exact hend _
  | there hstat =>
    obtain ⟨asDirectory, hresolve⟩ := resolve_of_stat hstat
    obtain ⟨-, hne, -, hwalk⟩ := resolve_eq_ok_iff.1 hresolve
    obtain ⟨pieces, idle, hpieces, hidle, hsegments⟩ := Path.segments_join hname hne
    rw [resolve_of_walk hnul (Path.join_ne_nil hname), hsegments, Path.isAbsolute_join hname]
    congr 1
    rw [hpieces] at hwalk
    exact walk_append_name hname.ne_nil hidle hend hwalk

theorem LeadsTo.resolve_name {follow : Bool} (hleads : fs.LeadsTo root home)
    (hname : Path.IsName name) (hlink : follow = true → ¬ fs.HasLink (home ++ [name])) :
    fs.resolve follow (root.join ⟨name⟩) =
      if TooLong root name then .error .nameTooLong else .ok (fs.arrive (home ++ [name])) := by
  by_cases hlength : 255 < name.length
  · rw [hleads.resolve_join hname fun _ => walk_name_of_lt hname hlength, ite_self]
    exact (if_pos (.inr hlength)).symm
  · rw [hleads.resolve_join hname fun _ => walk_name hname (Nat.not_lt.1 hlength) hlink]
    simp only [TooLong, hlength, or_false]

theorem LeadsTo.removeFile_name (hleads : fs.LeadsTo root home) (hname : Path.IsName name) :
    fs.removeFile (root.join ⟨name⟩) =
      if TooLong root name then .error .nameTooLong
      else
        match fs.node? (home ++ [name]) with
        | none => .error .notFound
        | some .dir => .error .isADirectory
        | some _ => .ok (fs.erase (home ++ [name])) := by
  rw [removeFile, hleads.resolve_name hname fun hfollow => absurd hfollow Bool.false_ne_true]
  split
  next => rfl
  next =>
    cases hnode : fs.node? (home ++ [name]) with
    | none => simp [arrive, hnode, bind, Except.bind]
    | some node => cases node <;> simp [arrive, hnode, bind, Except.bind]

theorem LeadsTo.isFile_name (hleads : fs.LeadsTo root home) (hname : Path.IsName name)
    (hlink : ¬ fs.HasLink (home ++ [name])) : fs.isFile (root.join ⟨name⟩) = true ↔
      ¬ TooLong root name ∧
        ∃ content mode, fs.node? (home ++ [name]) = some (.file content mode) := by
  rw [isFile, stat, hleads.resolve_name hname fun _ => hlink]
  by_cases hlong : TooLong root name
  · simp [hlong, bind, Except.bind]
  · cases hnode : fs.node? (home ++ [name]) with
    | none => simp [hlong, arrive, hnode, bind, Except.bind]
    | some node => cases node <;> simp [hlong, arrive, hnode, bind, Except.bind]

/-- A name of a directory in a directory leads on to that one. -/
theorem LeadsTo.join (hleads : fs.LeadsTo root home) (hname : Path.IsName name)
    (hshort : ¬ TooLong root name) (hnode : fs.node? (home ++ [name]) = some .dir) :
    fs.LeadsTo (root.join ⟨name⟩) (home ++ [name]) := by
  have hlink : ¬ fs.HasLink (home ++ [name]) := by
    rintro ⟨target, htarget⟩
    cases hnode.symm.trans htarget
  refine .there ?_
  rw [stat, hleads.resolve_name hname fun _ => hlink, if_neg hshort, arrive, hnode]
  simp [bind, Except.bind]

/-- A path leads to one directory only. -/
theorem LeadsTo.unique {other : Location} (hleads : fs.LeadsTo root home)
    (hother : fs.LeadsTo root other) : home = other := by
  cases hleads with
  | here hroot hhome =>
    cases hother with
    | here _ hsame => exact hhome.symm.trans hsame
    | there hstat =>
      obtain ⟨_, hresolve⟩ := resolve_of_stat hstat
      exact absurd hroot (resolve_eq_ok_iff.1 hresolve).2.1
  | there hstat =>
    cases hother with
    | here hroot _ =>
      obtain ⟨_, hresolve⟩ := resolve_of_stat hstat
      exact absurd hroot (resolve_eq_ok_iff.1 hresolve).2.1
    | there hsame =>
      cases hstat.symm.trans hsame
      rfl

theorem leadsTo_root (fs : FileSystem) : fs.LeadsTo ⟨[Path.slash]⟩ [] := .there rfl

/-- A directory that is there is as good as made. -/
theorem ensureDir_of_stat (hstat : fs.stat root = .ok (home, .dir)) : fs.ensureDir root = .ok fs := by
  have hdirectory : fs.isDirectory root = true := by rw [isDirectory, hstat]
  obtain ⟨asDirectory, hfollowed⟩ := resolve_of_stat hstat
  rw [ensureDir, createDir]
  cases hresolve : fs.resolve false root with
  | error e => simp [bind, Except.bind, hdirectory]
  | ok target =>
    cases target with
    | found place node asDirectory => simp [bind, Except.bind, hdirectory]
    | free place asDirectory =>
      obtain ⟨-, -, -, hwalk⟩ := resolve_eq_ok_iff.1 hresolve
      obtain ⟨-, -, -, hfollowedWalk⟩ := resolve_eq_ok_iff.1 hfollowed
      cases hfollowedWalk.symm.trans (walk_free hwalk)

/-- Creating a directory that is there changes nothing. -/
theorem LeadsTo.createDirs_eq (hleads : fs.LeadsTo root home) :
    fs.createDirs root = (.ok (), fs) := by
  cases hleads with
  | here hroot hhome => simp [createDirs, createDirsUpTo, hroot]
  | there hstat =>
    rw [createDirs, createDirsUpTo, ensureDir_of_stat hstat]
    split <;> rfl

end

theorem createDir_eq_ok_iff {p : Path} {later : FileSystem} : fs.createDir p = .ok later ↔
    ∃ place asDirectory, fs.resolve false p = .ok (.free place asDirectory) ∧
      later = fs.put place .dir := by
  rw [createDir]
  cases fs.resolve false p with
  | error e => simp [bind, Except.bind]
  | ok target => cases target <;> simp [bind, Except.bind, eq_comm]

/-- Directories are created one after the other, each at a path or on the way up from it. -/
inductive CreatesDirs (p : Path) : FileSystem → FileSystem → Prop
  | done (fs : FileSystem) : CreatesDirs p fs fs
  | created {a b c : FileSystem} {q : Path} (hup : p.UpTo q) (hcreated : a.createDir q = .ok b)
    (hrest : CreatesDirs p b c) : CreatesDirs p a c

section

variable {p parent : Path} {a b c : FileSystem}

theorem CreatesDirs.trans (hab : CreatesDirs p a b) (hbc : CreatesDirs p b c) :
    CreatesDirs p a c := by
  induction hab with
  | done => exact hbc
  | created hup hcreated _ ih => exact .created hup hcreated (ih hbc)

theorem CreatesDirs.of_parent (hparent : p.parent? = some parent) (hab : CreatesDirs parent a b) :
    CreatesDirs p a b := by
  induction hab with
  | done => exact .done _
  | created hup hcreated _ ih =>
    exact .created (Path.UpTo.trans (.up .self hparent) hup) hcreated ih

theorem createsDirs_of_ensureDir (hensured : a.ensureDir p = .ok b) : CreatesDirs p a b := by
  rw [ensureDir] at hensured
  split at hensured
  next hcreated =>
    cases hensured
    exact .created .self hcreated (.done b)
  next =>
    split at hensured
    · cases hensured
      exact .done a
    · cases hensured

theorem createsDirs_createDirsUpTo (fs : FileSystem) (depth : Nat) (p : Path) :
    CreatesDirs p fs (fs.createDirsUpTo depth p).2 := by
  induction depth generalizing fs p with
  | zero => exact .done fs
  | succ depth ih =>
    rw [createDirsUpTo]
    split
    · exact .done fs
    · split
      next hensured => exact createsDirs_of_ensureDir hensured
      next =>
        split
        next => exact .done fs
        next parent hparent =>
          have hparents := (ih fs parent).of_parent hparent
          split
          next made hup =>
            rw [hup] at hparents
            split
            next hensured => exact hparents.trans (createsDirs_of_ensureDir hensured)
            next => exact hparents
          next => exact hparents
      next => exact .done fs

/-- Whether or not a directory can be made, all that is done to make it is to create directories. -/
theorem createsDirs_createDirs (fs : FileSystem) (p : Path) :
    CreatesDirs p fs (fs.createDirs p).2 :=
  createsDirs_createDirsUpTo fs _ p

end

/-- Two file systems have the same at some places. -/
def AgreeAt (places : List Location) (a b : FileSystem) : Prop :=
  ∀ place ∈ places, a.node? place = b.node? place

/-- Two file systems differ at some places at most. -/
structure AgreeOff (places : List Location) (a b : FileSystem) : Prop where
  workingDirectory_eq : a.workingDirectory = b.workingDirectory
  node?_eq : ∀ place, place ∉ places → a.node? place = b.node? place

section

variable {places others : List Location} {a b c : FileSystem}

theorem AgreeAt.symm (hab : AgreeAt places a b) : AgreeAt places b a :=
  fun place hplace => (hab place hplace).symm

theorem AgreeAt.trans (hab : AgreeAt places a b) (hbc : AgreeAt places b c) : AgreeAt places a c :=
  fun place hplace => (hab place hplace).trans (hbc place hplace)

theorem AgreeOff.refl (places : List Location) (fs : FileSystem) : AgreeOff places fs fs :=
  ⟨rfl, fun _ _ => rfl⟩

theorem AgreeOff.symm (hab : AgreeOff places a b) : AgreeOff places b a where
  workingDirectory_eq := hab.workingDirectory_eq.symm
  node?_eq place hplace := (hab.node?_eq place hplace).symm

theorem AgreeOff.trans (hab : AgreeOff places a b) (hbc : AgreeOff places b c) :
    AgreeOff places a c where
  workingDirectory_eq := hab.workingDirectory_eq.trans hbc.workingDirectory_eq
  node?_eq place hplace := (hab.node?_eq place hplace).trans (hbc.node?_eq place hplace)

theorem AgreeOff.mono (hab : AgreeOff places a b) (hsubset : places ⊆ others) :
    AgreeOff others a b where
  workingDirectory_eq := hab.workingDirectory_eq
  node?_eq place hplace := hab.node?_eq place fun hmem => hplace (hsubset hmem)

/-- File systems that differ at some places at most agree at all others. -/
theorem AgreeOff.agreeAt (hab : AgreeOff places a b)
    (hdisjoint : ∀ place ∈ others, place ∉ places) : AgreeAt others a b :=
  fun place hplace => hab.node?_eq place (hdisjoint place hplace)

theorem agreeOff_erase (hplace : place ≠ []) (hmem : place ∈ places) :
    AgreeOff places fs (fs.erase place) where
  workingDirectory_eq := rfl
  node?_eq other hother := by
    rw [node?_erase hplace, if_neg]
    rintro rfl
    exact hother hmem

end

section Without

/-- The place that a path names, whether or not anything is there. A symbolic link at the end of the
    path stands for itself. -/
def place? (fs : FileSystem) (p : Path) : Option Location :=
  match fs.resolve false p with
  | .ok (.found place _ _) => some place
  | .ok (.free place _) => some place
  | .error _ => none

/-- The files with nothing at some places. -/
def without (fs : FileSystem) (places : List Location) : FileSystem :=
  { fs with nodes := fs.nodes.filter fun entry => entry.1 ∉ places }

variable {a b : FileSystem} {places others : List Location} {root : Path} {name : Bytes}

theorem place?_join (hleads : fs.LeadsTo root home) (hname : Path.IsName name) :
    fs.place? (root.join ⟨name⟩) = if TooLong root name then none else some (home ++ [name]) := by
  rw [place?, hleads.resolve_name hname fun hfollow => absurd hfollow Bool.false_ne_true]
  by_cases hlong : TooLong root name
  · rw [if_pos hlong, if_pos hlong]
  · rw [if_neg hlong, if_neg hlong, arrive]
    cases fs.node? (home ++ [name]) <;> rfl

theorem without_nil (fs : FileSystem) : fs.without [] = fs := by
  rw [without, List.filter_eq_self.2 (by simp)]

/-- What is taken away is the same, in whatever order and however often the places are named. -/
theorem without_congr (hplaces : ∀ place, place ∈ places ↔ place ∈ others) :
    fs.without places = fs.without others := by
  simp only [without, hplaces]

theorem without_erase : (fs.erase place).without places = fs.without (place :: places) := by
  have hnodes : (fs.nodes.filter fun entry => entry.1 ≠ place).filter (fun entry => entry.1 ∉ places) =
      fs.nodes.filter fun entry => entry.1 ∉ place :: places := by
    rw [List.filter_filter]
    refine List.filter_congr fun entry _ => ?_
    rw [← Bool.decide_and, decide_eq_decide, List.mem_cons, not_or, and_comm]
  rw [erase, without, hnodes, without]

theorem erase_of_node? (hplace : place ≠ []) (hnone : fs.node? place = none) :
    fs.erase place = fs := by
  rw [node?, if_neg hplace, List.lookup_eq_none_iff] at hnone
  have hnodes : fs.nodes.filter (fun entry => entry.1 ≠ place) = fs.nodes := by
    rw [List.filter_eq_self]
    intro entry hmem
    have hne := hnone entry hmem
    rw [bne_iff_ne] at hne
    exact decide_eq_true hne.symm
  rw [erase, hnodes]

theorem agreeOff_without (places : List Location) (fs : FileSystem) :
    AgreeOff places fs (fs.without places) where
  workingDirectory_eq := rfl
  node?_eq place hplace := by
    have hlookup : ∀ nodes : List (Location × Node),
        (nodes.filter fun entry => entry.1 ∉ places).lookup place = nodes.lookup place := by
      intro nodes
      induction nodes with
      | nil => rfl
      | cons first rest ih =>
        rw [List.filter_cons]
        split
        next => rw [lookup_cons_ite, lookup_cons_ite, ih]
        next hmem =>
          rw [lookup_cons_ite, ih, if_neg]
          rintro rfl
          exact hmem (decide_eq_true hplace)
    rw [node?, node?, without, hlookup]

/-- File systems that are the same without some places differ at these places at most. -/
theorem agreeOff_of_without_eq (hrest : a.without places = b.without places) :
    AgreeOff places a b := by
  have hb := agreeOff_without places b
  rw [← hrest] at hb
  exact (agreeOff_without places a).trans hb.symm

end Without

end BootChain.FileSystem
