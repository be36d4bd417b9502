import BootChain.Proofs.FileSystem.Appending
import BootChain.Proofs.Path.Way

namespace BootChain.FileSystem

/-- A walk ends at a directory, or where the path asks for one. -/
inductive Target.AtDirectory : Target → Prop
  | dir (place : Location) (asDirectory : Bool) : AtDirectory (.found place .dir asDirectory)
  | found (place : Location) (node : Node) : AtDirectory (.found place node true)
  | free (place : Location) : AtDirectory (.free place true)

/-- What comes of a write at a place: a regular file that holds just what was written, or nothing if
    a device took it. -/
inductive Written (fs : FileSystem) (place : Location) (content : Bytes) : FileSystem → Prop
  | file (mode : Nat) (hfile : fs.FileOrFree place) :
    Written fs place content (fs.put place (.file content mode))
  | device (device : Device) (hdevice : fs.node? place = some (.device device)) :
    Written fs place content fs

/-- A path leads to a place where there is a file with some content, or a device. Devices keep
    nothing of what they take. -/
inductive Took (fs : FileSystem) (p : Path) (place : Location) (content : Bytes) : Prop
  | file (mode : Nat) (hstat : fs.stat p = .ok (place, .file content mode))
  | device (device : Device) (hstat : fs.stat p = .ok (place, .device device))

/-- A path ends at a symbolic link. -/
def AtLink (fs : FileSystem) (p : Path) : Prop := ∃ target, fs.occupant? p = some (.link target)

instance (fs : FileSystem) (p : Path) : Decidable (fs.AtLink p) :=
  match hoccupant : fs.occupant? p with
  | some (.link target) => isTrue ⟨target, hoccupant⟩
  | none => isFalse fun ⟨_, hlink⟩ => nomatch hoccupant.symm.trans hlink
  | some (.file _ _) => isFalse fun ⟨_, hlink⟩ => nomatch hoccupant.symm.trans hlink
  | some .dir => isFalse fun ⟨_, hlink⟩ => nomatch hoccupant.symm.trans hlink
  | some (.device _) => isFalse fun ⟨_, hlink⟩ => nomatch hoccupant.symm.trans hlink

variable {fs later : FileSystem} {place here home : Location} {budget mode : Nat}
  {name last : Bytes} {pieces : List Bytes} {p root : Path} {target : Target} {content : Bytes}

/-- A piece that is no step of its own leads from a directory to a directory, whatever there is. -/
theorem Grounded.exists_passage_on (hgrounded : fs.Grounded) (hdir : fs.node? here = some .dir)
    (hslash : Path.slash ∉ last) (hlast : ¬ Path.IsStep last) :
    ∃ next, fs.passage here last = .on next ∧ fs.node? next = some .dir := by
  by_cases hidle : last = [] ∨ last = [Path.dot]
  · exact ⟨here, by rw [passage, if_pos hidle], hdir⟩
  · obtain ⟨hnil, hdot⟩ := not_or.1 hidle
    have hdots : last = [Path.dot, Path.dot] := by
      by_contra hdots
      exact hlast ⟨hslash, hnil, hdot, hdots⟩
    subst hdots
    exact ⟨here.dropLast, rfl, hgrounded.parent here .dir hdir⟩

/-- A piece of a path that ends in no step of its own has more behind it, unless it leads on. -/
theorem Grounded.exists_behind (hgrounded : fs.Grounded) (hdir : fs.node? here = some .dir)
    (hslash : Path.slash ∉ last) (hlast : ¬ Path.IsStep last) {piece : Bytes} {rest : List Bytes}
    (hall : pieces ++ [last] = piece :: rest) (hon : ∀ next, fs.passage here piece ≠ .on next) :
    ∃ more, more ++ [last] = rest := by
  cases pieces with
  | nil =>
    cases hall
    obtain ⟨next, hnext, -⟩ := hgrounded.exists_passage_on hdir hslash hlast
    exact absurd hnext (hon next)
  | cons first more =>
    cases hall
    exact ⟨more, rfl⟩

/-- A walk whose last piece is no step of its own ends at a directory if it ends at all. -/
theorem Grounded.atDirectory_of_walks (hgrounded : fs.Grounded) (hdir : fs.node? here = some .dir)
    (hslash : Path.slash ∉ last) (hlast : ¬ Path.IsStep last)
    (hwalks : fs.Walks true budget here (pieces ++ [last]) target) : target.AtDirectory := by
  generalize hall : pieces ++ [last] = all at hwalks
  induction hwalks generalizing pieces with
  | arrived => simp at hall
  | on hpassage hrest ih =>
    cases pieces with
    | nil =>
      cases hall
      obtain ⟨next, hnext, hfound⟩ := hgrounded.exists_passage_on hdir hslash hlast
      cases hpassage.symm.trans hnext
      cases hrest with
      | arrived hnode =>
        cases hfound.symm.trans hnode
        exact .dir _ _
    | cons first more =>
      cases hall
      exact ih (hgrounded.dir_of_passage hdir hpassage) rfl
  | linked _ hstay => exact absurd hstay.2 (by decide)
  | followed hpassage _ _ ih =>
    obtain ⟨more, rfl⟩ := hgrounded.exists_behind hdir hslash hlast hall (by simp [hpassage])
    exact ih (dir_start hdir) (List.append_assoc _ _ _)
  | blocked hpassage =>
    obtain ⟨more, rfl⟩ := hgrounded.exists_behind hdir hslash hlast hall (by simp [hpassage])
    rw [List.isEmpty_eq_false_iff.2 (List.concat_ne_nil _ _)]
    exact .found _ _
  | free hpassage =>
    obtain ⟨more, rfl⟩ := hgrounded.exists_behind hdir hslash hlast hall (by simp [hpassage])
    rw [List.isEmpty_eq_false_iff.2 (List.concat_ne_nil _ _)]
    exact .free _

theorem write_cases (hwritten : fs.write p content = .ok later) :
    ∃ target, fs.resolve true p = .ok target ∧
      ((∃ place mode, target.Writable place false ∧ later = fs.put place (.file content mode)) ∨
        ∃ place device, target = .found place (.device device) false ∧ later = fs) := by
  rw [write, modify] at hwritten
  cases hresolve : fs.resolve true p with
  | error e =>
    rw [hresolve] at hwritten
    cases hwritten
  | ok target =>
    rw [hresolve] at hwritten
    refine ⟨target, rfl, ?_⟩
    cases target with
    | free place asDirectory =>
      cases asDirectory with
      | true => cases hwritten
      | false =>
        cases hwritten
        exact .inl ⟨place, newFileMode, .free, rfl⟩
    | found place node asDirectory =>
      cases asDirectory with
      | true => cases hwritten
      | false =>
        cases node with
        | file old mode =>
          cases hwritten
          exact .inl ⟨place, mode, .file old mode, rfl⟩
        | dir => cases hwritten
        | link => cases hwritten
        | device device =>
          simp only [bind, Except.bind] at hwritten
          split at hwritten <;> cases hwritten
          exact .inr ⟨place, device, rfl, rfl⟩

/-- Only the path of a name can be written to. -/
theorem Grounded.exists_name_of_write (hgrounded : fs.Grounded)
    (hwritten : fs.write p content = .ok later) :
    ∃ before name, Path.IsLead before ∧ Path.IsName name ∧ p = ⟨before ++ name⟩ := by
  obtain ⟨target, hresolve, hend⟩ := write_cases hwritten
  obtain ⟨hnul, -, -, hwalk⟩ := resolve_eq_ok_iff.1 hresolve
  obtain ⟨before, last, hbytes, hlead, hslash⟩ := Path.exists_last p.bytes
  obtain ⟨pieces, hpieces⟩ := Path.exists_segments_append hlead hslash
  refine ⟨before, last, hlead, ?_, congrArg Path.mk hbytes⟩
  have hstep : Path.IsStep last := by
    by_contra hlast
    rw [hbytes, hpieces, walk_eq_ok_iff] at hwalk
    have hdirectory :=
      hgrounded.atDirectory_of_walks (dir_start hgrounded.working) hslash hlast hwalk
    obtain ⟨place, mode, hwritable, -⟩ | ⟨place, device, rfl, -⟩ := hend
    · cases hwritable <;> cases hdirectory
    · cases hdirectory
  have hnulLast : 0 ∉ last := fun hmem => hnul (by simp [hbytes, hmem])
  exact ⟨hslash, hnulLast, hstep.ne_nil, hstep.ne_dot, hstep.ne_dots⟩

/-- A file that is put somewhere is on no way to a directory. -/
theorem Walks.dir_put_file (hplace : place ≠ []) (hfile : fs.FileOrFree place)
    {follow asDirectory : Bool}
    (hwalks : fs.Walks follow budget here pieces (.found home .dir asDirectory)) :
    (fs.put place (.file content mode)).Walks follow budget here pieces
      (.found home .dir asDirectory) := by
  generalize htarget : Target.found home .dir asDirectory = target at hwalks ⊢
  induction hwalks with
  | arrived hnode =>
    cases htarget
    refine .arrived ?_
    rw [node?_put hplace, if_neg]
    · exact hnode
    · rintro rfl
      obtain ⟨_, _, hsame⟩ := hfile _ hnode
      cases hsame
  | on hpassage _ ih =>
    exact .on (passage_put_file hplace hfile hpassage nofun nofun) (ih htarget)
  | followed hpassage hstay _ ih =>
    exact .followed (passage_put_file hplace hfile hpassage nofun nofun) hstay (ih htarget)
  | blocked hpassage =>
    cases htarget
    exact absurd rfl (passage_eq_blocked hpassage).2
  | linked => cases htarget
  | free => cases htarget

theorem stat_dir_iff : fs.stat p = .ok (home, .dir) ↔
    ∃ asDirectory, fs.resolve true p = .ok (.found home .dir asDirectory) := by
  refine ⟨resolve_of_stat, ?_⟩
  rintro ⟨asDirectory, hresolve⟩
  rw [stat, hresolve]
  simp [bind, Except.bind]

theorem LeadsTo.put_file (hleads : fs.LeadsTo root home) (hplace : place ≠ [])
    (hfile : fs.FileOrFree place) :
    (fs.put place (.file content mode)).LeadsTo root home := by
  cases hleads with
  | here hroot hhome => exact .here hroot (workingDirectory_put.trans hhome)
  | there hstat =>
    obtain ⟨asDirectory, hresolve⟩ := stat_dir_iff.1 hstat
    obtain ⟨hnul, hne, hlength, hwalk⟩ := resolve_eq_ok_iff.1 hresolve
    refine .there (stat_dir_iff.2 ⟨asDirectory, resolve_eq_ok_iff.2 ⟨hnul, hne, hlength, ?_⟩⟩)
    rw [workingDirectory_put]
    exact walk_eq_ok_iff.2 ((walk_eq_ok_iff.1 hwalk).dir_put_file hplace hfile)

theorem LeadsTo.dir (hleads : fs.LeadsTo root home) (hgrounded : fs.Grounded) :
    fs.node? home = some .dir := by
  cases hleads with
  | here _ hhome => exact hhome ▸ hgrounded.working
  | there hstat => exact node?_of_stat hstat

/-- A walk that comes to a target has not come to a name that is too long. -/
theorem LeadsTo.not_tooLong {follow : Bool} (hleads : fs.LeadsTo root home)
    (hname : Path.IsName name) (hresolve : fs.resolve follow (root.join ⟨name⟩) = .ok target) :
    ¬ TooLong root name := by
  rintro (hlong | hlong)
  · exact Nat.not_lt.2 hlong (resolve_eq_ok_iff.1 hresolve).2.2.1
  · rw [hleads.resolve_join hname fun _ => walk_name_of_lt hname hlong, ite_self] at hresolve
    cases hresolve

/-- A file can stand in a directory wherever there is nothing but a file. -/
theorem Grounded.put_file (hgrounded : fs.Grounded) (hdir : fs.node? home = some .dir)
    (hfile : fs.FileOrFree (home ++ [name])) :
    (fs.put (home ++ [name]) (.file content mode)).Grounded := by
  have hkeep : ∀ other, fs.node? other = some .dir →
      (fs.put (home ++ [name]) (.file content mode)).node? other = some .dir := by
    intro other hother
    rw [node?_put (by simp), if_neg]
    · exact hother
    · rintro rfl
      obtain ⟨_, _, hsame⟩ := hfile _ hother
      cases hsame
  constructor
  · intro other node hother
    rw [node?_put (by simp)] at hother
    split at hother
    next heq =>
      rw [heq, List.dropLast_concat]
      exact hkeep home hdir
    next => exact hkeep _ (hgrounded.parent other node hother)
  · rw [workingDirectory_put]
    exact hkeep _ hgrounded.working

theorem Written.grounded (hwritten : Written fs (home ++ [name]) content later)
    (hgrounded : fs.Grounded) (hdir : fs.node? home = some .dir) : later.Grounded := by
  cases hwritten with
  | file mode hfile => exact hgrounded.put_file hdir hfile
  | device => exact hgrounded

namespace Written

variable (hwritten : Written fs place content later) (hplace : place ≠ [])
include hwritten hplace

theorem leadsTo (hleads : fs.LeadsTo root home) : later.LeadsTo root home := by
  cases hwritten with
  | file mode hfile => exact hleads.put_file hplace hfile
  | device => exact hleads

theorem agreeOff : AgreeOff [place] later fs := by
  cases hwritten with
  | file mode =>
    refine ⟨workingDirectory_put, fun other hother => ?_⟩
    rw [node?_put hplace, if_neg (List.ne_of_not_mem_cons hother)]
  | device => exact .refl _ _

end Written

/-- Writing to a name in a directory, where no link stands, writes at its place there. -/
theorem LeadsTo.write_name (hleads : fs.LeadsTo root home) (hname : Path.IsName name)
    (hlink : ¬ fs.HasLink (home ++ [name]))
    (hwritten : fs.write (root.join ⟨name⟩) content = .ok later) :
    ¬ TooLong root name ∧ Written fs (home ++ [name]) content later := by
  obtain ⟨target, hresolve, hend⟩ := write_cases hwritten
  rw [hleads.resolve_name hname fun _ => hlink] at hresolve
  split at hresolve
  next => cases hresolve
  next hshort =>
    refine ⟨hshort, ?_⟩
    rw [arrive] at hresolve
    split at hresolve
    next hnode =>
      cases hresolve
      obtain ⟨place, mode, hwritable, rfl⟩ | ⟨place, device, htarget, -⟩ := hend
      · cases hwritable
        refine .file mode fun node hother => ?_
        cases hnode.symm.trans hother
      · cases htarget
    next node hnode =>
      cases hresolve
      obtain ⟨place, mode, hwritable, rfl⟩ | ⟨place, device, htarget, rfl⟩ := hend
      · cases hwritable with
        | file old oldMode =>
          exact .file mode fun node hother =>
            ⟨old, oldMode, Option.some.inj (hother.symm.trans hnode)⟩
      · cases htarget
        exact .device device hnode

/-- What stands at the end of a name in a directory. -/
theorem LeadsTo.occupant?_name (hleads : fs.LeadsTo root home) (hname : Path.IsName name)
    (hshort : ¬ TooLong root name) :
    fs.occupant? (root.join ⟨name⟩) = fs.node? (home ++ [name]) := by
  rw [occupant?, hleads.resolve_name hname fun hfollow => absurd hfollow Bool.false_ne_true,
    if_neg hshort, arrive]
  cases fs.node? (home ++ [name]) <;> rfl

theorem LeadsTo.stat_name {node : Node} (hleads : fs.LeadsTo root home) (hname : Path.IsName name)
    (hshort : ¬ TooLong root name) (hnode : fs.node? (home ++ [name]) = some node)
    (hlink : ∀ target, node ≠ .link target) :
    fs.stat (root.join ⟨name⟩) = .ok (home ++ [name], node) := by
  have hlink' : ¬ fs.HasLink (home ++ [name]) := by
    rintro ⟨target, htarget⟩
    exact hlink target (Option.some.inj (hnode.symm.trans htarget))
  rw [stat, hleads.resolve_name hname fun _ => hlink', if_neg hshort, arrive, hnode]
  simp [bind, Except.bind]

theorem Written.hasLink_iff (hwritten : Written fs place content later) (hplace : place ≠ [])
    {other : Location} : later.HasLink other ↔ fs.HasLink other := by
  cases hwritten with
  | device => rfl
  | file mode hfile =>
    rw [HasLink, HasLink, node?_put hplace]
    split
    next heq =>
      subst heq
      constructor
      · rintro ⟨target, htarget⟩
        cases htarget
      · rintro ⟨target, htarget⟩
        obtain ⟨_, _, hsame⟩ := hfile _ htarget
        cases hsame
    next => rfl

/-- What was written to the name was written in the directory, if no link stands there. -/
theorem Grounded.exists_written (hgrounded : fs.Grounded) (hname : Path.IsName name)
    (hlink : ¬ fs.AtLink (root.join ⟨name⟩))
    (hwritten : fs.write (root.join ⟨name⟩) content = .ok later) :
    ∃ home, fs.LeadsTo root home ∧ ¬ TooLong root name ∧
      Written fs (home ++ [name]) content later := by
  obtain ⟨target, hresolve, -⟩ := write_cases hwritten
  obtain ⟨home, hleads⟩ := hgrounded.leadsTo_of_resolve hname hresolve
  have hshort := hleads.not_tooLong hname hresolve
  rw [AtLink, hleads.occupant?_name hname hshort] at hlink
  exact ⟨home, hleads, hleads.write_name hname hlink hwritten⟩

/-- A write leaves no symbolic link at a name in the directory where there was none. -/
theorem Written.not_atLink (hwritten : Written fs place content later) (hplace : place ≠ [])
    (hleads : fs.LeadsTo root home) (hname : Path.IsName name)
    (hlink : ¬ fs.AtLink (root.join ⟨name⟩)) : ¬ later.AtLink (root.join ⟨name⟩) := by
  rintro ⟨target, htarget⟩
  obtain ⟨_, _, hresolve⟩ := occupant?_eq_some_iff.1 htarget
  have hleadsLater := hwritten.leadsTo hplace hleads
  have hshort := hleadsLater.not_tooLong hname hresolve
  rw [hleadsLater.occupant?_name hname hshort] at htarget
  rw [AtLink, hleads.occupant?_name hname hshort] at hlink
  exact hlink ((hwritten.hasLink_iff hplace).1 ⟨target, htarget⟩)

/-- The path of a name leads to what was written there, as long as that stays. -/
theorem Written.took {after : FileSystem} (hwritten : Written fs (home ++ [name]) content later)
    (hsame : after.node? (home ++ [name]) = later.node? (home ++ [name]))
    (hleads : after.LeadsTo root home) (hname : Path.IsName name) (hshort : ¬ TooLong root name) :
    after.Took (root.join ⟨name⟩) (home ++ [name]) content := by
  cases hwritten with
  | file mode =>
    rw [node?_put_self (by simp)] at hsame
    exact .file mode (hleads.stat_name hname hshort hsame nofun)
  | device device hdevice =>
    rw [hdevice] at hsame
    exact .device device (hleads.stat_name hname hshort hsame nofun)

end BootChain.FileSystem
