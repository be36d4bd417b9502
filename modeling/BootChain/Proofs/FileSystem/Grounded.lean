import BootChain.Proofs.FileSystem
import BootChain.Proofs.Path.Way

namespace BootChain.FileSystem

/-- Whatever there is stands in a directory, and relative paths start from one. -/
structure Grounded (fs : FileSystem) : Prop where
  parent : ∀ place node, fs.node? place = some node → fs.node? place.dropLast = some .dir
  working : fs.node? fs.workingDirectory = some .dir

/-- A place in a directory that there is. -/
def Within (fs : FileSystem) (place : Location) : Prop :=
  ∃ here piece, place = here ++ [piece] ∧ fs.node? here = some .dir

/-- It is enough to look at the nodes there are. -/
theorem grounded_of_nodes {fs : FileSystem}
    (hparent : ∀ entry ∈ fs.nodes, fs.node? entry.1.dropLast = some .dir)
    (hworking : fs.node? fs.workingDirectory = some .dir) : fs.Grounded where
  parent place node hnode := by
    rw [node?] at hnode
    split at hnode
    next hroot =>
      rw [hroot]
      rfl
    next =>
      obtain ⟨before, after, hnodes, -⟩ := List.lookup_eq_some_iff.1 hnode
      exact hparent (place, node) (by simp [hnodes])
  working := hworking

namespace Grounded

variable {fs : FileSystem} {place here : Location} {piece name : Bytes}

/-- Where a walk along a path starts, or goes on from a link, there is a directory. -/
theorem dir_start {p : Path} (hdir : fs.node? here = some .dir) :
    fs.node? (if p.isAbsolute then [] else here) = some .dir := by
  split
  · rfl
  · exact hdir

section

variable (hgrounded : fs.Grounded)
include hgrounded

theorem dir_of_passage {next : Location} (hdir : fs.node? here = some .dir)
    (hpassage : fs.passage here piece = .on next) : fs.node? next = some .dir := by
  rcases passage_eq_on hpassage with rfl | rfl | hnext
  · exact hdir
  · exact hgrounded.parent here .dir hdir
  · exact hnext

section

variable {follow asDirectory : Bool} {budget left : Nat} {pieces idle : List Bytes} {node : Node}
  {target : Target}

/-- A walk that starts in a directory passes directories only. -/
theorem dir_of_passes (hdir : fs.node? here = some .dir)
    (hpasses : fs.Passes budget here pieces left place) : fs.node? place = some .dir := by
  induction hpasses with
  | done => exact hdir
  | on hpassage _ ih => exact ih (hgrounded.dir_of_passage hdir hpassage)
  | followed _ _ ih => exact ih (dir_start hdir)

/-- A free place that a walk comes to is in a directory. -/
theorem within_of_walk (hdir : fs.node? here = some .dir)
    (hwalk : fs.walk follow budget here pieces = .ok (.free place asDirectory)) :
    fs.Within place := by
  rw [walk_eq_ok_iff] at hwalk
  generalize htarget : Target.free place asDirectory = target at hwalk
  induction hwalk with
  | arrived => cases htarget
  | on hpassage _ ih => exact ih (hgrounded.dir_of_passage hdir hpassage) htarget
  | linked => cases htarget
  | followed _ _ _ ih => exact ih (dir_start hdir) htarget
  | blocked => cases htarget
  | free =>
    cases htarget
    exact ⟨_, _, rfl, hdir⟩

/-- Whatever a walk to a name comes to, the walk without the name comes to a directory. -/
theorem walk_of_append_name (hname : name ≠ []) (hidle : Idle idle)
    (hdir : fs.node? here = some .dir)
    (hwalk : fs.walk follow budget here (pieces ++ [name]) = .ok target) :
    ∃ home, fs.walk true budget here (pieces ++ idle) = .ok (.found home .dir false) := by
  obtain ⟨left, home, hpasses⟩ := (walk_eq_ok_iff.1 hwalk).passes fun hlast =>
    absurd (hlast name (List.mem_singleton_self name)) hname
  refine ⟨home, ?_⟩
  rw [hpasses.walk_append fun _ => rfl, walk_idle hidle, walk_nil,
    hgrounded.dir_of_passes hdir hpasses]

/-- A walk that ends in two dots finds nothing but a directory. -/
theorem eq_dir_of_walk_dots (hdir : fs.node? here = some .dir)
    (hwalk : fs.walk follow budget here (pieces ++ [[Path.dot, Path.dot]]) =
      .ok (.found place node asDirectory)) :
    node = .dir := by
  have hnidle : ¬ Idle [[Path.dot, Path.dot]] := by decide
  obtain ⟨left, home, hpasses⟩ :=
    (walk_eq_ok_iff.1 hwalk).passes fun hidle => absurd hidle hnidle
  have hup : fs.passage home [Path.dot, Path.dot] = .on home.dropLast := rfl
  rw [hpasses.walk_append fun hidle => absurd hidle hnidle, walk_cons, hup] at hwalk
  simp only [walk_nil, hgrounded.parent home .dir (hgrounded.dir_of_passes hdir hpasses)] at hwalk
  cases hwalk
  rfl

end

/-- A path that ends in two dots leads to no file. -/
theorem isFile_dots {before : Bytes} (hbefore : Path.IsLead before) :
    fs.isFile ⟨before ++ [Path.dot, Path.dot]⟩ = false := by
  obtain ⟨pieces, hpieces⟩ := Path.exists_segments_append hbefore
    (by decide : Path.slash ∉ [Path.dot, Path.dot])
  unfold isFile
  split
  next place content mode hstat =>
    obtain ⟨asDirectory, hresolve⟩ := resolve_of_stat hstat
    obtain ⟨-, -, -, hwalk⟩ := resolve_eq_ok_iff.1 hresolve
    rw [hpieces] at hwalk
    cases hgrounded.eq_dir_of_walk_dots (dir_start hgrounded.working) hwalk
  next => rfl

/-- Where the path of a name in a directory resolves, the path of the directory leads to one. -/
theorem leadsTo_of_resolve {follow : Bool} {root : Path} {target : Target}
    (hname : Path.IsName name)
    (hresolve : fs.resolve follow (root.join ⟨name⟩) = .ok target) :
    ∃ home, fs.LeadsTo root home := by
  by_cases hroot : root.bytes = []
  · exact ⟨_, .here hroot rfl⟩
  · obtain ⟨hnul, -, hlength, hwalk⟩ := resolve_eq_ok_iff.1 hresolve
    rw [Path.nul_mem_join_iff hname] at hnul
    obtain ⟨pieces, idle, hpieces, hidle, hsegments⟩ := Path.segments_join hname hroot
    rw [hsegments, Path.isAbsolute_join hname] at hwalk
    obtain ⟨home, hhome⟩ := hgrounded.walk_of_append_name hname.ne_nil hidle
      (dir_start hgrounded.working) hwalk
    rw [← hpieces] at hhome
    have hshort := Nat.lt_of_le_of_lt (Path.length_le_length_join hname) hlength
    refine ⟨home, .there ?_⟩
    rw [stat, resolve_eq_ok_iff.2 ⟨hnul, hroot, hshort, hhome⟩]
    rfl

theorem put_dir (hwithin : fs.Within place) : (fs.put place .dir).Grounded := by
  obtain ⟨here, piece, rfl, hdir⟩ := hwithin
  have hnode : ∀ other, (fs.put (here ++ [piece]) .dir).node? other =
      if other = here ++ [piece] then some .dir else fs.node? other :=
    fun other => node?_put (by simp)
  have hkeep : ∀ other, fs.node? other = some .dir →
      (fs.put (here ++ [piece]) .dir).node? other = some .dir := by
    intro other hother
    rw [hnode]
    split
    · rfl
    · exact hother
  constructor
  · intro other node hother
    rw [hnode] at hother
    split at hother
    next heq =>
      rw [heq, List.dropLast_concat]
      exact hkeep here hdir
    next => exact hkeep _ (hgrounded.parent other node hother)
  · rw [workingDirectory_put]
    exact hkeep _ hgrounded.working

theorem of_createDir {p : Path} {later : FileSystem} (hcreated : fs.createDir p = .ok later) :
    later.Grounded := by
  obtain ⟨place, asDirectory, hresolve, rfl⟩ := createDir_eq_ok_iff.1 hcreated
  obtain ⟨-, -, -, hwalk⟩ := resolve_eq_ok_iff.1 hresolve
  exact hgrounded.put_dir (hgrounded.within_of_walk (dir_start hgrounded.working) hwalk)

end

theorem createDirs (hgrounded : fs.Grounded) (p : Path) : (fs.createDirs p).2.Grounded := by
  have hcreates := createsDirs_createDirs fs p
  generalize (fs.createDirs p).2 = later at hcreates
  induction hcreates with
  | done => exact hgrounded
  | created _ hcreated _ ih => exact ih (hgrounded.of_createDir hcreated)

/-- There is nothing to be removed in a directory that is not there and cannot be made. -/
theorem removeFile_of_createDirs {root : Path} {e : IoError} (hgrounded : fs.Grounded)
    (hname : Path.IsName name) (hrefused : (fs.createDirs root).1 = .error e) :
    ∃ e, fs.removeFile (root.join ⟨name⟩) = .error e := by
  cases hresolve : fs.resolve false (root.join ⟨name⟩) with
  | error e =>
    refine ⟨e, ?_⟩
    rw [removeFile, hresolve]
    rfl
  | ok target =>
    obtain ⟨home, hleads⟩ := hgrounded.leadsTo_of_resolve hname hresolve
    rw [hleads.createDirs_eq] at hrefused
    cases hrefused

end Grounded

end BootChain.FileSystem
