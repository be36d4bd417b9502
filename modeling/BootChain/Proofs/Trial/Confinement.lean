import BootChain.Proofs.FileSystem
import BootChain.Proofs.Trial.Weave

namespace BootChain

variable {ρ : Type}

/-- A world that has not been cancelled, in which the files are as they were when the artifact
    directory had been made, but for the places of artifacts; and no symbolic link is at some of
    these. -/
structure World.Orderly (made : FileSystem) (places own : List Location) (world : World ρ) :
    Prop where
  agreeOff : FileSystem.AgreeOff places made world.files
  unlinked : ∀ place ∈ own, ¬ world.files.HasLink place
  going : world.cancelled = false

/-- In the worlds in question a runner keeps to some places: it touches no others, its answers and
    what it leaves there do not depend on others, and it does not cancel the run. -/
structure Runner.KeepsTo (own : List Location) (among : World ρ → Prop) (runner : Runner ρ) :
    Prop where
  touches : ∀ command limitMs world, among world →
    FileSystem.AgreeOff own world.files (runner command limitMs world).2.files
  determined : ∀ command limitMs first second, among first → among second →
    FileSystem.AgreeAt own first.files second.files →
      (runner command limitMs first).1 = (runner command limitMs second).1 ∧
        FileSystem.AgreeAt own (runner command limitMs first).2.files
          (runner command limitMs second).2.files
  going : ∀ command limitMs world, among world → (runner command limitMs world).2.cancelled = false

theorem Runner.KeepsTo.mono {own : List Location} {among fewer : World ρ → Prop}
    {runner : Runner ρ} (hkeeps : runner.KeepsTo own among)
    (hfewer : ∀ world, fewer world → among world) : runner.KeepsTo own fewer where
  touches command limitMs world hworld :=
    hkeeps.touches command limitMs world (hfewer world hworld)
  determined command limitMs first second hfirst hsecond :=
    hkeeps.determined command limitMs first second (hfewer first hfirst) (hfewer second hsecond)
  going command limitMs world hworld := hkeeps.going command limitMs world (hfewer world hworld)

/-- A runner keeps to some places among those of all artifacts, and puts no symbolic link there. -/
structure Runner.Confined (made : FileSystem) (places own : List Location) (runner : Runner ρ) :
    Prop where
  keepsTo : runner.KeepsTo own (World.Orderly made places own)
  unlinked : ∀ command limitMs world, World.Orderly made places own world →
    ∀ place ∈ own, ¬ (runner command limitMs world).2.files.HasLink place

namespace Trial

/-- The places of some names in a directory. -/
def placesIn (home : Location) (names : List Bytes) : List Location :=
  names.map fun name => home ++ [name]

/-- Puts a node at the places of some names. -/
def strew (home : Location) (node : Node) (names : List Bytes) (files : FileSystem) : FileSystem :=
  names.foldl (fun files name => files.put (home ++ [name]) node) files

theorem node?_strew (home : Location) (node : Node) (names : List Bytes) (files : FileSystem)
    (place : Location) : (strew home node names files).node? place =
      if place ∈ placesIn home names then some node else files.node? place := by
  induction names generalizing files with
  | nil => rfl
  | cons name rest ih =>
    change (strew home node rest (files.put (home ++ [name]) node)).node? place = _
    rw [ih, FileSystem.node?_put (by simp)]
    change _ = if place ∈ (home ++ [name]) :: placesIn home rest then _ else _
    by_cases hrest : place ∈ placesIn home rest
    · simp [hrest]
    · simp [hrest]

theorem workingDirectory_strew (home : Location) (node : Node) (names : List Bytes)
    (files : FileSystem) :
    (strew home node names files).workingDirectory = files.workingDirectory := by
  induction names generalizing files with
  | nil => rfl
  | cons name rest ih => exact (ih _).trans FileSystem.workingDirectory_put

/-- A runner whose programs all succeed and leave a node at the places of some names. -/
def leaving (home : Location) (node : Node) (names : List Bytes) : Runner Unit :=
  fun command _ world =>
    (.ok ⟨command.line, .exited (some 0), [], [], 0⟩,
      { world with files := strew home node names world.files })

theorem keepsTo_leaving (home : Location) (node : Node) (names : List Bytes) :
    (leaving home node names).KeepsTo (placesIn home names) (·.cancelled = false) where
  touches _ _ world _ :=
    { workingDirectory_eq := (workingDirectory_strew home node names world.files).symm
      node?_eq := fun place hplace => by rw [leaving, node?_strew, if_neg hplace] }
  determined _ _ first second _ _ _ :=
    ⟨rfl, fun place hplace => by
      rw [leaving, leaving, node?_strew, node?_strew, if_pos hplace, if_pos hplace]⟩
  going _ _ _ hgoing := hgoing

theorem confined_leaving {made : FileSystem} {places : List Location} {home : Location}
    {node : Node} {names : List Bytes} (hnode : ∀ target, node ≠ .link target) :
    (leaving home node names).Confined made places (placesIn home names) where
  keepsTo := (keepsTo_leaving home node names).mono fun world horderly => horderly.going
  unlinked command limitMs world _ place hplace := by
    rintro ⟨target, hlink⟩
    rw [leaving, node?_strew, if_pos hplace] at hlink
    exact hnode target (Option.some.inj hlink)

/-- A runner whose programs do nothing at all. -/
def idle : Runner Unit := fun command _ world =>
  (.ok ⟨command.line, .exited (some 0), [], [], 0⟩, world)

/-- The part of an artifact directory that is one pair's own: some names in it, and a runner that
    keeps to their places. The directory is reached whatever stands at the places of artifacts. -/
structure Plot (root : Path) (home : Location) (made : FileSystem) (places : List Location)
    (names : List Bytes) (runner : Runner ρ) : Prop where
  leads : ∀ files, FileSystem.AgreeOff places made files → files.LeadsTo root home
  isName : ∀ name ∈ names, Path.IsName name
  subset : placesIn home names ⊆ places
  confined : runner.Confined made places (placesIn home names)

/-- What a trial finds once it has its directory and has cleared some files. -/
structure Fit (root : Path) (home : Location) (made : FileSystem) (places : List Location)
    (names : List Bytes) (cleared : List Path) (world : World ρ) : Prop where
  agreeOff : FileSystem.AgreeOff places made world.files
  going : world.cancelled = false
  unlinked : ∀ name ∈ names, root.join ⟨name⟩ ∈ cleared → ¬ world.files.HasLink (home ++ [name])

variable {root : Path} {home : Location} {made : FileSystem} {places : List Location}
  {names : List Bytes} {runner : Runner ρ} {cleared : List Path} {world first second : World ρ}
  {name : Bytes}

theorem mem_placesIn (hname : name ∈ names) : home ++ [name] ∈ placesIn home names :=
  List.mem_map_of_mem hname

theorem Fit.orderly (hfit : Fit root home made places names cleared world)
    (hcleared : pathsUnder root names ⊆ cleared) :
    World.Orderly made places (placesIn home names) world where
  agreeOff := hfit.agreeOff
  unlinked place hplace := by
    obtain ⟨name, hname, rfl⟩ := List.mem_map.1 hplace
    exact hfit.unlinked name hname (hcleared (List.mem_map_of_mem hname))
  going := hfit.going

/-- After a turn of its own a trial finds things as they have to be for the next one, and it has
    touched nothing but its own. -/
structure Advanced (root : Path) (home : Location) (made : FileSystem) (places : List Location)
    (names : List Bytes) (readiness : Readiness) (before after : World ρ) : Prop where
  touches : FileSystem.AgreeOff (placesIn home names) before.files after.files
  fit : ∃ cleared, readiness = .ready cleared ∧ Fit root home made places names cleared after

theorem Fit.stay (hfit : Fit root home made places names cleared world) {after : World ρ}
    (hfiles : after.files = world.files) (hcancelled : after.cancelled = world.cancelled) :
    Advanced root home made places names (.ready cleared) world after where
  touches := by
    rw [hfiles]
    exact .refl _ _
  fit := by
    refine ⟨cleared, rfl, ?_, hcancelled.trans hfit.going, ?_⟩
    · rw [hfiles]
      exact hfit.agreeOff
    · rw [hfiles]
      exact hfit.unlinked

section

variable (hplot : Plot root home made places names runner)
include hplot

/-- One more file is cleared if no link is at its place any more, and none has come up elsewhere. -/
theorem Fit.clear (hfit : Fit root home made places names cleared world) (hname : name ∈ names)
    {files : FileSystem} (htouches : FileSystem.AgreeOff (placesIn home names) world.files files)
    (hkept : ∀ place, files.HasLink place → world.files.HasLink place)
    (hgone : ¬ files.HasLink (home ++ [name])) :
    Advanced root home made places names (.ready (root.join ⟨name⟩ :: cleared)) world
      { world with files } where
  touches := htouches
  fit := by
    refine ⟨_, rfl, hfit.agreeOff.trans (htouches.mono hplot.subset), hfit.going, ?_⟩
    intro other hother hcleared hlink
    rcases List.mem_cons.1 hcleared with heq | hcleared
    · cases (Path.join_inj (hplot.isName other hother) (hplot.isName name hname)).1 heq
      exact hgone hlink
    · exact hfit.unlinked other hother hcleared (hkept _ hlink)

/-- A file is cleared once it has been removed, or was not there to be removed. -/
theorem Fit.removeFile (hfit : Fit root home made places names cleared world)
    (hname : name ∈ names) :
    Advanced root home made places names
      ((tidy root (pathsUnder root names)).note (.ready cleared) (.removeFile (root.join ⟨name⟩))
        (world.update (world.files.removeFile (root.join ⟨name⟩))).1)
      world (world.update (world.files.removeFile (root.join ⟨name⟩))).2 := by
  have hplace : home ++ [name] ≠ [] := by simp
  rw [(hplot.leads _ hfit.agreeOff).removeFile_name (hplot.isName name hname)]
  split
  next => exact hfit.stay rfl rfl
  next =>
    split
    next hnone =>
      refine hfit.clear hplot hname (.refl _ _) (fun _ hlink => hlink) ?_
      rintro ⟨target, hlink⟩
      cases hlink.symm.trans hnone
    next => exact hfit.stay rfl rfl
    next =>
      refine hfit.clear hplot hname (FileSystem.agreeOff_erase hplace (mem_placesIn hname)) ?_ ?_
      · exact fun place hlink => ((FileSystem.hasLink_erase_iff hplace).1 hlink).2
      · exact fun hlink => ((FileSystem.hasLink_erase_iff hplace).1 hlink).1 rfl

/-- What a trial asks for leaves it fit to go on. -/
theorem Fit.answer (hfit : Fit root home made places names cleared world) {request : Request}
    (hallowed : (tidy root (pathsUnder root names)).allows (.ready cleared) request) :
    Advanced root home made places names
      ((tidy root (pathsUnder root names)).note (.ready cleared) request
        (World.answer runner request world).1)
      world (World.answer runner request world).2 := by
  cases request with
  | createDirs directory => exact hallowed.elim
  | removeFile file =>
    obtain ⟨name, hname, rfl⟩ := List.mem_map.1 hallowed
    exact hfit.removeFile hplot hname
  | isCancelled => exact hfit.stay rfl rfl
  | isFile file => exact hfit.stay rfl rfl
  | emit event => exact hfit.stay rfl rfl
  | call command limitMs =>
    have horderly := hfit.orderly hallowed
    have htouches := hplot.confined.keepsTo.touches command limitMs world horderly
    refine ⟨htouches, cleared, rfl, hfit.agreeOff.trans (htouches.mono hplot.subset), ?_, ?_⟩
    · have hgoing := hplot.confined.keepsTo.going command limitMs world horderly
      change (world.cancelled || (runner command limitMs world).2.cancelled) = false
      rw [hfit.going, hgoing]
      rfl
    · exact fun name hname _ =>
        hplot.confined.unlinked command limitMs world horderly _ (mem_placesIn hname)

/-- What a trial is answered, and what it leaves, depends on its own places alone. -/
theorem Fit.determined (hfirst : Fit root home made places names cleared first)
    (hsecond : Fit root home made places names cleared second)
    (hagree : FileSystem.AgreeAt (placesIn home names) first.files second.files)
    {request : Request}
    (hallowed : (tidy root (pathsUnder root names)).allows (.ready cleared) request) :
    (World.answer runner request first).1 = (World.answer runner request second).1 ∧
      FileSystem.AgreeAt (placesIn home names) (World.answer runner request first).2.files
        (World.answer runner request second).2.files := by
  cases request with
  | createDirs directory => exact hallowed.elim
  | isCancelled => exact ⟨hfirst.going.trans hsecond.going.symm, hagree⟩
  | emit event => exact ⟨rfl, hagree⟩
  | call command limitMs =>
    exact hplot.confined.keepsTo.determined command limitMs first second (hfirst.orderly hallowed)
      (hsecond.orderly hallowed) hagree
  | isFile file =>
    obtain ⟨hown, hcleared⟩ := hallowed
    obtain ⟨name, hname, rfl⟩ := List.mem_map.1 hown
    have hpath : root.join ⟨name⟩ ∈ cleared := hcleared hown
    refine ⟨?_, hagree⟩
    change first.files.isFile _ = second.files.isFile _
    rw [Bool.eq_iff_iff,
      (hplot.leads _ hfirst.agreeOff).isFile_name (hplot.isName name hname)
        (hfirst.unlinked name hname hpath),
      (hplot.leads _ hsecond.agreeOff).isFile_name (hplot.isName name hname)
        (hsecond.unlinked name hname hpath),
      hagree _ (mem_placesIn hname)]
  | removeFile file =>
    obtain ⟨name, hname, rfl⟩ := List.mem_map.1 hallowed
    have hplace : home ++ [name] ≠ [] := by simp
    change (first.update _).1 = (second.update _).1 ∧
      FileSystem.AgreeAt _ (first.update _).2.files (second.update _).2.files
    rw [(hplot.leads _ hfirst.agreeOff).removeFile_name (hplot.isName name hname),
      (hplot.leads _ hsecond.agreeOff).removeFile_name (hplot.isName name hname),
      hagree _ (mem_placesIn hname)]
    split
    next => exact ⟨rfl, hagree⟩
    next =>
      split
      next => exact ⟨rfl, hagree⟩
      next => exact ⟨rfl, hagree⟩
      next =>
        refine ⟨rfl, fun place hmem => ?_⟩
        change (first.files.erase _).node? place = (second.files.erase _).node? place
        rw [FileSystem.node?_erase hplace, FileSystem.node?_erase hplace, hagree place hmem]

end

end Trial

end BootChain
