import BootChain.Proofs.FileSystem.Grounded
import BootChain.Proofs.FileSystem
import BootChain.Proofs.Trial.Interleaving
import BootChain.Proofs.Trial.Perform
import Mathlib.Data.List.Basic

namespace BootChain.Trial

open FileSystem (AgreeOff TooLong)

variable {ρ : Type} {runner : Runner ρ} {settings : Settings} {stage : Stage} {fixture : Fixture}
  {world : World ρ} {a b files : FileSystem} {home : Location} {root : Path} {names : List Bytes}
  {places : List Location}

/-- The places that some paths name, be it in one file system or in another. -/
def placesNamed (paths : List Path) (a b : FileSystem) : List Location :=
  paths.filterMap a.place? ++ paths.filterMap b.place?

/-- Two file systems with different leftovers: they are the same but for what stands at the places
    that some paths name, and that is no directory. -/
structure Leftovers (paths : List Path) (a b : FileSystem) : Prop where
  grounded : a.Grounded ∧ b.Grounded
  rest : a.without (placesNamed paths a b) = b.without (placesNamed paths a b)
  ne_dir : ∀ place ∈ placesNamed paths a b,
    a.node? place ≠ some .dir ∧ b.node? place ≠ some .dir

/-- The directory that a path leads to, if it leads to one, is reached whatever stands at some
    places. -/
def Firm (root : Path) (places : List Location) (files : FileSystem) : Prop :=
  ∀ home, files.LeadsTo root home → ∀ later, AgreeOff places files later → later.LeadsTo root home

theorem firm_of_leadsTo (hleads : ∀ later, AgreeOff places files later → later.LeadsTo root home) :
    Firm root places files := by
  intro other hother later hlater
  rw [hother.unique (hleads files (.refl _ _))]
  exact hleads later hlater

/-- Files are removed one after the other, up to the first that cannot be. -/
theorem run_removeStale_cons (file : Path) (rest : List Path) (world : World ρ) :
    (removeStale (file :: rest)).run (World.answer runner) world =
      match world.files.removeFile file with
      | .ok files => (removeStale rest).run (World.answer runner) { world with files }
      | .error .notFound => (removeStale rest).run (World.answer runner) world
      | .error e => (.error e, world) := by
  have hrequest : (Job.request (.removeFile file)).run (World.answer runner) world =
      world.update (world.files.removeFile file) := rfl
  rw [removeStale, Job.run_bind, hrequest]
  cases world.files.removeFile file with
  | ok files => rfl
  | error e => cases e <;> rfl

section

variable (hnames : ∀ name ∈ names, Path.IsName name)
include hnames

theorem filterMap_place? (hleads : files.LeadsTo root home) :
    (pathsUnder root names).filterMap files.place? =
      placesIn home (names.filter fun name => ¬ TooLong root name) := by
  rw [pathsUnder, List.filterMap_map, placesIn, ← List.filterMap_eq_map, List.filterMap_filter]
  refine List.filterMap_congr fun name hname => ?_
  rw [Function.comp_apply, FileSystem.place?_join hleads (hnames name hname)]
  by_cases hlong : TooLong root name <;> simp [hlong]

/-- Where a path names a place, its directory is there. -/
theorem exists_leadsTo_of_mem {place : Location} (hgrounded : files.Grounded)
    (hmem : place ∈ (pathsUnder root names).filterMap files.place?) :
    ∃ home, files.LeadsTo root home := by
  obtain ⟨path, hpath, hplace⟩ := List.mem_filterMap.1 hmem
  obtain ⟨name, hname, rfl⟩ := List.mem_map.1 hpath
  rw [FileSystem.place?] at hplace
  split at hplace
  next hresolve => exact hgrounded.leadsTo_of_resolve (hnames name hname) hresolve
  next hresolve => exact hgrounded.leadsTo_of_resolve (hnames name hname) hresolve
  next => cases hplace

/-- Clearing away files in a directory that is there: it goes on up to the first name that is too
    long. -/
theorem run_removeStale (world : World ρ)
    (hleads : ∀ later, AgreeOff places files later → later.LeadsTo root home)
    (hplaces : ∀ name ∈ names, ¬ TooLong root name → home ++ [name] ∈ places)
    (hdir : ∀ place ∈ places, files.node? place ≠ some .dir) :
    (removeStale (pathsUnder root names)).run (World.answer runner) { world with files } =
      (if ∃ name ∈ names, TooLong root name then .error .nameTooLong else .ok (),
        { world with files :=
            files.without (placesIn home (names.takeWhile fun name => ¬ TooLong root name)) }) := by
  induction names generalizing files with
  | nil =>
    change (_, _) = (_, { world with files := files.without [] })
    rw [FileSystem.without_nil]
    simp
  | cons name rest ih =>
    obtain ⟨hname, hrest⟩ := List.forall_mem_cons.1 hnames
    obtain ⟨hplace, hplaces⟩ := List.forall_mem_cons.1 hplaces
    have hne : home ++ [name] ≠ [] := by simp
    rw [pathsUnder, List.map_cons, ← pathsUnder, run_removeStale_cons,
      (hleads files (.refl _ _)).removeFile_name hname]
    by_cases hlong : TooLong root name
    · simp only [hlong, if_true, List.mem_cons, exists_eq_or_imp, true_or, List.takeWhile_cons,
        not_true_eq_false, decide_false, Bool.false_eq_true, if_false]
      rw [placesIn, List.map_nil, FileSystem.without_nil]
    · have hthere := hplace hlong
      -- Whether or not something was there, the rest goes on with the files that lack the place.
      have hstill : ∀ later, AgreeOff places (files.erase (home ++ [name])) later →
          later.LeadsTo root home := fun later hlater =>
        hleads later ((FileSystem.agreeOff_erase hne hthere).trans hlater)
      have hcleared := ih hrest hstill hplaces ?_
      · simp only [hlong, if_false, List.mem_cons, exists_eq_or_imp, false_or, List.takeWhile_cons,
          not_false_eq_true, decide_true, if_true]
        rw [FileSystem.without_erase] at hcleared
        cases hnode : files.node? (home ++ [name]) with
        | none =>
          rw [FileSystem.erase_of_node? hne hnode] at hcleared
          exact hcleared
        | some node =>
          have hremovable : node ≠ .dir := fun heq => hdir _ hthere (heq ▸ hnode)
          cases node with
          | dir => exact absurd rfl hremovable
          | file content mode => exact hcleared
          | link target => exact hcleared
          | device device => exact hcleared
      · intro place hmem
        rw [FileSystem.node?_erase hne]
        split
        · exact (Option.some_ne_none _).symm
        · exact hdir place hmem

end

/-- Where an object file has too long a name, so has the executable. -/
theorem takeWhile_fileNames (root : Path) (generation : Generation) (id : FixtureId) :
    ((Artifacts.fileNames generation id).takeWhile fun name => ¬ TooLong root name) =
      (Artifacts.fileNames generation id).filter fun name => ¬ TooLong root name := by
  have hisName := fun name (hmem : name ∈ Artifacts.fileNames generation id) =>
    Artifacts.isName_of_mem_fileNames hmem
  rw [Artifacts.fileNames] at hisName ⊢
  obtain ⟨hobject, hrest⟩ := List.forall_mem_cons.1 hisName
  obtain ⟨hexecutable, -⟩ := List.forall_mem_cons.1 hrest
  have hle : (Utf8.encode (Artifacts.stem generation id ++ ".o")).length ≤
      (Utf8.encode (Artifacts.stem generation id ++ ".exe")).length := by
    rw [Utf8.encode_append, Utf8.encode_append, List.length_append, List.length_append]
    exact Nat.add_le_add_left (by decide) _
  have hjoin := Path.length_join_mono root hobject hexecutable hle
  by_cases hlong : TooLong root (Utf8.encode (Artifacts.stem generation id ++ ".o"))
  · have hlonger : TooLong root (Utf8.encode (Artifacts.stem generation id ++ ".exe")) :=
      hlong.imp (Nat.le_trans · hjoin) (Nat.lt_of_lt_of_le · hle)
    simp [hlong, hlonger]
  · simp only [hlong, List.takeWhile_cons, List.filter_cons, not_false_eq_true, decide_true,
      if_true, List.takeWhile_nil, List.filter_nil]

section

variable (hleft : Leftovers (pathsUnder root names) a b)
  (hfirm : Firm root (placesNamed (pathsUnder root names) a b) a ∧
    Firm root (placesNamed (pathsUnder root names) a b) b)
  (hnames : ∀ name ∈ names, Path.IsName name)
include hleft hfirm hnames

/-- Either there are no leftovers at all, or there is a directory for them. -/
theorem Leftovers.eq_or_leadsTo : a = b ∨ ∃ home, ∀ later,
    AgreeOff (placesNamed (pathsUnder root names) a b) a later → later.LeadsTo root home := by
  have hoff := FileSystem.agreeOff_of_without_eq hleft.rest
  by_cases hnone : placesNamed (pathsUnder root names) a b = []
  · left
    have hrest := hleft.rest
    rwa [hnone, FileSystem.without_nil, FileSystem.without_nil] at hrest
  · right
    obtain ⟨place, hmem⟩ := List.exists_mem_of_ne_nil _ hnone
    rcases List.mem_append.1 hmem with hmem | hmem
    · obtain ⟨home, hleads⟩ := exists_leadsTo_of_mem hnames hleft.grounded.1 hmem
      exact ⟨home, hfirm.1 home hleads⟩
    · obtain ⟨home, hleads⟩ := exists_leadsTo_of_mem hnames hleft.grounded.2 hmem
      exact ⟨home, fun later hlater => hfirm.2 home hleads later (hoff.symm.trans hlater)⟩

/-- Once stale files have been cleared away, it is as if there had been others, or none. -/
theorem Leftovers.run_removeStale_eq (world : World ρ)
    (htake : (names.takeWhile fun name => ¬ TooLong root name) =
      names.filter fun name => ¬ TooLong root name) (hne : a ≠ b) :
    (removeStale (pathsUnder root names)).run (World.answer runner) { world with files := a } =
      (removeStale (pathsUnder root names)).run (World.answer runner) { world with files := b } := by
  obtain ⟨home, hleads⟩ := (hleft.eq_or_leadsTo hfirm hnames).resolve_left hne
  have hoff := FileSystem.agreeOff_of_without_eq hleft.rest
  have hplaces : placesNamed (pathsUnder root names) a b =
      placesIn home (names.filter fun name => ¬ TooLong root name) ++
        placesIn home (names.filter fun name => ¬ TooLong root name) := by
    rw [placesNamed, filterMap_place? hnames (hleads a (.refl _ _)),
      filterMap_place? hnames (hleads b hoff)]
  have hmem : ∀ name ∈ names, ¬ TooLong root name →
      home ++ [name] ∈ placesNamed (pathsUnder root names) a b := by
    intro name hname hshort
    rw [hplaces]
    exact List.mem_append_left _ (mem_placesIn (List.mem_filter.2 ⟨hname, by simpa using hshort⟩))
  have hrest : a.without (placesIn home (names.filter fun name => ¬ TooLong root name)) =
      b.without (placesIn home (names.filter fun name => ¬ TooLong root name)) := by
    have hsame : ∀ place, place ∈ placesNamed (pathsUnder root names) a b ↔
        place ∈ placesIn home (names.filter fun name => ¬ TooLong root name) := by
      simp [hplaces]
    rw [← FileSystem.without_congr hsame, hleft.rest, FileSystem.without_congr hsame]
  rw [run_removeStale hnames world hleads hmem fun place hplace => (hleft.ne_dir place hplace).1,
    run_removeStale hnames world (fun later hlater => hleads later (hoff.trans hlater)) hmem
      fun place hplace => (hleft.ne_dir place hplace).2, htake, hrest]

end

/-- Where the artifact directory is there, making ready is clearing away. -/
theorem run_prepare_of_leadsTo (runner : Runner ρ) (world : World ρ)
    (hleads : files.LeadsTo settings.artifactDir home) :
    (prepare settings (.of settings stage fixture)).run (World.answer runner)
        { world with files } =
      (removeStale (Pair.of settings stage fixture).artifacts.paths).run (World.answer runner)
        { world with files } := by
  have hrequest : (Job.request (.createDirs settings.artifactDir)).run (World.answer runner)
      { world with files } = (.ok (), { world with files }) := by
    refine (answer_createDirs runner settings { world with files }).trans ?_
    rw [madeBy, hleads.createDirs_eq]
  rw [prepare, Job.run_bind, hrequest]

section

variable (hleft : Leftovers (Pair.of settings stage fixture).artifacts.paths a b)
  (hfirm : Firm settings.artifactDir
      (placesNamed (Pair.of settings stage fixture).artifacts.paths a b) a ∧
    Firm settings.artifactDir
      (placesNamed (Pair.of settings stage fixture).artifacts.paths a b) b)
include hleft hfirm

theorem Leftovers.run_prepare_eq (runner : Runner ρ) (world : World ρ) :
    (prepare settings (.of settings stage fixture)).run (World.answer runner)
        { world with files := a } =
      (prepare settings (.of settings stage fixture)).run (World.answer runner)
        { world with files := b } := by
  by_cases heq : a = b
  · rw [heq]
  · have hpaths : (Pair.of settings stage fixture).artifacts.paths =
        pathsUnder settings.artifactDir (Artifacts.fileNames stage.generation fixture.id) :=
      Artifacts.paths_under _ _ _
    have hnames := fun name (hmem : name ∈ Artifacts.fileNames stage.generation fixture.id) =>
      Artifacts.isName_of_mem_fileNames hmem
    have hoff := FileSystem.agreeOff_of_without_eq hleft.rest
    rw [hpaths] at hleft hfirm hoff
    obtain ⟨home, hleads⟩ := (hleft.eq_or_leadsTo hfirm hnames).resolve_left heq
    rw [run_prepare_of_leadsTo runner world (hleads a (.refl _ _)),
      run_prepare_of_leadsTo runner world (hleads b hoff), hpaths]
    exact hleft.run_removeStale_eq hfirm hnames world
      (takeWhile_fileNames _ _ _) heq

theorem Leftovers.run_drive_eq (runner : Runner ρ) (world : World ρ) :
    (drive settings (.of settings stage fixture)).run (World.answer runner)
        { world with files := a } =
      (drive settings (.of settings stage fixture)).run (World.answer runner)
        { world with files := b } := by
  rw [drive, Job.run_bind, Job.run_bind, hleft.run_prepare_eq hfirm]

theorem Leftovers.attempts_drive_eq (runner : Runner ρ) (world : World ρ) :
    attempts ((drive settings (.of settings stage fixture)).transcript (World.answer runner)
        { world with files := a }) =
      attempts ((drive settings (.of settings stage fixture)).transcript (World.answer runner)
        { world with files := b }) := by
  have hprepare : ∀ files, attempts ((prepare settings (.of settings stage fixture)).transcript
      (World.answer runner) { world with files }) = [] := fun files =>
    (prepare_aside (Job.yields_transcript _ _ _)).attempts_eq_nil
  rw [drive, Job.transcript_bind, Job.transcript_bind, attempts_append, attempts_append, hprepare,
    hprepare, hleft.run_prepare_eq hfirm]

end

/-- What an earlier trial left at the places of a pair's artifacts is nothing to a later one: it
    makes the same calls, in the same worlds, and comes to the same result with the same files and
    events in the end. Only the artifact directory must not be reached by way of these places. -/
theorem perform_eq_of_leftovers (settings : Settings) (stage : Stage) (fixture : Fixture)
    (runner : Runner ρ) (world : World ρ) (a b : FileSystem)
    (hleft : Leftovers (Pair.of settings stage fixture).artifacts.paths a b)
    (hfirm : Firm settings.artifactDir
        (placesNamed (Pair.of settings stage fixture).artifacts.paths a b) a ∧
      Firm settings.artifactDir
        (placesNamed (Pair.of settings stage fixture).artifacts.paths a b) b) :
    attempts ((perform settings stage fixture).transcript (World.answer runner)
        { world with files := a }) =
      attempts ((perform settings stage fixture).transcript (World.answer runner)
        { world with files := b }) ∧
    (perform settings stage fixture).run (World.answer runner) { world with files := a } =
      (perform settings stage fixture).run (World.answer runner) { world with files := b } := by
  have hrun := hleft.run_drive_eq hfirm runner world
  have hattempts := hleft.attempts_drive_eq hfirm runner world
  constructor
  · rw [perform, Job.transcript_bind, Job.transcript_bind, attempts_append, attempts_append,
      hattempts, hrun]
  · rw [perform, Job.run_bind, Job.run_bind, hrun]

theorem firm_bench (hout : bench ∉ places) (hnode : files.node? bench = some .dir) :
    Firm benchSettings.artifactDir places files := by
  refine firm_of_leadsTo fun later hlater => (?_ : later.LeadsTo _ bench)
  exact later.leadsTo_root.join (by decide) (by decide)
    ((hlater.node?_eq bench hout).symm.trans hnode)

/-- An artifact directory with leftovers in it. -/
def benchWith (leftovers : List (Location × Node)) : FileSystem :=
  { nodes := (bench, .dir) :: leftovers }

def soleStage : Stage := ⟨.first, .ofText "c"⟩

def soleFixture : Fixture := ⟨⟨"a"⟩, .ofText "a.x", []⟩

/-- An object file from an earlier trial, and a link in the place of the executable. -/
def litter : List (Location × Node) :=
  (placesIn bench (Artifacts.fileNames .first ⟨"a"⟩)).zip
    [.file [0x7F] 420, .link (.ofText "/bin/true")]

theorem leftovers_litter :
    Leftovers (Pair.of benchSettings soleStage soleFixture).artifacts.paths (benchWith litter)
      (benchWith []) where
  grounded :=
    ⟨FileSystem.grounded_of_nodes (by decide +kernel) rfl,
      FileSystem.grounded_of_nodes (by decide +kernel) rfl⟩
  rest := by
    rw [FileSystem.without, FileSystem.without, FileSystem.mk.injEq]
    exact ⟨by decide +kernel, rfl⟩
  ne_dir := by decide +kernel

/-- A silent compiler is found out in spite of the litter. -/
theorem perform_eq_of_litter :
    Leftovers (Pair.of benchSettings soleStage soleFixture).artifacts.paths (benchWith litter)
      (benchWith []) ∧
    ((perform benchSettings soleStage soleFixture).run (World.answer idle)
        { files := benchWith litter, memory := () }).1.failure.map Failure.cause =
      some (.notWritten (Pair.of benchSettings soleStage soleFixture).artifacts.object) := by
  have hout : bench ∉ placesNamed (Pair.of benchSettings soleStage soleFixture).artifacts.paths
      (benchWith litter) (benchWith []) := by decide +kernel
  have hsame := (perform_eq_of_leftovers benchSettings soleStage soleFixture idle
    { files := {}, memory := () } (benchWith litter) (benchWith []) leftovers_litter
    ⟨firm_bench hout rfl, firm_bench hout rfl⟩).2
  refine ⟨leftovers_litter, ?_⟩
  rw [hsame]
  decide +kernel

/-- An artifact directory that is reached by way of the place of an object file in it. -/
def circularSettings : Settings where
  artifactDir := ⟨Utf8.encode "/w/" ++ objectName ⟨"a"⟩ ++ Utf8.encode "/.."⟩

/-- A directory in the artifact directory, and perhaps a link to it in the place of the object
    file. -/
def roundabout (target? : Option Path) : List (Location × Node) :=
  (bench ++ [Utf8.encode "d"], .dir) ::
    target?.toList.map fun target => (bench ++ [objectName ⟨"a"⟩], .link target)

/-- Where the artifact directory is reached by way of a leftover, it makes a difference whether the
    leftover is there. -/
theorem perform_ne_of_roundabout :
    Leftovers (Pair.of circularSettings soleStage soleFixture).artifacts.paths
      (benchWith (roundabout (some (.ofText "/w/d")))) (benchWith (roundabout none)) ∧
    ((perform circularSettings soleStage soleFixture).run (World.answer idle)
        { files := benchWith (roundabout (some (.ofText "/w/d"))), memory := () }).1 ≠
      ((perform circularSettings soleStage soleFixture).run (World.answer idle)
        { files := benchWith (roundabout none), memory := () }).1 := by
  refine ⟨⟨⟨FileSystem.grounded_of_nodes (by decide +kernel) rfl,
    FileSystem.grounded_of_nodes (by decide +kernel) rfl⟩, ?_, by decide +kernel⟩, ?_⟩
  · rw [FileSystem.without, FileSystem.without, FileSystem.mk.injEq]
    exact ⟨by decide +kernel, rfl⟩
  · decide +kernel

end BootChain.Trial
