import BootChain.Proofs.Trial.Sharing

namespace BootChain.Trial

variable {ρ : Type}

/-- The places of all artifacts of some pairs. -/
def allPlaces (home : Location) (pairs : List (Stage × Fixture)) : List Location :=
  placesIn home (pairs.flatMap namesOf)

/-- The artifact directory can be made, and it is then reached whatever stands at the places of the
    artifacts. -/
structure Steady (settings : Settings) (pairs : List (Stage × Fixture)) (files : FileSystem)
    (home : Location) : Prop where
  created : (files.createDirs settings.artifactDir).1 = .ok ()
  leads : ∀ later, FileSystem.AgreeOff (allPlaces home pairs) (madeBy settings files) later →
    later.LeadsTo settings.artifactDir home

/-- The runner keeps to the artifacts of the pair that it works for, and makes no links of them. -/
def Careful (settings : Settings) (runner : Stage → Fixture → Runner ρ)
    (pairs : List (Stage × Fixture)) (files : FileSystem) (home : Location) : Prop :=
  ∀ pair ∈ pairs, (runner pair.1 pair.2).Confined (madeBy settings files) (allPlaces home pairs)
    (placesIn home (namesOf pair))

variable {settings : Settings} {runner : Stage → Fixture → Runner ρ}
  {pairs : List (Stage × Fixture)} {pair : Stage × Fixture} {world : World ρ}
  {files : FileSystem} {home : Location} {index other : Nat}

/-- Artifacts with different names have different paths. -/
theorem nodup_paths (hnames : (pairs.flatMap namesOf).Nodup) : (pairs.flatMap fun pair =>
    (Artifacts.under settings.artifactDir pair.1.generation pair.2.id).paths).Nodup := by
  have hisName : ∀ name ∈ pairs.flatMap namesOf, Path.IsName name := by
    intro name hname
    obtain ⟨pair, -, hname⟩ := List.mem_flatMap.1 hname
    exact Artifacts.isName_of_mem_fileNames hname
  simp only [Artifacts.paths_under]
  rw [← List.map_flatMap]
  exact hnames.map_on fun first hfirst second hsecond heq =>
    (Path.join_inj (hisName first hfirst) (hisName second hsecond)).1 heq

/-- Where all artifacts have paths of their own, those of different trials have places of their
    own. -/
theorem notMem_placesIn (home : Location)
    (hpaths : (pairs.flatMap fun pair => pathsUnder settings.artifactDir (namesOf pair)).Nodup)
    {first second : Stage × Fixture} (hfirst : pairs[index]? = some first)
    (hsecond : pairs[other]? = some second) (hne : index ≠ other) :
    ∀ place ∈ placesIn home (namesOf first), place ∉ placesIn home (namesOf second) := by
  have hdisjoint : (pathsUnder settings.artifactDir (namesOf first)).Disjoint
      (pathsUnder settings.artifactDir (namesOf second)) := by
    have hpairwise := (List.nodup_flatMap.1 hpaths).2
    obtain ⟨hindex, rfl⟩ := List.getElem?_eq_some_iff.1 hfirst
    obtain ⟨hother, rfl⟩ := List.getElem?_eq_some_iff.1 hsecond
    rcases Nat.lt_or_gt_of_ne hne with hlt | hlt
    · exact List.pairwise_iff_getElem.1 hpairwise _ _ hindex hother hlt
    · intro path hpath hsame
      exact List.pairwise_iff_getElem.1 hpairwise _ _ hother hindex hlt hsame hpath
  intro place hplace hmem
  obtain ⟨name, hname, rfl⟩ := List.mem_map.1 hplace
  obtain ⟨same, hsame, heq⟩ := List.mem_map.1 hmem
  cases List.append_cancel_left heq
  exact hdisjoint (List.mem_map_of_mem hname) (List.mem_map_of_mem hsame)

section

variable (hsteady : Steady settings pairs files home)
include hsteady

theorem Steady.plot (hcareful : Careful settings runner pairs files home) (hpair : pair ∈ pairs) :
    Plot settings.artifactDir home (madeBy settings files) (allPlaces home pairs) (namesOf pair)
      (runner pair.1 pair.2) where
  leads := hsteady.leads
  isName _ hname := Artifacts.isName_of_mem_fileNames hname
  subset := List.map_subset _ fun _ hname => List.mem_flatMap.2 ⟨pair, hpair, hname⟩
  confined := hcareful pair hpair

theorem Steady.offers (own : List Location) :
    Offers settings (madeBy settings files) (allPlaces home pairs) own files where
  created := hsteady.created
  agreeOff := .refl _ _
  agreeAt _ _ := rfl

theorem Steady.lasting (hcareful : Careful settings runner pairs files home)
    (hpaths : (pairs.flatMap fun pair => pathsUnder settings.artifactDir (namesOf pair)).Nodup) :
    Lasting settings runner pairs fun pair readiness alone shared =>
      Accord settings home (madeBy settings files) (allPlaces home pairs) (namesOf pair) readiness
        alone shared where
  own hpair hallowed haccord := haccord.advance_own (hsteady.plot hcareful hpair) hallowed
  other hne hpair hstrange haccord hstrangeAccord hallowed :=
    haccord.advance_other (hsteady.plot hcareful (List.mem_of_getElem? hpair))
      (hsteady.plot hcareful (List.mem_of_getElem? hstrange))
      (notMem_placesIn home hpaths hpair hstrange hne) hallowed hstrangeAccord

end

/-- Trials that share an artifact directory, but no artifact, do not disturb each other, in whatever
    order their requests come and whether or not they keep their artifacts. The directory has to be
    within reach whatever stands at the artifacts' places, or be denied to all of them alike, and
    the runner has to keep to the artifacts of the pair that it works for. -/
theorem undisturbed_weave (settings : Settings) (runner : Stage → Fixture → Runner ρ)
    (pairs : List (Stage × Fixture)) (world : World ρ)
    (hpaths : (pairs.flatMap fun pair =>
      (Artifacts.under settings.artifactDir pair.1.generation pair.2.id).paths).Nodup)
    (hgoing : world.cancelled = false)
    (hdirectory : Refused settings world.files ∨
      ∃ home, Steady settings pairs world.files home ∧
        Careful settings runner pairs world.files home) :
    (weave settings runner pairs world).Undisturbed := by
  rcases hdirectory with hrefused | ⟨home, hsteady, hcareful⟩
  · exact hrefused.undisturbed
  · simp only [Artifacts.paths_under] at hpaths
    exact (hsteady.lasting hcareful hpaths).undisturbed fun pair _ =>
      .unasked (hsteady.offers _) hgoing (hsteady.offers _) hgoing

/-- Two pairs of one compiler. -/
def neighbours : List (Stage × Fixture) :=
  [(⟨.first, .ofText "c"⟩, ⟨⟨"a"⟩, .ofText "a.x", []⟩),
    (⟨.first, .ofText "c"⟩, ⟨⟨"b"⟩, .ofText "b.x", []⟩)]

/-- Settings with an artifact directory right below the root, and the place of that directory. -/
def benchSettings : Settings := { artifactDir := .ofText "/w" }

def bench : Location := [Utf8.encode "w"]

theorem steady_bench (pairs : List (Stage × Fixture)) : Steady benchSettings pairs {} bench where
  created := by decide +kernel
  leads later hlater := by
    have hout : bench ∉ allPlaces bench pairs := by
      simp [allPlaces, placesIn, bench]
    have hnode : later.node? bench = some .dir := by
      rw [← hlater.node?_eq bench hout]
      decide +kernel
    exact later.leadsTo_root.join ⟨by decide, by decide, by decide, by decide, by decide⟩
      (by decide) hnode

/-- Settings with an artifact directory below a regular file. -/
def deniedSettings : Settings := { artifactDir := .ofText "/f/b" }

/-- A regular file right below the root. -/
def blockedFiles : FileSystem := { nodes := [([Utf8.encode "f"], .file [] 420)] }

theorem grounded_blockedFiles : blockedFiles.Grounded where
  parent place node hnode := by
    rw [FileSystem.node?, blockedFiles] at hnode
    split at hnode
    next hroot =>
      rw [hroot]
      rfl
    next =>
      rw [FileSystem.lookup_cons_ite] at hnode
      split at hnode
      next heq =>
        rw [heq]
        rfl
      next => cases hnode
  working := rfl

theorem refused_blockedFiles : Refused deniedSettings blockedFiles where
  grounded := grounded_blockedFiles
  again := ⟨.notADirectory, by decide +kernel, by decide +kernel⟩
  stays := by rfl

theorem nodup_names_neighbours : (neighbours.flatMap namesOf).Nodup := by decide +kernel

theorem undisturbed_weave_neighbours :
    (neighbours.flatMap fun pair =>
      (Artifacts.under benchSettings.artifactDir pair.1.generation pair.2.id).paths).Nodup ∧
    Steady benchSettings neighbours {} bench ∧
    (weave benchSettings (fun stage fixture =>
      leaving bench (.file [] 493) (namesOf (stage, fixture))) neighbours
        { files := {}, memory := () }).Undisturbed ∧
    Refused deniedSettings blockedFiles ∧
    (weave deniedSettings (fun _ _ => idle) neighbours
      { files := blockedFiles, memory := () }).Undisturbed := by
  have hnames := nodup_names_neighbours
  refine ⟨nodup_paths hnames, steady_bench _, ?_, refused_blockedFiles, ?_⟩
  · exact undisturbed_weave _ _ _ _ (nodup_paths hnames) rfl
      (.inr ⟨bench, steady_bench _, fun _ _ => confined_leaving (by simp)⟩)
  · exact undisturbed_weave _ _ _ _ (nodup_paths hnames) rfl (.inl refused_blockedFiles)

/-- Trials over one world, each with artifacts of its own, to which the runner keeps. -/
structure Separate (settings : Settings) (runner : Stage → Fixture → Runner ρ)
    (pairs : List (Stage × Fixture)) (world : World ρ) (home : Location) : Prop where
  paths : (pairs.flatMap fun pair =>
    (Artifacts.under settings.artifactDir pair.1.generation pair.2.id).paths).Nodup
  going : world.cancelled = false
  keepsTo : ∀ pair ∈ pairs,
    (runner pair.1 pair.2).KeepsTo (placesIn home (namesOf pair)) (·.cancelled = false)

/-- Why a trial failed, if it did. -/
def causeOf (trial? : Option Trial) : Option Cause :=
  trial?.bind fun trial => trial.failure.map Failure.cause

/-- A trial is disturbed if in the end it fails for another cause than alone, or not at all. -/
theorem not_undisturbed (schedule : List Nat) (index : Nat) (hpair : pairs[index]? = some pair)
    (hdone : (((weave settings runner pairs world).follow schedule).result? index).isSome = true)
    (hcause : causeOf (((weave settings runner pairs world).follow schedule).result? index) ≠
      causeOf (some ((perform settings pair.1 pair.2).run
        (World.answer (runner pair.1 pair.2)) world).1)) :
    ¬ (weave settings runner pairs world).Undisturbed := by
  intro hundisturbed
  have hstrand : (weave settings runner pairs world).strands[index]? =
      some ⟨World.answer (runner pair.1 pair.2), perform settings pair.1 pair.2⟩ := by
    rw [weave, List.getElem?_map, hpair]
    rfl
  obtain ⟨result, hresult⟩ := Option.isSome_iff_exists.1 hdone
  have hagree := hundisturbed.agree schedule index _ result hstrand hresult
  rw [hresult, hagree] at hcause
  exact hcause rfl

theorem separate_idle (home : Location) (hnames : (pairs.flatMap namesOf).Nodup) :
    Separate settings (fun _ _ => idle) pairs { files, memory := () } home where
  paths := nodup_paths hnames
  going := rfl
  keepsTo _ _ :=
    { touches := fun _ _ _ _ => .refl _ _
      determined := fun _ _ _ _ _ _ hagree => ⟨rfl, hagree⟩
      going := fun _ _ _ hgoing => hgoing }

/-- A directory below a regular file, on a path that leads through a directory that is not there
    yet: who asks for it first makes that one, and fails in another way than who asks next. -/
def blockedSettings : Settings := { artifactDir := .ofText "/a/../f/b" }

/-- The name of an object file. -/
def objectName (id : FixtureId) : Bytes := Utf8.encode (Artifacts.stem .first id ++ ".o")

/-- A directory on a path that leads through a symbolic link with the name of an object file in it:
    the trial that clears its own artifacts cuts the others off. -/
def detourSettings : Settings where
  artifactDir := ⟨Utf8.encode "/b/c/" ++ objectName ⟨"a"⟩ ++ Utf8.encode "/../c"⟩

def detourFiles : FileSystem :=
  let base : Location := [Utf8.encode "b"]
  { nodes :=
      [(base, .dir), (base ++ [Utf8.encode "c"], .dir), (base ++ [Utf8.encode "d"], .dir),
        (base ++ [Utf8.encode "c", objectName ⟨"a"⟩], .link (.ofText "/b/d")),
        (base ++ [Utf8.encode "c", Utf8.encode "c"], .file [] 420)] }

/-- A runner that leaves files in the place of the artifacts of one pair, and in the place of all
    others symbolic links to the object file of that pair. -/
def linking (stage : Stage) (fixture : Fixture) : Runner Unit :=
  leaving bench (if fixture.id.text = "a" then .file [] 420 else .link ⟨objectName ⟨"a"⟩⟩)
    (namesOf (stage, fixture))

/-- Separate artifacts are not enough: trials disturb each other where their directory cannot be
    made and the first attempt changes the next, where the directory is reached through the place
    of an artifact, and where the runner leaves links from one artifact to another. -/
theorem disturbed_weave :
    (Separate blockedSettings (fun _ _ => idle) neighbours
        { files := blockedFiles, memory := () } [] ∧
      ¬ (weave blockedSettings (fun _ _ => idle) neighbours
        { files := blockedFiles, memory := () }).Undisturbed) ∧
    (Separate detourSettings (fun _ _ => idle) neighbours { files := detourFiles, memory := () }
        [Utf8.encode "b", Utf8.encode "c"] ∧
      ¬ (weave detourSettings (fun _ _ => idle) neighbours
        { files := detourFiles, memory := () }).Undisturbed) ∧
    (Separate benchSettings linking neighbours { files := {}, memory := () } bench ∧
      ¬ (weave benchSettings linking neighbours { files := {}, memory := () }).Undisturbed) := by
  have hnames := nodup_names_neighbours
  refine ⟨⟨separate_idle _ hnames, ?_⟩, ⟨separate_idle _ hnames, ?_⟩,
    ⟨⟨nodup_paths hnames, rfl, fun pair _ => keepsTo_leaving _ _ _⟩, ?_⟩⟩
  -- each time the second trial goes to its end after some turns of the first
  · apply not_undisturbed ([0] ++ List.replicate 3 1) 1 rfl
    · decide +kernel
    · decide +kernel
  · apply not_undisturbed ([0, 0] ++ List.replicate 8 1) 1 rfl
    · decide +kernel
    · decide +kernel
  · apply not_undisturbed (List.replicate 5 0 ++ List.replicate 20 1) 1 rfl
    · decide +kernel
    · decide +kernel

end BootChain.Trial
