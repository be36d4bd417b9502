import BootChain.CommandLine.Plan
import BootChain.Proofs.Catalog
import BootChain.Proofs.Chain.Probe
import BootChain.Proofs.Config.Validity
import BootChain.Proofs.Except
import BootChain.Proofs.Matrix.Grid
import BootChain.Proofs.Matrix.Selection

namespace BootChain

namespace Catalog

variable {files : FileSystem} {directory : Path} {layout : FixtureLayout} {catalog : Catalog}

/-- A catalog that was found is not empty. -/
theorem fixtures_ne_nil_of_discover (hcatalog : discover files directory layout = .ok catalog) :
    catalog.fixtures ≠ [] := by
  obtain ⟨found, hsources, -⟩ := Except.bind_eq_ok.1 hcatalog
  rw [discover_eq hsources] at hcatalog
  split at hcatalog
  · cases hcatalog
  next hsome =>
    cases hcatalog
    exact fun hnil => hsome (List.nil_perm.1 (hnil ▸ List.mergeSort_perm _ inOrder))

end Catalog

namespace Matrix

variable {ρ : Type} {settings : Settings} {jobs : Nat} {chain : Chain} {fixtures : List Fixture}
  {selection : Selection} {runner : Stage → Fixture → Runner ρ} {world : World ρ}
  {schedule : List Action}

/-- A run in which all jobs are completed evaluates something just if a selected compiler is there,
    as long as some fixture is selected. -/
theorem evaluates_iff_of_completed (hfixtures : selection.fixturesOf fixtures ≠ []) :
    let matrix := select settings jobs chain fixtures selection
    let run := matrix.follow runner world schedule
    run.isOver = true → run.world.cancelled = false →
      (∀ task ∈ run.tasks, task.phase.outcome? ≠ some .brokeDown) →
      ((matrix.reportOf run).Evaluates ↔ ∃ generation,
        chain.Has generation ∧ selection.selectsGeneration generation = true) := by
  intro matrix run hover hgoing hsafe
  have hsound : matrix.Sound run := sound_follow matrix runner world schedule
  have hgenuine : matrix.Genuine run.arrivals := genuine_follow matrix runner world schedule
  have hhas : ∀ generation, matrix.chain.Has generation ↔
      chain.Has generation ∧ selection.selectsGeneration generation = true :=
    fun generation => Selection.has_chain_iff
  simp only [← hhas]
  constructor
  · rintro ⟨id, generation, trial, matchesExpected, hcell⟩
    obtain ⟨slot, -, hopen⟩ | ⟨stage, -, hstage, -, -⟩ := hgenuine.cell_cases hcell
    · cases slot <;> cases hopen
    · exact ⟨generation, stage, hstage⟩
  · rintro ⟨generation, stage, hstage⟩
    obtain ⟨fixture, hfixture⟩ := List.exists_mem_of_ne_nil _ hfixtures
    have hgeneration := matrix.chain.keyed _ (SortedMap.get?_eq_some_iff.1 hstage) stage rfl
    cases hgeneration
    have hpair : (stage, fixture) ∈ matrix.pairs :=
      mem_pairs_iff.2 ⟨Chain.mem_available_iff.2 hstage, hfixture⟩
    obtain ⟨trial, matchesExpected, hcell⟩ := hsound.evaluatedAt_of_pair hover hgoing hsafe hpair
    exact ⟨_, _, trial, matchesExpected, hcell⟩

end Matrix

namespace CommandLine

variable {catalog : Catalog} {chain : Chain} {ids : List String} {numbers : List Nat}
  {selection : Selection}

theorem namedFixture_eq_ok_iff {id : String} {named : FixtureId} :
    namedFixture catalog id = .ok named ↔
      (∃ fixture ∈ catalog.fixtures, fixture.id = ⟨id⟩) ∧ named = ⟨id⟩ := by
  rw [namedFixture]
  split
  next hknown =>
    have hfixture : ∃ fixture ∈ catalog.fixtures, fixture.id = ⟨id⟩ := by simpa using hknown
    simp [hfixture, eq_comm]
  next hunknown =>
    have hnone : ¬ ∃ fixture ∈ catalog.fixtures, fixture.id = ⟨id⟩ := by simpa using hunknown
    simp [hnone]

theorem namedGeneration_eq_ok_iff {number : Nat} {generation : Generation} :
    namedGeneration chain number = .ok generation ↔
      generation.number = number ∧ (chain.get? generation).isSome = true := by
  unfold namedGeneration
  split
  next hnone =>
    refine ⟨nofun, ?_⟩
    rintro ⟨rfl, -⟩
    cases hnone.symm.trans generation.ofNat?_number
  next other hother =>
    have hnumber := Generation.number_of_ofNat? hother
    split
    next hknown =>
      refine ⟨fun hread => ?_, fun ⟨hsame, _⟩ => ?_⟩
      · cases hread
        exact ⟨hnumber, hknown⟩
      · rw [Generation.ext (hsame.trans hnumber.symm)]
    next hunknown =>
      refine ⟨nofun, fun ⟨hsame, hknown⟩ => ?_⟩
      rw [Generation.ext (hsame.trans hnumber.symm)] at hknown
      exact absurd hknown hunknown

/-- What is selected is named by the ids and the numbers, and all of it is known. -/
theorem of_namedSelection (hselection : namedSelection catalog chain ids numbers = .ok selection) :
    (∀ id ∈ selection.fixtures, ∃ fixture ∈ catalog.fixtures, fixture.id = id) ∧
      selection.fixtures.map FixtureId.text = ids ∧
        selection.generations.map Generation.number = numbers := by
  simp only [namedSelection, Except.bind_eq_ok] at hselection
  obtain ⟨fixtures, hfixtures, generations, hgenerations, heq⟩ := hselection
  cases heq
  have hids : fixtures.map FixtureId.text = ids := by
    refine Except.map_eq_of_mapM_eq_ok (fun id named hnamed => ?_) hfixtures
    rw [(namedFixture_eq_ok_iff.1 hnamed).2]
  refine ⟨fun id hid => ?_, hids, Except.map_eq_of_mapM_eq_ok
    (fun _ _ hnamed => (namedGeneration_eq_ok_iff.1 hnamed).1) hgenerations⟩
  have hmem : id.text ∈ ids := hids ▸ List.mem_map_of_mem hid
  obtain ⟨named, hnamed⟩ := Except.exists_mapM_eq_ok_iff.1 ⟨_, hfixtures⟩ _ hmem
  exact (namedFixture_eq_ok_iff.1 hnamed).1

theorem fixturesOf_ne_nil (hcatalog : catalog.fixtures ≠ [])
    (hselection : namedSelection catalog chain ids numbers = .ok selection) :
    selection.fixturesOf catalog.fixtures ≠ [] := by
  obtain ⟨hknown, -, -⟩ := of_namedSelection hselection
  intro hnil
  have hunselected := List.filter_eq_nil_iff.1 hnil
  cases hfixtures : selection.fixtures with
  | nil =>
    obtain ⟨fixture, hfixture⟩ := List.exists_mem_of_ne_nil _ hcatalog
    exact hunselected fixture hfixture (by simp [Selection.selects, hfixtures])
  | cons id rest =>
    obtain ⟨fixture, hfixture, rfl⟩ := hknown id (by simp [hfixtures])
    exact hunselected fixture hfixture (by simp [Selection.selects, hfixtures])

theorem selectsGeneration_iff
    (hselection : namedSelection catalog chain ids numbers = .ok selection)
    {generation : Generation} : selection.selectsGeneration generation = true ↔
      numbers = [] ∨ generation.number ∈ numbers := by
  obtain ⟨-, -, hnumbers⟩ := of_namedSelection hselection
  have hinj : Function.Injective Generation.number := fun _ _ => Generation.ext
  rw [← hnumbers, List.map_eq_nil_iff, List.mem_map_of_injective hinj]
  simp [Selection.selectsGeneration]

/-- A part of a matrix can be named just by the ids of fixtures that were found and the numbers of
    generations that were looked for. A run of it in which all jobs are completed comes out as empty
    just if none of the selected generations has a compiler. -/
theorem namedSelection_exact {files : FileSystem} {directory : Path} {layout : FixtureLayout}
    {last : Nat} (hcatalog : Catalog.discover files directory layout = .ok catalog)
    (hlast : last < 4294967296) (probed : FileSystem) (buildDirectory : Path) (baseName : String)
    (ids : List String) (numbers : List Nat) :
    let chain := Chain.probe probed buildDirectory baseName last
    ((∃ selection, namedSelection catalog chain ids numbers = .ok selection) ↔
        (∀ id ∈ ids, ∃ fixture ∈ catalog.fixtures, fixture.id = ⟨id⟩) ∧
          ∀ number ∈ numbers, 1 ≤ number ∧ number ≤ last) ∧
      ∀ selection, namedSelection catalog chain ids numbers = .ok selection →
        ∀ {ρ : Type} (settings : Settings) (jobs : Nat) (runner : Stage → Fixture → Runner ρ)
          (world : World ρ) (schedule : List Action),
          let matrix := Matrix.select settings jobs chain catalog.fixtures selection
          let run := matrix.follow runner world schedule
          let status := (matrix.reportOf run).status
          run.isOver = true → run.world.cancelled = false →
            (∀ task ∈ run.tasks, task.phase.outcome? ≠ some .brokeDown) →
            (status = .empty ↔ status.exitCode = 2) ∧
              (status = .empty ↔ ∀ generation : Generation,
                numbers = [] ∨ generation.number ∈ numbers → ¬ chain.Has generation) := by
  intro chain
  refine ⟨?_, fun selection hselection ρ settings jobs runner world schedule => ?_⟩
  · have hgeneration : ∀ number, (∃ generation, namedGeneration chain number = .ok generation) ↔
        1 ≤ number ∧ number ≤ last := by
      intro number
      simp only [namedGeneration_eq_ok_iff, chain, Chain.get?_probe]
      constructor
      · rintro ⟨generation, rfl, hknown⟩
        split at hknown
        next hle => exact ⟨generation.pos, hle⟩
        next => cases hknown
      · rintro ⟨hpos, hle⟩
        exact ⟨⟨number, hpos, by omega⟩, rfl, by rw [if_pos hle]; rfl⟩
    have hfixture : ∀ id, (∃ named, namedFixture catalog id = .ok named) ↔
        ∃ fixture ∈ catalog.fixtures, fixture.id = ⟨id⟩ := by
      intro id
      simp only [namedFixture_eq_ok_iff, exists_and_left, exists_eq, and_true]
    simp only [← hgeneration, ← hfixture, ← Except.exists_mapM_eq_ok_iff, namedSelection,
      Except.bind_eq_ok]
    constructor
    · rintro ⟨_, fixtures, hfixtures, generations, hgenerations, -⟩
      exact ⟨⟨fixtures, hfixtures⟩, generations, hgenerations⟩
    · rintro ⟨⟨fixtures, hfixtures⟩, generations, hgenerations⟩
      exact ⟨_, fixtures, hfixtures, generations, hgenerations, rfl⟩
  · intro matrix run status hover hgoing hsafe
    have hevaluates := Matrix.evaluates_iff_of_completed
      (fixturesOf_ne_nil (Catalog.fixtures_ne_nil_of_discover hcatalog) hselection)
      hover hgoing hsafe
    refine ⟨(Status.exitCode_inj (b := .empty)).symm, ?_⟩
    rw [Report.status_eq_empty_iff, hevaluates]
    simp only [selectsGeneration_iff hselection, not_exists, not_and']
    exact and_iff_right hgoing

/-- A fixture with its expected output, and the first compiler. -/
def workshop : FileSystem where
  nodes := [
    (["t"].map Utf8.encode, .dir),
    (["t", "a.c"].map Utf8.encode, .file [] 0o644),
    (["t", "a.expected"].map Utf8.encode, .file (Utf8.encode "one") 0o644),
    (["b"].map Utf8.encode, .dir),
    (["b", "c"].map Utf8.encode, .file [] 0o755)]

def workshopCatalog : Catalog := ⟨[⟨⟨"a"⟩, .ofText "t/a.c", Utf8.encode "one"⟩], []⟩

def workshopChain : Chain := .probe workshop (.ofText "b") "c" 2

/-- The run of what is named by an id and the number of the first compiler, which stands there
    twice, up to the end of its one job. -/
def workshopRun : Run Rehearsal.Script :=
  (Matrix.select { artifactDir := ⟨[]⟩ } 1 workshopChain workshopCatalog.fixtures
    ⟨[⟨"a"⟩], [.first, .first]⟩).follow
    (Rehearsal.runner { artifactDir := ⟨[]⟩ }) { files := {}, memory := {} }
    ([.move 0 .enter] ++ List.replicate 17 (.move 0 .step) ++ [.move 0 .join])

theorem namedSelection_exact_workshop :
    Catalog.discover workshop (.ofText "t") {} = .ok workshopCatalog ∧
      (∃ selection, namedSelection workshopCatalog workshopChain ["a"] [1, 1] = .ok selection) ∧
      (¬ ∃ selection, namedSelection workshopCatalog workshopChain ["a"] [3] = .ok selection) ∧
      namedSelection workshopCatalog workshopChain ["a"] [1, 1] =
        .ok ⟨[⟨"a"⟩], [.first, .first]⟩ ∧
      workshopRun.isOver = true ∧ workshopRun.world.cancelled = false ∧
      (∀ task ∈ workshopRun.tasks, task.phase.outcome? ≠ some .brokeDown) ∧
      workshopChain.Has .first ∧
      ((Matrix.select { artifactDir := ⟨[]⟩ } 1 workshopChain workshopCatalog.fixtures
        ⟨[⟨"a"⟩], [.first, .first]⟩).reportOf workshopRun).status ≠ .empty := by
  have hcatalog : Catalog.discover workshop (.ofText "t") {} = .ok workshopCatalog := by
    decide +kernel
  have hnamed : namedSelection workshopCatalog workshopChain ["a"] [1, 1] =
      .ok ⟨[⟨"a"⟩], [.first, .first]⟩ := by decide +kernel
  have hover : workshopRun.isOver = true := by decide +kernel
  have hgoing : workshopRun.world.cancelled = false := by decide +kernel
  have hsafe : ∀ task ∈ workshopRun.tasks, task.phase.outcome? ≠ some .brokeDown := by
    decide +kernel
  have hfirst : workshopChain.Has .first :=
    ⟨⟨.first, .ofText "b/c"⟩, by decide +kernel⟩
  have hlast : 2 < 4294967296 := by decide
  obtain ⟨hmany, -⟩ :=
    namedSelection_exact hcatalog hlast workshop (.ofText "b") "c" ["a"] [3]
  obtain ⟨-, hexact⟩ :=
    namedSelection_exact hcatalog hlast workshop (.ofText "b") "c" ["a"] [1, 1]
  unfold workshopRun workshopChain at hover hgoing hsafe ⊢
  unfold workshopChain at hnamed hfirst
  obtain ⟨-, hempty⟩ := hexact _ hnamed _ _ _ _ _ hover hgoing hsafe
  refine ⟨hcatalog, ⟨_, hnamed⟩, fun hbeyond => ?_, hnamed, hover, hgoing, hsafe, hfirst, ?_⟩
  · obtain ⟨-, hnumber⟩ := hmany.1 hbeyond
    exact absurd (hnumber 3 (by decide)) (by decide)
  · exact fun hnone => hempty.1 hnone .first (.inr (by decide)) hfirst

end CommandLine

end BootChain
