import BootChain.Proofs.Catalog
import Mathlib.Data.Set.Function

namespace BootChain.Catalog

variable {files shuffled : FileSystem} {directory : Path} {place : Location}
  {layout : FixtureLayout} {found : List Source} {names : List Bytes}

/-- A source stands some way below a directory: it is no directory itself, and its name ends in the
    extension of sources. -/
def IsSource (files : FileSystem) (directory : Path) (place : Location) (layout : FixtureLayout)
    (names : List Bytes) : Prop :=
  files.IsLeaf place names ∧
    (sourceAt directory names).path.extension? = some (Utf8.encode layout.source)

/-- A path leads to a directory at a place, and whatever directory stands below it can be listed by
    its path. -/
structure Readable (files : FileSystem) (directory : Path) (place : Location) : Prop where
  stat_eq : files.stat directory = .ok (place, .dir)
  exists_list : ∀ names, files.node? (place ++ names) = some .dir →
    ∃ listing, files.list (sourceAt directory names).path = .ok listing

/-- A catalog has all the sources below a directory and nothing else. -/
structure Covers (files : FileSystem) (directory : Path) (place : Location)
    (layout : FixtureLayout) (catalog : Catalog) : Prop where
  /-- No two sources have one path. -/
  injOn : Set.InjOn (fun names => (sourceAt directory names).path)
    {names | IsSource files directory place layout names}
  /-- No source is there twice. -/
  nodup : (catalog.fixtures.map Fixture.source ++ catalog.orphans).Nodup
  /-- The fixtures are the sources with an expected output, each with what stands there. -/
  mem_fixtures_iff : ∀ fixture, fixture ∈ catalog.fixtures ↔
    ∃ names, IsSource files directory place layout names ∧ ∃ target expected mode,
      files.stat (expectation layout (sourceAt directory names)) =
        .ok (target, .file expected mode) ∧
      fixture = ⟨idOf (sourceAt directory names), (sourceAt directory names).path, expected⟩
  /-- The orphans are the sources without one. -/
  mem_orphans_iff : ∀ path, path ∈ catalog.orphans ↔
    ∃ names, IsSource files directory place layout names ∧
      files.isFile (expectation layout (sourceAt directory names)) = false ∧
      path = (sourceAt directory names).path
  pairwise_fixtures : catalog.fixtures.Pairwise fun a b => (compare a.id b.id).isLE = true
  pairwise_orphans : catalog.orphans.Pairwise fun a b => a.before b = true

/-- Each source is a fixture or an orphan, and not both. -/
theorem paths_perm (files : FileSystem) (layout : FixtureLayout) (found : List Source) :
    (((found.filterMap (fixture? files layout)).mergeSort inOrder).map Fixture.source ++
      (found.filter fun source => (fixture? files layout source).isNone).map Source.path).Perm
        (found.map Source.path) := by
  have hfixtures := ((List.mergeSort_perm (found.filterMap (fixture? files layout))
    inOrder).map fun fixture => (fixture.id, fixture.source)).trans
      (List.Perm.of_eq (map_filterMap_fixture? found))
  have hpaths := hfixtures.map Prod.snd
  simp only [List.map_map, Function.comp_def] at hpaths
  have hparts := (List.filter_append_perm
    (fun source => (fixture? files layout source).isSome) found).map Source.path
  rw [List.map_append] at hparts
  simp only [Option.not_isSome] at hparts
  exact (hpaths.append_right _).trans hparts

theorem fixture?_congr (hsame : FileSystem.AgreeOff [] shuffled files) :
    fixture? shuffled layout = fixture? files layout := by
  funext source
  rw [fixture?, fixture?, hsame.stat_congr]

theorem Readable.congr (hreadable : Readable files directory place)
    (hsame : FileSystem.AgreeOff [] shuffled files) : Readable shuffled directory place := by
  refine ⟨by rw [hsame.stat_congr, hreadable.stat_eq], fun names hnode => ?_⟩
  rw [hsame.node?_congr] at hnode
  obtain ⟨listing, hlist⟩ := hreadable.exists_list names hnode
  have hstat := (FileSystem.list_eq_ok_iff.1 hlist).1
  rw [← hsame.stat_congr] at hstat
  exact ⟨_, FileSystem.list_eq_ok_iff.2 ⟨hstat, rfl⟩⟩

section

variable (horderly : files.Orderly) (hgrounded : files.Grounded)
  (hreadable : Readable files directory place)
include horderly hreadable

/-- Where every directory can be listed, the walk comes through. -/
theorem collect_eq (depth : Nat) :
    collect files directory depth [] = .ok (files.leavesWithin depth place) := by
  have hleads : ∀ here, files.LeadsTo (sourceAt directory []).path here → here = place :=
    fun here hhere => hhere.unique (.there hreadable.stat_eq)
  rcases collect_cases horderly depth (FileSystem.node?_of_stat hreadable.stat_eq) hleads with
    hok | ⟨e, -, names, cause, hnode, hlist, -⟩
  · simpa using hok
  · obtain ⟨listing, hlisted⟩ := hreadable.exists_list names hnode
    rw [List.nil_append] at hlist
    cases hlist.symm.trans hlisted

theorem sources_eq (layout : FixtureLayout) : sources files directory layout =
    .ok (sorted directory layout (files.leavesWithin (files.nodes.length + 1) place)) := by
  rw [sources, collect_eq horderly hreadable]
  rfl

include hgrounded

theorem exists_mem_sources_iff (hsources : sources files directory layout = .ok found)
    (holds : Source → Prop) : (∃ source ∈ found, holds source) ↔
      ∃ names, IsSource files directory place layout names ∧ holds (sourceAt directory names) := by
  rw [sources_eq horderly hreadable] at hsources
  cases hsources
  have hdir := FileSystem.node?_of_stat hreadable.stat_eq
  have hleaf : ∀ names, names ∈ files.leavesWithin (files.nodes.length + 1) place ↔
      files.IsLeaf place names :=
    fun names => hgrounded.mem_leavesWithin_iff hdir (by omega)
  constructor
  · rintro ⟨source, hmem, hholds⟩
    obtain ⟨names, hnames, hextension, rfl⟩ := mem_sorted_iff.1 hmem
    exact ⟨names, ⟨(hleaf names).1 hnames, hextension⟩, hholds⟩
  · rintro ⟨names, ⟨hnames, hextension⟩, hholds⟩
    exact ⟨_, mem_sorted_iff.2 ⟨names, (hleaf names).2 hnames, hextension, rfl⟩, hholds⟩

theorem IsSource.isName (hsource : IsSource files directory place layout names) :
    names ≠ [] ∧ ∀ name ∈ names, Path.IsName name := by
  have hdir := FileSystem.node?_of_stat hreadable.stat_eq
  have hmem := (hgrounded.mem_leavesWithin_iff hdir
    (Nat.le_add_left files.nodes.length place.length)).2 hsource.1
  exact horderly.isName_of_mem_leavesWithin hmem

theorem injOn_path : Set.InjOn (fun names => (sourceAt directory names).path)
    {names | IsSource files directory place layout names} := by
  intro names hsource others hother heq
  obtain ⟨hne, hnames⟩ := IsSource.isName horderly hgrounded hreadable hsource
  obtain ⟨hneOthers, hothers⟩ := IsSource.isName horderly hgrounded hreadable hother
  exact path_sourceAt_inj (bytes_ne_nil_of_stat hreadable.stat_eq) hne hnames hneOthers hothers heq

theorem covers_of_discover {catalog : Catalog}
    (hcatalog : discover files directory layout = .ok catalog) :
    Covers files directory place layout catalog := by
  have hsources := sources_eq horderly hreadable layout
  have hsorted := pairwise_sorted directory layout
    (files.leavesWithin (files.nodes.length + 1) place)
  generalize sorted directory layout _ = found at hsources hsorted
  have hexists := exists_mem_sources_iff horderly hgrounded hreadable hsources
  obtain ⟨-, -, hnodup⟩ := of_sources horderly hsources
  rw [discover_eq hsources] at hcatalog
  split at hcatalog
  next => cases hcatalog
  next =>
    cases hcatalog
    constructor
    case injOn => exact injOn_path horderly hgrounded hreadable
    case nodup => exact (paths_perm files layout found).nodup_iff.2 hnodup
    case mem_fixtures_iff =>
      intro fixture
      rw [List.mem_mergeSort, List.mem_filterMap, hexists]
      simp only [fixture?_eq_some_iff]
    case mem_orphans_iff =>
      intro path
      simp only [List.mem_map, List.mem_filter, and_assoc]
      rw [hexists]
      refine exists_congr fun names => and_congr_right fun _ => and_congr ?_ eq_comm
      rw [isFile_eq_isSome_fixture?, ← Option.not_isSome, Bool.not_eq_true']
    case pairwise_fixtures => exact pairwise_inOrder _
    case pairwise_orphans =>
      rw [List.pairwise_map]
      exact hsorted.filter _

/-- Without a source that has an expected output there is no catalog, and with one there is. -/
theorem discover_cases (layout : FixtureLayout) :
    (discover files directory layout = .error (.noFixtures directory) ∧
      ∀ names, IsSource files directory place layout names →
        files.isFile (expectation layout (sourceAt directory names)) = false) ∨
    ∃ catalog, discover files directory layout = .ok catalog ∧
      ∃ names, IsSource files directory place layout names ∧
        files.isFile (expectation layout (sourceAt directory names)) = true := by
  have hsources := sources_eq horderly hreadable layout
  generalize sorted directory layout _ = found at hsources
  have hexists := exists_mem_sources_iff horderly hgrounded hreadable hsources fun source =>
    files.isFile (expectation layout source) = true
  have hnil : found.filterMap (fixture? files layout) = [] ↔
      ¬ ∃ source ∈ found, files.isFile (expectation layout source) = true := by
    simp [isFile_eq_isSome_fixture?, List.filterMap_eq_nil_iff]
  rw [discover_eq hsources]
  split
  next hnone =>
    rw [hnil, hexists] at hnone
    refine .inl ⟨rfl, fun names hsource => ?_⟩
    rw [← Bool.not_eq_true]
    exact fun hfile => hnone ⟨names, hsource, hfile⟩
  next hsome =>
    rw [hnil, not_not, hexists] at hsome
    exact .inr ⟨_, rfl, hsome⟩

/-- A catalog does not depend on the order in which directories list their entries. -/
theorem discover_eq_of_perm (hperm : shuffled.nodes.Perm files.nodes)
    (hworking : shuffled.workingDirectory = files.workingDirectory) :
    discover shuffled directory layout = discover files directory layout := by
  have hsame := FileSystem.agreeOff_of_perm horderly.nodup hperm hworking
  have horderly' := horderly.of_perm hperm
  have hdir := FileSystem.node?_of_stat hreadable.stat_eq
  have hleaves : (shuffled.leavesWithin (shuffled.nodes.length + 1) place).Perm
      (files.leavesWithin (files.nodes.length + 1) place) :=
    hgrounded.leavesWithin_perm horderly horderly' hsame hdir (by omega) (by omega)
  have hsources := sources_eq horderly hreadable layout
  have hsources' := sources_eq horderly' (hreadable.congr hsame) layout
  rw [sorted_eq_of_perm (bytes_ne_nil_of_stat hreadable.stat_eq)
    (fun _ hmem => horderly'.isName_of_mem_leavesWithin hmem) hleaves] at hsources'
  rw [discover_eq hsources, discover_eq hsources', fixture?_congr hsame]

/-- Where no read fails, the walk ends by itself before it is as deep as it may go, and either the
    catalog covers the sources or there is none, which is so just if no source has an expected
    output. The order in which directories list their entries does not matter. -/
theorem discover_covers (layout : FixtureLayout) :
    (∀ more, collect files directory (files.nodes.length + 1 + more) [] =
        collect files directory (files.nodes.length + 1) []) ∧
      (discover files directory layout = .error (.noFixtures directory) ∨
        ∃ catalog, discover files directory layout = .ok catalog ∧
          Covers files directory place layout catalog) ∧
      (discover files directory layout = .error (.noFixtures directory) ↔
        ∀ names, IsSource files directory place layout names →
          files.isFile (expectation layout (sourceAt directory names)) = false) ∧
      ∀ shuffled : FileSystem, shuffled.nodes.Perm files.nodes →
        shuffled.workingDirectory = files.workingDirectory →
          discover shuffled directory layout = discover files directory layout := by
  have hdir := FileSystem.node?_of_stat hreadable.stat_eq
  refine ⟨fun more => ?_, ?_, ?_, fun shuffled hperm hworking =>
    discover_eq_of_perm horderly hgrounded hreadable hperm hworking⟩
  · rw [collect_eq horderly hreadable, collect_eq horderly hreadable,
      hgrounded.leavesWithin_add more hdir (by omega)]
  · rcases discover_cases horderly hgrounded hreadable layout with
      ⟨hnone, -⟩ | ⟨catalog, hcatalog, -⟩
    · exact .inl hnone
    · exact .inr ⟨catalog, hcatalog, covers_of_discover horderly hgrounded hreadable hcatalog⟩
  · rcases discover_cases horderly hgrounded hreadable layout with
      ⟨hnone, hmissing⟩ | ⟨catalog, hcatalog, names, hsource, hfile⟩
    · exact iff_of_true hnone hmissing
    · rw [hcatalog]
      refine iff_of_false (fun hnone => by cases hnone) fun hmissing => ?_
      rw [hmissing names hsource] at hfile
      cases hfile

end

/-- It is enough to look at the directories there are. -/
theorem readable_of_nodes (horderly : files.Orderly)
    (hstat : files.stat directory = .ok (place, .dir))
    (hlisted : ∀ entry ∈ files.nodes, entry.2 = .dir →
      (files.list (sourceAt directory (entry.1.drop place.length)).path).isOk = true) :
    Readable files directory place := by
  refine ⟨hstat, fun names hnode => ?_⟩
  by_cases hroot : place ++ names = []
  · obtain ⟨rfl, rfl⟩ := List.append_eq_nil_iff.1 hroot
    exact ⟨_, FileSystem.list_eq_ok_iff.2 ⟨hstat, rfl⟩⟩
  · rw [FileSystem.node?_eq_some_iff horderly.nodup hroot] at hnode
    have hok := hlisted _ hnode rfl
    rw [List.drop_left] at hok
    cases hlist : files.list (sourceAt directory names).path with
    | error cause =>
      rw [hlist] at hok
      cases hok
    | ok listing => exact ⟨listing, rfl⟩

/-- Directories in directories. One expected output is behind a symbolic link, and another link is
    called as sources are and leads to a directory. -/
def nested : FileSystem where
  nodes := [
    (["t"].map Utf8.encode, .dir),
    (["t", "b.c"].map Utf8.encode, .file [] 0o644),
    (["t", "a.b.c"].map Utf8.encode, .link (.ofText "a")),
    (["t", "b.expected"].map Utf8.encode, .file (Utf8.encode "two") 0o644),
    (["t", "a"].map Utf8.encode, .dir),
    (["t", "a", "z.c"].map Utf8.encode, .file [] 0o644),
    (["t", "a", "z.expected"].map Utf8.encode, .link (.ofText "../b.expected")),
    (["t", "a", "deep"].map Utf8.encode, .dir),
    (["t", "a", "deep", "x.c"].map Utf8.encode, .file [] 0o644)]

theorem discover_covers_nested :
    nested.Orderly ∧ nested.Grounded ∧
      Readable nested (.ofText "t") (["t"].map Utf8.encode) ∧
      ∃ catalog, discover nested (.ofText "t") {} = .ok catalog ∧
        discover { nested with nodes := nested.nodes.reverse } (.ofText "t") {} = .ok catalog ∧
        Covers nested (.ofText "t") (["t"].map Utf8.encode) {} catalog ∧
        catalog.fixtures.map (fun fixture => (fixture.id, fixture.expected)) =
          [(⟨"a/z"⟩, Utf8.encode "two"), (⟨"b"⟩, Utf8.encode "two")] ∧
        catalog.orphans = ["t/a/deep/x.c", "t/a.b.c"].map Path.ofText := by
  have horderly : nested.Orderly := ⟨by decide, by decide⟩
  have hgrounded : nested.Grounded := FileSystem.grounded_of_nodes (by decide) rfl
  have hreadable : Readable nested (.ofText "t") (["t"].map Utf8.encode) :=
    readable_of_nodes horderly (by decide +kernel) (by decide)
  have hcollect : collect nested (.ofText "t") 10 [] =
      .ok ([["b.c"], ["a.b.c"], ["b.expected"], ["a", "z.c"], ["a", "z.expected"],
        ["a", "deep", "x.c"]].map fun names => names.map Utf8.encode) := by decide +kernel
  let found := sourcesAmong (.ofText "t") {} <|
    [["a", "deep", "x.c"], ["a", "z.c"], ["a", "z.expected"], ["a.b.c"], ["b.c"],
      ["b.expected"]].map fun names => names.map Utf8.encode
  have hsources : sources nested (.ofText "t") {} = .ok found :=
    sources_of_collect (by decide) hcollect (by decide) (by decide) (by decide +kernel)
  let fixtures : List Fixture :=
    [⟨⟨"a/z"⟩, .ofText "t/a/z.c", Utf8.encode "two"⟩, ⟨⟨"b"⟩, .ofText "t/b.c", Utf8.encode "two"⟩]
  have hfixtures : found.filterMap (fixture? nested {}) = fixtures := by decide +kernel
  have hinOrder : fixtures.mergeSort inOrder = fixtures :=
    List.mergeSort_of_pairwise (by decide)
  have horphans : (found.filter fun source => (fixture? nested {} source).isNone).map Source.path =
      ["t/a/deep/x.c", "t/a.b.c"].map Path.ofText := by decide +kernel
  have hcatalog := discover_eq hsources
  rw [hfixtures, horphans, if_neg (List.cons_ne_nil _ _), hinOrder] at hcatalog
  obtain ⟨-, hcases, -, hshuffled⟩ := discover_covers horderly hgrounded hreadable {}
  rw [hcatalog] at hcases hshuffled
  refine ⟨horderly, hgrounded, hreadable, _, hcatalog, hshuffled _ (List.reverse_perm _) rfl, ?_,
    rfl, rfl⟩
  obtain hnone | ⟨other, hother, hcovers⟩ := hcases
  · cases hnone
  · rwa [Except.ok.inj hother]

end BootChain.Catalog
