import BootChain.Proofs.Catalog.Collect
import BootChain.Proofs.Path.Extension
import BootChain.Proofs.Path.Order

namespace BootChain.Catalog

variable {files : FileSystem} {directory : Path} {layout : FixtureLayout} {catalog : Catalog}
  {source : Source} {found : List Source} {names : List Bytes} {leaves others : List (List Bytes)}

/-- A source as the walk below a directory finds it. -/
structure Below (directory : Path) (layout : FixtureLayout) (source : Source) : Prop where
  ne_nil : source.names ≠ []
  isName : ∀ name ∈ source.names, Path.IsName name
  path_eq : source = sourceAt directory source.names
  extension : source.path.extension? = some (Utf8.encode layout.source)

theorem path_sourceAt (hne : names ≠ []) (hnames : ∀ name ∈ names, Path.IsName name)
    (hdirectory : directory.bytes ≠ []) :
    (sourceAt directory names).path =
      ⟨Path.opening directory ++ [Path.slash].intercalate names⟩ := by
  obtain ⟨dirs, name, rfl⟩ := List.eq_nil_or_concat' names |>.resolve_left hne
  rw [Path.intercalate_concat, ← List.append_assoc]
  exact Path.foldl_join (fun dir hmem => hnames dir (by simp [hmem])) (hnames name (by simp))
    hdirectory

theorem path_sourceAt_inj {others : List Bytes} (hdirectory : directory.bytes ≠ [])
    (hne : names ≠ []) (hnames : ∀ name ∈ names, Path.IsName name)
    (hneOthers : others ≠ []) (hothers : ∀ name ∈ others, Path.IsName name)
    (heq : (sourceAt directory names).path = (sourceAt directory others).path) :
    names = others := by
  rw [path_sourceAt hne hnames hdirectory, path_sourceAt hneOthers hothers hdirectory,
    Path.mk.injEq, List.append_cancel_left_eq] at heq
  rw [← Path.segments_intercalate hne fun name hmem => (hnames name hmem).slash_notMem, heq,
    Path.segments_intercalate hneOthers fun name hmem => (hothers name hmem).slash_notMem]

theorem bytes_ne_nil_of_stat {place : Location} {node : Node}
    (hstat : files.stat directory = .ok (place, node)) : directory.bytes ≠ [] := by
  obtain ⟨_, hresolve⟩ := FileSystem.resolve_of_stat hstat
  exact (FileSystem.resolve_eq_ok_iff.1 hresolve).2.1

theorem mem_sorted_iff {leaves : List (List Bytes)} : source ∈ sorted directory layout leaves ↔
    ∃ names ∈ leaves, (sourceAt directory names).path.extension? =
      some (Utf8.encode layout.source) ∧ sourceAt directory names = source := by
  rw [sorted, List.mem_mergeSort, List.mem_filter, List.mem_map, decide_eq_true_iff]
  constructor
  · rintro ⟨⟨names, hmem, rfl⟩, hextension⟩
    exact ⟨names, hmem, hextension, rfl⟩
  · rintro ⟨names, hmem, hextension, rfl⟩
    exact ⟨⟨names, hmem, rfl⟩, hextension⟩

theorem components_sourceAt (hdirectory : directory.bytes ≠ []) (hne : names ≠ [])
    (hnames : ∀ name ∈ names, Path.IsName name) :
    (sourceAt directory names).path.components =
      Path.components ⟨Path.opening directory⟩ ++ names.map .name := by
  obtain ⟨start, hopening⟩ := Path.exists_opening directory
  rw [path_sourceAt hne hnames hdirectory, hopening, List.append_assoc, List.singleton_append,
    Path.components_append_intercalate hnames hne]

/-- Sources that are in the order of paths both ways are one. -/
theorem sourceAt_eq_of_before (hdirectory : directory.bytes ≠ []) {others : List Bytes}
    (hne : names ≠ []) (hnames : ∀ name ∈ names, Path.IsName name)
    (hneOthers : others ≠ []) (hothers : ∀ name ∈ others, Path.IsName name)
    (hbefore : (sourceAt directory names).path.before (sourceAt directory others).path = true)
    (hafter : (sourceAt directory others).path.before (sourceAt directory names).path = true) :
    names = others := by
  have hcomponents := Path.components_eq_of_before hbefore hafter
  rw [components_sourceAt hdirectory hne hnames,
    components_sourceAt hdirectory hneOthers hothers] at hcomponents
  have hinj : Function.Injective Path.Component.name := fun _ _ heq => Path.Component.name.inj heq
  exact List.map_injective_iff.2 hinj (List.append_cancel_left hcomponents)

theorem pairwise_sorted (directory : Path) (layout : FixtureLayout) (leaves : List (List Bytes)) :
    (sorted directory layout leaves).Pairwise fun a b => a.path.before b.path = true := by
  refine List.pairwise_mergeSort (fun a b c hab hbc => ?_) (fun a b => ?_) _
  · exact Path.before_trans hab hbc
  · exact Path.before_total a.path b.path

/-- The sources come out the same, in whatever order they were found. -/
theorem sorted_eq_of_perm (hdirectory : directory.bytes ≠ [])
    (hnames : ∀ names ∈ leaves, names ≠ [] ∧ ∀ name ∈ names, Path.IsName name)
    (hperm : leaves.Perm others) :
    sorted directory layout leaves = sorted directory layout others := by
  refine List.Perm.eq_of_pairwise (fun a b ha hb hab hba => ?_) (pairwise_sorted _ _ leaves)
    (pairwise_sorted _ _ others) ?_
  · obtain ⟨names, hmem, -, rfl⟩ := mem_sorted_iff.1 ha
    obtain ⟨more, hmore, -, rfl⟩ := mem_sorted_iff.1 hb
    obtain ⟨hne, hnames'⟩ := hnames names hmem
    obtain ⟨hneMore, hmore⟩ := hnames more (hperm.mem_iff.2 hmore)
    rw [sourceAt_eq_of_before hdirectory hne hnames' hneMore hmore hab hba]
  · exact (List.mergeSort_perm _ _).trans
      (((hperm.map _).filter _).trans (List.mergeSort_perm _ _).symm)

/-- The sources among what is found in the directories, in the order in which it is found. -/
def sourcesAmong (directory : Path) (layout : FixtureLayout) (leaves : List (List Bytes)) :
    List Source :=
  (leaves.map (sourceAt directory)).filter fun source =>
    source.path.extension? = some (Utf8.encode layout.source)

/-- The leaves below a directory may be taken in another order, in which the sources are in turn. -/
theorem sources_of_collect (hdirectory : directory.bytes ≠ [])
    (hcollect : collect files directory (files.nodes.length + 1) [] = .ok leaves)
    (hnames : ∀ names ∈ leaves, names ≠ [] ∧ ∀ name ∈ names, Path.IsName name)
    (hperm : leaves.Perm others)
    (hpairwise : (sourcesAmong directory layout others).Pairwise fun a b =>
      a.path.before b.path = true) :
    sources files directory layout = .ok (sourcesAmong directory layout others) := by
  rw [sources, hcollect]
  exact congrArg Except.ok
    ((sorted_eq_of_perm hdirectory hnames hperm).trans (List.mergeSort_of_pairwise hpairwise))

/-- The sources below a directory all have different paths. -/
theorem of_sources (horderly : files.Orderly)
    (hsources : sources files directory layout = .ok found) :
    directory.bytes ≠ [] ∧ (∀ source ∈ found, Below directory layout source) ∧
      (found.map Source.path).Nodup := by
  obtain ⟨place, hstat⟩ := exists_stat_of_sources hsources
  have hdirectory := bytes_ne_nil_of_stat hstat
  rcases sources_cases horderly hstat with hok | ⟨e, herror, -⟩
  · cases hsources.symm.trans hok
    refine ⟨hdirectory, fun source hmem => ?_, ?_⟩
    · obtain ⟨names, hnames, hextension, rfl⟩ := mem_sorted_iff.1 hmem
      obtain ⟨hne, hnames⟩ := horderly.isName_of_mem_leavesWithin hnames
      exact ⟨hne, hnames, rfl, hextension⟩
    · refine ((List.mergeSort_perm _ _).map _).nodup_iff.2 ?_
      refine List.Nodup.sublist (List.filter_sublist.map _) ?_
      rw [List.map_map]
      refine List.Nodup.map_on (fun names hmem others hmemOthers heq => ?_)
        (horderly.nodup_leavesWithin _ place)
      obtain ⟨hne, hnames⟩ := horderly.isName_of_mem_leavesWithin hmem
      obtain ⟨hneOthers, hothers⟩ := horderly.isName_of_mem_leavesWithin hmemOthers
      exact path_sourceAt_inj hdirectory hne hnames hneOthers hothers heq
  · cases hsources.symm.trans herror

/-- Where the expected output of a source stands. -/
def expectation (layout : FixtureLayout) (source : Source) : Path :=
  source.path.withExtension (Utf8.encode layout.expected)

section

variable {dirs : List Bytes} {stem old : Bytes}

theorem partOf_segment (piece : Bytes) :
    partOf (if piece = [Path.dot, Path.dot] then .up else .name piece) = Utf8.lossy piece := by
  split
  next heq =>
    rw [heq]
    rfl
  next => rfl

/-- An id is what the way down without the extension is shown as. -/
theorem text_idOf (hnames : source.names = dirs ++ [stem ++ Path.dot :: old])
    (hdirs : ∀ dir ∈ dirs, Path.IsName dir) (hname : Path.IsName (stem ++ Path.dot :: old))
    (hold : Path.dot ∉ old) (hstem : stem ≠ []) (hdot : stem ≠ [Path.dot]) :
    (idOf source).text = Utf8.lossy (Path.through dirs ++ stem) := by
  have hpieces : ∀ piece ∈ dirs ++ [stem],
      Path.slash ∉ piece ∧ piece ≠ [] ∧ piece ≠ [Path.dot] := by
    intro piece hmem
    rcases List.mem_append.1 hmem with hmem | hmem
    · have hdir := hdirs piece hmem
      exact ⟨hdir.slash_notMem, hdir.ne_nil, hdir.ne_dot⟩
    · cases List.mem_singleton.1 hmem
      have hslash := hname.slash_notMem
      rw [List.mem_append, not_or] at hslash
      exact ⟨hslash.1, hstem, hdot⟩
  have hway : Path.withExtension ⟨[Path.slash].intercalate source.names⟩ [] =
      ⟨[Path.slash].intercalate (dirs ++ [stem])⟩ := by
    rw [hnames, Path.intercalate_concat, Path.intercalate_concat,
      Path.withExtension_name (Path.isLead_through dirs) hname hold hstem hdot, if_pos rfl,
      List.append_nil]
  rw [idOf, hway, Path.components_intercalate (by simp) hpieces, List.map_map,
    ← Path.intercalate_concat, Path.lossy_intercalate]
  simp only [Function.comp_def, partOf_segment]

end

/-- The parts of a source with an expected output: the directories on the way down, and a stem
    before the extension. -/
structure Parted (directory : Path) (layout : FixtureLayout) (source : Source) (dirs : List Bytes)
    (stem : Bytes) : Prop where
  names_eq : source.names = dirs ++ [stem ++ Path.dot :: Utf8.encode layout.source]
  path_eq : source.path = ⟨Path.opening directory ++ Path.through dirs ++
    (stem ++ Path.dot :: Utf8.encode layout.source)⟩
  isName_dirs : ∀ dir ∈ dirs, Path.IsName dir
  isName : Path.IsName (stem ++ Path.dot :: Utf8.encode layout.source)
  dot_notMem : Path.dot ∉ Utf8.encode layout.source
  ne_nil : stem ≠ []
  ne_dot : stem ≠ [Path.dot]

theorem Below.exists_parted (hgrounded : files.Grounded) (hdirectory : directory.bytes ≠ [])
    (hbelow : Below directory layout source)
    (hfile : files.isFile (expectation layout source) = true) :
    ∃ dirs stem, Parted directory layout source dirs stem := by
  obtain ⟨hne, hnames, hpath, hextension⟩ := hbelow
  obtain ⟨dirs, name, hsplit⟩ := (List.eq_nil_or_concat' source.names).resolve_left hne
  have hdirs : ∀ dir ∈ dirs, Path.IsName dir := fun dir hmem => hnames dir (by simp [hsplit, hmem])
  have hname : Path.IsName name := hnames name (by simp [hsplit])
  have hplace : source.path = ⟨Path.opening directory ++ Path.through dirs ++ name⟩ := by
    rw [hpath, path_sourceAt hne hnames hdirectory, hsplit, Path.intercalate_concat,
      List.append_assoc]
  have hlead : Path.IsLead (Path.opening directory ++ Path.through dirs) :=
    Path.isLead_append (Path.isLead_opening directory) (Path.isLead_through dirs)
  rw [hplace, Path.extension?_step hlead hname.isStep, Option.map_eq_some_iff] at hextension
  obtain ⟨⟨stem, extension⟩, hcut, rfl⟩ := hextension
  obtain ⟨rfl, hold, hstem⟩ := Path.cutAtDot?_eq_some_iff.1 hcut
  -- The expected output of a source with a lone dot for a stem would be the directory above.
  have hdot : stem ≠ [Path.dot] := by
    rintro rfl
    rw [expectation, hplace, Path.withExtension_dots hlead hname hold,
      hgrounded.isFile_dots hlead] at hfile
    cases hfile
  exact ⟨dirs, stem, hsplit, hplace, hdirs, hname, hold, hstem, hdot⟩

/-- A source with an expected output is shown as what its directory is shown as, its id, and the
    extension. -/
theorem exists_shown_eq (hgrounded : files.Grounded) (hdirectory : directory.bytes ≠ [])
    (layout : FixtureLayout) : ∃ before after : String, ∀ source, Below directory layout source →
      files.isFile (expectation layout source) = true →
        source.path.shown = before ++ (idOf source).text ++ after := by
  obtain ⟨start, hopening⟩ := Path.exists_opening directory
  refine ⟨Utf8.lossy start ++ "/", "." ++ layout.source, fun source hbelow hfile => ?_⟩
  obtain ⟨dirs, stem, hparted⟩ := hbelow.exists_parted hgrounded hdirectory hfile
  have hid := text_idOf hparted.names_eq hparted.isName_dirs hparted.isName hparted.dot_notMem
    hparted.ne_nil hparted.ne_dot
  have hbytes : source.path.bytes = start ++ Path.slash ::
      ((Path.through dirs ++ stem) ++ Path.dot :: Utf8.encode layout.source) := by
    rw [hparted.path_eq, hopening]
    simp
  rw [Path.shown, hbytes, Utf8.lossy_append_ascii (by decide), Utf8.lossy_append_ascii (by decide),
    hid, Utf8.lossy_encode]
  simp only [String.append_assoc]
  rfl

/-- The fixture that a source makes with what the path of its expected output leads to. -/
def fixtureWith? (source : Source) : Except IoError (Location × Node) → Option Fixture
  | .ok (_, .file expected _) => some ⟨idOf source, source.path, expected⟩
  | _ => none

/-- The fixture that a source makes, if there is an expected output: a regular file, to which
    symbolic links may lead. -/
def fixture? (files : FileSystem) (layout : FixtureLayout) (source : Source) : Option Fixture :=
  fixtureWith? source (files.stat (expectation layout source))

theorem fixture?_eq_some_iff {fixture : Fixture} : fixture? files layout source = some fixture ↔
    ∃ place expected mode,
      files.stat (expectation layout source) = .ok (place, .file expected mode) ∧
        fixture = ⟨idOf source, source.path, expected⟩ := by
  rw [fixture?]
  generalize files.stat (expectation layout source) = found
  rcases found with e | ⟨place, _ | _ | _ | _⟩ <;> simp [fixtureWith?, eq_comm]

theorem isFile_eq_isSome_fixture? (source : Source) :
    files.isFile (expectation layout source) = (fixture? files layout source).isSome := by
  rw [FileSystem.isFile, fixture?]
  generalize files.stat (expectation layout source) = found
  rcases found with e | ⟨place, _ | _ | _ | _⟩ <;> rfl

/-- An expected output that is there can be read, so a source becomes a fixture or an orphan. -/
theorem add_eq (catalog : Catalog) (source : Source) : add files layout catalog source =
    .ok (match fixture? files layout source with
      | some fixture => { catalog with fixtures := catalog.fixtures ++ [fixture] }
      | none => { catalog with orphans := catalog.orphans ++ [source.path] }) := by
  rw [add, FileSystem.isFile, FileSystem.read, fixture?, expectation]
  dsimp only
  generalize files.stat (source.path.withExtension (Utf8.encode layout.expected)) = found
  rcases found with e | ⟨place, _ | _ | _ | _⟩ <;> rfl

theorem foldlM_add_eq (found : List Source) (catalog : Catalog) :
    found.foldlM (add files layout) catalog =
      .ok ⟨catalog.fixtures ++ found.filterMap (fixture? files layout), catalog.orphans ++
        (found.filter fun source => (fixture? files layout source).isNone).map Source.path⟩ := by
  induction found generalizing catalog with
  | nil => simp [pure, Except.pure]
  | cons source rest ih =>
    rw [List.foldlM_cons, add_eq]
    refine (ih _).trans ?_
    cases hfixture : fixture? files layout source with
    | none => simp [hfixture]
    | some fixture => simp [hfixture]

/-- Each fixture has the id and the path of the source that it comes from. -/
theorem map_filterMap_fixture? (found : List Source) :
    (found.filterMap (fixture? files layout)).map (fun fixture => (fixture.id, fixture.source)) =
      (found.filter fun source => (fixture? files layout source).isSome).map fun source =>
        (idOf source, source.path) := by
  induction found with
  | nil => rfl
  | cons source rest ih =>
    cases hfixture : fixture? files layout source with
    | none => simp [hfixture, ih]
    | some fixture =>
      obtain ⟨place, expected, mode, -, rfl⟩ := fixture?_eq_some_iff.1 hfixture
      simp [hfixture, ih]

/-- There is a catalog just if some source has an expected output. -/
theorem discover_eq (hsources : sources files directory layout = .ok found) :
    discover files directory layout =
      if found.filterMap (fixture? files layout) = [] then .error (.noFixtures directory)
      else .ok ⟨(found.filterMap (fixture? files layout)).mergeSort inOrder,
        (found.filter fun source => (fixture? files layout source).isNone).map Source.path⟩ := by
  rw [discover, hsources]
  simp only [bind, Except.bind, foldlM_add_eq, List.nil_append, List.isEmpty_iff]
  rfl

theorem pairwise_inOrder (fixtures : List Fixture) :
    (fixtures.mergeSort inOrder).Pairwise fun a b => (compare a.id b.id).isLE = true := by
  refine List.pairwise_mergeSort (fun a b c hab hbc => ?_) (fun a b => ?_) _
  · exact Std.TransOrd.isLE_trans hab hbc
  · rw [Std.OrientedOrd.eq_swap (a := b.id)]
    cases compare a.id b.id <;> rfl

/-- Fixtures in order have their ids in order. -/
theorem map_id_mergeSort {fixtures : List Fixture} {ids : List FixtureId}
    (hperm : (fixtures.map Fixture.id).Perm ids)
    (hids : ids.Pairwise fun a b => (compare a b).isLE = true) :
    (fixtures.mergeSort inOrder).map Fixture.id = ids := by
  have hsorted : ((fixtures.mergeSort inOrder).map Fixture.id).Pairwise fun a b =>
      (compare a b).isLE = true := List.pairwise_map.2 (pairwise_inOrder fixtures)
  refine List.Perm.eq_of_pairwise (fun a b _ _ hab hba => ?_) hsorted hids
    (((List.mergeSort_perm _ _).map _).trans hperm)
  exact Std.LawfulEqOrd.eq_of_compare (Std.OrientedCmp.isLE_antisymm hab hba)

/-- The catalog of sources that are known, with its ids in order. -/
theorem exists_discover {ids : List FixtureId}
    (hsources : sources files directory layout = .ok found)
    (hperm : ((found.filterMap (fixture? files layout)).map Fixture.id).Perm ids)
    (hids : ids.Pairwise fun a b => (compare a b).isLE = true) (hne : ids ≠ []) :
    ∃ catalog, discover files directory layout = .ok catalog ∧
      catalog.fixtures.map Fixture.id = ids ∧
      catalog.fixtures.Perm (found.filterMap (fixture? files layout)) := by
  have hfixtures : found.filterMap (fixture? files layout) ≠ [] := by
    intro hnil
    rw [hnil] at hperm
    exact hne hperm.nil_eq.symm
  have hcatalog := discover_eq hsources
  rw [if_neg hfixtures] at hcatalog
  exact ⟨_, hcatalog, map_id_mergeSort hperm hids, List.mergeSort_perm _ _⟩

theorem of_discover (hcatalog : discover files directory layout = .ok catalog) :
    ∃ found chosen : List Source, sources files directory layout = .ok found ∧
      chosen.Sublist found ∧
      (∀ source ∈ chosen, files.isFile (expectation layout source) = true) ∧
      (catalog.fixtures.map fun fixture => (fixture.id, fixture.source)).Perm
        (chosen.map fun source => (idOf source, source.path)) := by
  cases hsources : sources files directory layout with
  | error e =>
    rw [discover, hsources] at hcatalog
    cases hcatalog
  | ok found =>
    rw [discover_eq hsources] at hcatalog
    split at hcatalog
    · cases hcatalog
    · cases hcatalog
      refine ⟨found, found.filter fun source => (fixture? files layout source).isSome, rfl,
        List.filter_sublist, fun source hmem => ?_, ?_⟩
      · rw [isFile_eq_isSome_fixture?]
        exact (List.mem_filter.1 hmem).2
      · exact ((List.mergeSort_perm _ _).map _).trans
          (List.Perm.of_eq (map_filterMap_fixture? found))

section

variable (horderly : files.Orderly) (hgrounded : files.Grounded)
  (hcatalog : discover files directory layout = .ok catalog)
include horderly hcatalog

theorem nodup_paths_discover : (catalog.fixtures.map Fixture.source).Nodup := by
  obtain ⟨found, chosen, hsources, hsublist, -, hperm⟩ := of_discover hcatalog
  obtain ⟨-, -, hnodup⟩ := of_sources horderly hsources
  have hpaths := hperm.map Prod.snd
  rw [List.map_map, List.map_map] at hpaths
  exact hpaths.nodup_iff.2 (hnodup.sublist (hsublist.map _))

include hgrounded

/-- The fixtures of a catalog have different ids just if their sources are shown as different
    paths. -/
theorem nodup_ids_iff : (catalog.fixtures.map Fixture.id).Nodup ↔
    (catalog.fixtures.map fun fixture => fixture.source.shown).Nodup := by
  obtain ⟨found, chosen, hsources, hsublist, hfiles, hperm⟩ := of_discover hcatalog
  obtain ⟨hdirectory, hbelow, -⟩ := of_sources horderly hsources
  obtain ⟨before, after, hshown⟩ := exists_shown_eq hgrounded hdirectory layout
  have hids := hperm.map Prod.fst
  have hpaths := hperm.map fun key => key.2.shown
  simp only [List.map_map, Function.comp_def] at hids hpaths
  have hchosen : chosen.map (fun source => source.path.shown) =
      (chosen.map idOf).map fun id => before ++ id.text ++ after := by
    rw [List.map_map]
    exact List.map_congr_left fun source hmem =>
      hshown source (hbelow source (hsublist.subset hmem)) (hfiles source hmem)
  have hinj : Function.Injective fun id : FixtureId => before ++ id.text ++ after := by
    rintro ⟨first⟩ ⟨second⟩ heq
    rw [FixtureId.mk.injEq]
    exact (String.append_right_inj _).1 ((String.append_left_inj _).1 heq)
  rw [hids.nodup_iff, hpaths.nodup_iff, hchosen, List.nodup_map_iff hinj]

/-- As long as the sources have paths that are text, no two fixtures of a catalog have one id. -/
theorem nodup_ids_of_text
    (htext : ∀ fixture ∈ catalog.fixtures, fixture.source.text?.isSome = true) :
    (catalog.fixtures.map Fixture.id).Nodup := by
  rw [nodup_ids_iff horderly hgrounded hcatalog]
  have hpaths := nodup_paths_discover horderly hcatalog
  have hmap : (catalog.fixtures.map fun fixture => fixture.source.shown) =
      (catalog.fixtures.map Fixture.source).map Path.shown := by
    rw [List.map_map]
    rfl
  rw [hmap]
  refine hpaths.map_on fun first hfirst second hsecond heq => ?_
  have hshown : ∀ path ∈ catalog.fixtures.map Fixture.source, path = .ofText path.shown := by
    intro path hmem
    obtain ⟨fixture, hfixture, rfl⟩ := List.mem_map.1 hmem
    exact (Path.ofText_shown (htext fixture hfixture)).symm
  rw [hshown first hfirst, heq, ← hshown second hsecond]

end

/-- A directory with nothing but empty files in it. -/
def shelf (directory : Bytes) (names : List Bytes) : FileSystem where
  nodes := ([directory], .dir) :: names.map fun name => ([directory, name], .file [] 0o644)

theorem orderly_shelf {directory : Bytes} (hdirectory : Path.IsName directory)
    (hnames : ∀ name ∈ names, Path.IsName name) (hnodup : names.Nodup) :
    (shelf directory names).Orderly where
  nodup := by
    rw [shelf, List.map_cons, List.map_map, List.nodup_cons]
    exact ⟨by simp, hnodup.map fun first second heq => by simpa using heq⟩
  isName entry hmem piece hpiece := by
    rcases List.mem_cons.1 hmem with rfl | hmem
    · rwa [List.mem_singleton.1 hpiece]
    · obtain ⟨name, hname, rfl⟩ := List.mem_map.1 hmem
      rcases List.mem_cons.1 hpiece with rfl | hpiece
      · exact hdirectory
      · rw [List.mem_singleton.1 hpiece]
        exact hnames name hname

theorem grounded_shelf (directory : Bytes) (names : List Bytes) :
    (shelf directory names).Grounded := by
  refine FileSystem.grounded_of_nodes (fun entry hmem => ?_) rfl
  rcases List.mem_cons.1 hmem with rfl | hmem
  · rfl
  · obtain ⟨name, -, rfl⟩ := List.mem_map.1 hmem
    simp [FileSystem.node?, shelf]

/-- Sources with their expected outputs, and dots at every place of the names. -/
def dotted : List Bytes :=
  ["a.c", "a.expected", "a.b.c", "a.b.expected", "a..c", "a..expected", "...c", "...expected",
    ".c.c", ".c.expected", "é.c", "é.expected"].map Utf8.encode

theorem nodup_ids_dotted : ∃ catalog,
    discover (shelf (Utf8.encode "t") dotted) (.ofText "t") {} = .ok catalog ∧
      catalog.fixtures.map Fixture.id = [⟨".."⟩, ⟨".c"⟩, ⟨"a"⟩, ⟨"a."⟩, ⟨"a.b"⟩, ⟨"é"⟩] ∧
      (catalog.fixtures.map Fixture.id).Nodup := by
  have horderly : (shelf (Utf8.encode "t") dotted).Orderly :=
    orderly_shelf (by decide) (by decide) (by decide)
  let found := sourcesAmong (.ofText "t") {} <|
    ["...c", "...expected", ".c.c", ".c.expected", "a..c", "a..expected", "a.b.c", "a.b.expected",
      "a.c", "a.expected", "é.c", "é.expected"].map fun name => [Utf8.encode name]
  have hcollect : collect (shelf (Utf8.encode "t") dotted) (.ofText "t") 14 [] =
      .ok (dotted.map fun name => [name]) := by decide +kernel
  have hsources : sources (shelf (Utf8.encode "t") dotted) (.ofText "t") {} = .ok found :=
    sources_of_collect (by decide) hcollect (by decide) (by decide) (by decide +kernel)
  obtain ⟨catalog, hcatalog, hids, hperm⟩ := exists_discover hsources
    (show List.Perm _ [⟨".."⟩, ⟨".c"⟩, ⟨"a"⟩, ⟨"a."⟩, ⟨"a.b"⟩, ⟨"é"⟩] by decide +kernel) (by decide)
    (List.cons_ne_nil _ _)
  have htext : ∀ fixture ∈ found.filterMap (fixture? (shelf (Utf8.encode "t") dotted) {}),
      fixture.source.text?.isSome = true := by decide +kernel
  exact ⟨catalog, hcatalog, hids, nodup_ids_of_text horderly (grounded_shelf _ _) hcatalog
    fun fixture hmem => htext fixture (hperm.mem_iff.1 hmem)⟩

/-- Two sources with their expected outputs. Without the extensions their names are one octet each,
    and that octet is no text. -/
def illegible : List Bytes :=
  [0xFE :: Utf8.encode ".c", 0xFE :: Utf8.encode ".expected", 0xFF :: Utf8.encode ".c",
    0xFF :: Utf8.encode ".expected"]

/-- Names that are no text can be shown alike, and then two fixtures have one id. -/
theorem ids_eq_of_illegible :
    (shelf (Utf8.encode "t") illegible).Orderly ∧ (shelf (Utf8.encode "t") illegible).Grounded ∧
      ∃ catalog, discover (shelf (Utf8.encode "t") illegible) (.ofText "t") {} = .ok catalog ∧
        catalog.fixtures.map Fixture.id = [⟨"\uFFFD"⟩, ⟨"\uFFFD"⟩] ∧
        (catalog.fixtures.map Fixture.source).Nodup := by
  have horderly : (shelf (Utf8.encode "t") illegible).Orderly :=
    orderly_shelf (by decide) (by decide) (by decide)
  have hcollect : collect (shelf (Utf8.encode "t") illegible) (.ofText "t") 6 [] =
      .ok (illegible.map fun name => [name]) := by decide +kernel
  have hsources : sources (shelf (Utf8.encode "t") illegible) (.ofText "t") {} =
      .ok (sourcesAmong (.ofText "t") {} (illegible.map fun name => [name])) :=
    sources_of_collect (by decide) hcollect (by decide) (.refl _) (by decide +kernel)
  obtain ⟨catalog, hcatalog, hids, -⟩ := exists_discover hsources
    (show List.Perm _ [⟨"\uFFFD"⟩, ⟨"\uFFFD"⟩] by decide +kernel) (by decide)
    (List.cons_ne_nil _ _)
  exact ⟨horderly, grounded_shelf _ _, catalog, hcatalog, hids,
    nodup_paths_discover horderly hcatalog⟩

end BootChain.Catalog
