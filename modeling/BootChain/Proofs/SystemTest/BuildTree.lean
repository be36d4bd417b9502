import BootChain.Proofs.Catalog.Coverage
import BootChain.Proofs.Except
import BootChain.Proofs.FileSystem.Descent
import BootChain.Proofs.SortedMap
import BootChain.SystemTest.BuildTree

namespace BootChain.SystemTest

/-- An id is a way down: steps with slashes between them. -/
def IsId (id : String) : Prop := ∀ part ∈ Path.segments (Utf8.encode id), Path.IsStep part

instance : DecidablePred IsId := fun id =>
  inferInstanceAs (Decidable (∀ part ∈ Path.segments (Utf8.encode id), Path.IsStep part))

/-- The names on the way to the file of an id with some extension. -/
def namesOf (id extension : String) : List Bytes :=
  Path.segments (Utf8.encode (id ++ "." ++ extension))

/-- An id goes through some directories to a stem, behind which the extension is put. -/
structure Parted (id : String) (dirs : List Bytes) (stem : Bytes) : Prop where
  encode_eq : Utf8.encode id = Path.through dirs ++ stem
  isStep : ∀ part ∈ dirs ++ [stem], Path.IsStep part

/-- What can stand behind the last dot of a name. -/
structure IsExtension (extension : String) : Prop where
  isName : Path.IsName (Utf8.encode extension)
  dot_notMem : Path.dot ∉ Utf8.encode extension

section Naming

variable {id other extension : String} {directory : Path} {dirs : List Bytes} {stem : Bytes}

theorem exists_parted (hid : IsId id) : ∃ dirs stem, Parted id dirs stem := by
  obtain ⟨dirs, stem, hparts⟩ :=
    (List.eq_nil_or_concat' _).resolve_left (Path.segments_ne_nil (Utf8.encode id))
  have hwhole := Path.intercalate_segments (Utf8.encode id)
  rw [IsId, hparts] at hid
  rw [hparts, Path.intercalate_concat] at hwhole
  exact ⟨dirs, stem, hwhole.symm, hid⟩

theorem encode_dotted (id extension : String) : Utf8.encode (id ++ "." ++ extension) =
    Utf8.encode id ++ Path.dot :: Utf8.encode extension := by
  rw [Utf8.encode_append, Utf8.encode_append, List.append_assoc]
  rfl

theorem namesOf_ne_nil (id extension : String) : namesOf id extension ≠ [] :=
  Path.segments_ne_nil _

/-- The way to a file of an id spells the id and the extension. -/
theorem intercalate_namesOf (id extension : String) :
    [Path.slash].intercalate (namesOf id extension) = Utf8.encode (id ++ "." ++ extension) :=
  Path.intercalate_segments _

theorem namesOf_inj (hsame : namesOf id extension = namesOf other extension) : id = other := by
  have hencode : Utf8.encode (id ++ "." ++ extension) =
      Utf8.encode (other ++ "." ++ extension) := by
    rw [← intercalate_namesOf, hsame, intercalate_namesOf]
  rw [Utf8.encode_inj, String.append_left_inj, String.append_left_inj] at hencode
  exact hencode

theorem namesOf_c_ne_expected (id other : String) : namesOf id "c" ≠ namesOf other "expected" := by
  intro hsame
  have hencode : Utf8.encode (id ++ "." ++ "c") = Utf8.encode (other ++ "." ++ "expected") := by
    rw [← intercalate_namesOf, hsame, intercalate_namesOf]
  rw [encode_dotted, encode_dotted] at hencode
  have hlast := congrArg List.getLast? hencode
  have hc : (Path.dot :: Utf8.encode "c").getLast? = some 0x63 := by decide
  have hd : (Path.dot :: Utf8.encode "expected").getLast? = some 0x64 := by decide
  rw [List.getLast?_append, List.getLast?_append, hc, hd, Option.some_or, Option.some_or] at hlast
  exact absurd hlast (by decide)

namespace Parted

variable (hparted : Parted id dirs stem)
include hparted

theorem isName_dirs (hnul : 0 ∉ Utf8.encode id) : ∀ dir ∈ dirs, Path.IsName dir := by
  intro dir hmem
  have hstep := hparted.isStep dir (List.mem_append_left _ hmem)
  refine ⟨hstep.slash_notMem, fun hzero => hnul ?_, hstep.ne_nil, hstep.ne_dot, hstep.ne_dots⟩
  rw [hparted.encode_eq, Path.through]
  exact List.mem_append_left _ (List.mem_flatMap.2 ⟨dir, hmem, List.mem_append_left _ hzero⟩)

variable (hextension : IsExtension extension)
include hextension

theorem isStep_file : Path.IsStep (stem ++ Path.dot :: Utf8.encode extension) := by
  have hstem := hparted.isStep stem (by simp)
  exact Path.isStep_append_dot hstem.slash_notMem hstem.ne_nil hextension.isName.slash_notMem
    hextension.isName.ne_nil

theorem namesOf_eq :
    namesOf id extension = dirs ++ [stem ++ Path.dot :: Utf8.encode extension] := by
  rw [namesOf, encode_dotted, hparted.encode_eq, List.append_assoc, ← Path.intercalate_concat,
    Path.segments_intercalate (List.concat_ne_nil _ _)]
  intro piece hmem
  rcases List.mem_append.1 hmem with hmem | hmem
  · exact (hparted.isStep piece (List.mem_append_left _ hmem)).slash_notMem
  · rw [List.mem_singleton.1 hmem]
    exact (hparted.isStep_file hextension).slash_notMem

theorem isName_file (hnul : 0 ∉ Utf8.encode id) :
    Path.IsName (stem ++ Path.dot :: Utf8.encode extension) := by
  have hstep := hparted.isStep_file hextension
  refine ⟨hstep.slash_notMem, ?_, hstep.ne_nil, hstep.ne_dot, hstep.ne_dots⟩
  rw [hparted.encode_eq, List.mem_append, not_or] at hnul
  rw [List.mem_append, List.mem_cons]
  simp [hnul.2, hextension.isName.nul_notMem, Path.dot]

end Parted

section

variable (hid : IsId id) (hnul : 0 ∉ Utf8.encode id) (hextension : IsExtension extension)
include hid hnul hextension

theorem isName_namesOf : ∀ name ∈ namesOf id extension, Path.IsName name := by
  obtain ⟨dirs, stem, hparted⟩ := exists_parted hid
  rw [hparted.namesOf_eq hextension]
  intro name hmem
  rcases List.mem_append.1 hmem with hmem | hmem
  · exact hparted.isName_dirs hnul name hmem
  · rw [List.mem_singleton.1 hmem]
    exact hparted.isName_file hextension hnul

/-- The path of a file of an id is the id with the extension, in the directory. -/
theorem below_namesOf (hdirectory : directory.bytes ≠ []) :
    directory.below (namesOf id extension) =
      ⟨Path.opening directory ++ Utf8.encode (id ++ "." ++ extension)⟩ := by
  rw [← intercalate_namesOf]
  exact Catalog.path_sourceAt (namesOf_ne_nil _ _) (isName_namesOf hid hnul hextension) hdirectory

theorem extension?_namesOf (hdirectory : directory.bytes ≠ []) :
    (directory.below (namesOf id extension)).extension? = some (Utf8.encode extension) := by
  obtain ⟨dirs, stem, hparted⟩ := exists_parted hid
  have hlead : Path.IsLead (Path.opening directory ++ Path.through dirs) :=
    Path.isLead_append (Path.isLead_opening directory) (Path.isLead_through dirs)
  rw [below_namesOf hid hnul hextension hdirectory, encode_dotted, hparted.encode_eq,
    List.append_assoc, ← List.append_assoc,
    Path.extension?_step hlead (hparted.isStep_file hextension),
    Path.cutAtDot?_eq_some_iff.2
      ⟨rfl, hextension.dot_notMem, (hparted.isStep stem (by simp)).ne_nil⟩]
  rfl

/-- Another extension leads to the other file of the id. -/
theorem withExtension_namesOf (hdirectory : directory.bytes ≠ []) {new : String}
    (hnew : IsExtension new) :
    (directory.below (namesOf id extension)).withExtension (Utf8.encode new) =
      directory.below (namesOf id new) := by
  obtain ⟨dirs, stem, hparted⟩ := exists_parted hid
  have hlead : Path.IsLead (Path.opening directory ++ Path.through dirs) :=
    Path.isLead_append (Path.isLead_opening directory) (Path.isLead_through dirs)
  have hstem := hparted.isStep stem (by simp)
  rw [below_namesOf hid hnul hextension hdirectory, below_namesOf hid hnul hnew hdirectory,
    encode_dotted, encode_dotted, hparted.encode_eq, List.append_assoc, ← List.append_assoc,
    Path.withExtension_name hlead (hparted.isName_file hextension hnul) hextension.dot_notMem
      hstem.ne_nil hstem.ne_dot, if_neg hnew.isName.ne_nil]
  simp

/-- The id of a file is read back from its path. -/
theorem idOf_namesOf :
    Catalog.idOf (Catalog.sourceAt directory (namesOf id extension)) = ⟨id⟩ := by
  obtain ⟨dirs, stem, hparted⟩ := exists_parted hid
  have hstem := hparted.isStep stem (by simp)
  have hnames : (Catalog.sourceAt directory (namesOf id extension)).names =
      dirs ++ [stem ++ Path.dot :: Utf8.encode extension] := by
    rw [Catalog.sourceAt, hparted.namesOf_eq hextension]
  have htext := Catalog.text_idOf hnames (hparted.isName_dirs hnul)
    (hparted.isName_file hextension hnul) hextension.dot_notMem hstem.ne_nil hstem.ne_dot
  rw [← hparted.encode_eq, Utf8.lossy_encode] at htext
  generalize Catalog.idOf (Catalog.sourceAt directory (namesOf id extension)) = found at htext ⊢
  rw [← htext]

end

end Naming

theorem isExtension_c : IsExtension "c" := ⟨by decide, by decide⟩

theorem isExtension_expected : IsExtension "expected" := ⟨by decide, by decide⟩

namespace BuildTree

variable {tree : BuildTree} {files later : FileSystem} {base : Location} {id line : String}
  {lines : SortedMap String String}

/-- A tree has the files of some test programs, and of each the last line that it was added with. -/
structure Stocked (tree : BuildTree) (base : Location) (lines : SortedMap String String)
    (files : FileSystem) : Prop where
  plain : files.Plain tree.fixturesDir base
  isId : ∀ id line, lines.get? id = some line → IsId id ∧ 0 ∉ Utf8.encode id
  source : ∀ id line, lines.get? id = some line →
    files.held? (base ++ namesOf id "c") = some (Utf8.encode (sourceText line))
  expected : ∀ id line, lines.get? id = some line →
    files.held? (base ++ namesOf id "expected") = some (Utf8.encode (line ++ "\n"))
  /-- No other files are there. -/
  only : ∀ names content, files.held? (base ++ names) = some content →
    ∃ id line, lines.get? id = some line ∧ (names = namesOf id "c" ∨ names = namesOf id "expected")

theorem bytes_sourcePath (hdirectory : tree.fixturesDir.bytes ≠ []) (hid : IsId id) :
    (tree.sourcePath id).bytes =
      Path.opening tree.fixturesDir ++ Utf8.encode (id ++ "." ++ "c") := by
  obtain ⟨dirs, stem, hparted⟩ := exists_parted hid
  have hpieces : [] ∉ Path.segments (Utf8.encode (id ++ "." ++ "c")) := by
    intro hmem
    rw [← namesOf, hparted.namesOf_eq isExtension_c] at hmem
    rcases List.mem_append.1 hmem with hmem | hmem
    · exact (hparted.isStep [] (List.mem_append_left _ hmem)).ne_nil rfl
    · exact (hparted.isStep_file isExtension_c).ne_nil (List.mem_singleton.1 hmem).symm
  have hdotted : id ++ ".c" = id ++ "." ++ "c" := by
    rw [String.append_assoc]
    rfl
  rw [sourcePath, hdotted, Path.ofText,
    Path.join_relative (Path.not_isAbsolute_of_segments hpieces) hdirectory]

theorem sourcePath_eq (hdirectory : tree.fixturesDir.bytes ≠ []) (hid : IsId id)
    (hnul : 0 ∉ Utf8.encode id) :
    tree.sourcePath id = tree.fixturesDir.below (namesOf id "c") := by
  rw [below_namesOf hid hnul isExtension_c hdirectory, ← bytes_sourcePath hdirectory hid]

/-- What adding a test program does: a file is written for the source and one for what is expected,
    below a directory that is made for them. -/
theorem addFixture_steps (hplain : files.Plain tree.fixturesDir base) (hid : IsId id)
    (hadded : tree.addFixture files id line = .ok later) :
    0 ∉ Utf8.encode id ∧ ∃ dirs made sourced, (∀ dir ∈ dirs, Path.IsName dir) ∧
      files.createDirs (tree.fixturesDir.below dirs) = (.ok (), made) ∧
      made.write (tree.fixturesDir.below (namesOf id "c")) (Utf8.encode (sourceText line)) =
        .ok sourced ∧
      sourced.write (tree.fixturesDir.below (namesOf id "expected")) (Utf8.encode (line ++ "\n")) =
        .ok later := by
  have hdirectory := hplain.bytes_ne_nil
  obtain ⟨made, hmade, hrest⟩ : ∃ made,
      (∀ parent, (tree.sourcePath id).parent? = some parent → files.withDirs parent = .ok made) ∧
        (do
          let files ← made.write (tree.sourcePath id) (Utf8.encode (sourceText line))
          files.write ((tree.sourcePath id).withExtension (Utf8.encode "expected"))
            (Utf8.encode (line ++ "\n"))) = .ok later := by
    rw [addFixture] at hadded
    dsimp only at hadded
    split at hadded
    next parent hparent =>
      obtain ⟨made, hmade, hrest⟩ := Except.bind_eq_ok.1 hadded
      refine ⟨made, fun other hother => ?_, hrest⟩
      rwa [← Option.some.inj (hparent.symm.trans hother)]
    next hparent =>
      refine ⟨files, fun other hother => ?_, hadded⟩
      cases hparent.symm.trans hother
  obtain ⟨sourced, hsource, hexpected⟩ := Except.bind_eq_ok.1 hrest
  have hnul : 0 ∉ Utf8.encode id := by
    obtain ⟨target, hresolve, -⟩ := FileSystem.write_cases hsource
    have hnulPath := (FileSystem.resolve_eq_ok_iff.1 hresolve).1
    rw [bytes_sourcePath hdirectory hid, encode_dotted] at hnulPath
    exact fun hmem => hnulPath (List.mem_append_right _ (List.mem_append_left _ hmem))
  obtain ⟨dirs, stem, hparted⟩ := exists_parted hid
  have hnames := isName_namesOf hid hnul isExtension_c
  have hparent : (tree.sourcePath id).parent? = some (tree.fixturesDir.below dirs) := by
    rw [sourcePath_eq hdirectory hid hnul]
    rw [hparted.namesOf_eq isExtension_c] at hnames ⊢
    have hne : Utf8.encode "fixtures" :: dirs ≠ [] := List.cons_ne_nil _ _
    refine Path.parent?_below tree.root hne fun piece hmem => ?_
    rcases List.mem_cons.1 hmem with rfl | hmem
    · decide
    · exact (hnames piece hmem).isStep
  rw [sourcePath_eq hdirectory hid hnul] at hsource hexpected
  rw [withExtension_namesOf hid hnul isExtension_c hdirectory isExtension_expected] at hexpected
  exact ⟨hnul, dirs, made, sourced, hparted.isName_dirs hnul,
    FileSystem.withDirs_eq_ok_iff.1 (hmade _ hparent), hsource, hexpected⟩

/-- A test program that is added counts from then on, and any other does as before. -/
theorem Stocked.addFixture (hstocked : tree.Stocked base lines files) (hid : IsId id)
    (hadded : tree.addFixture files id line = .ok later) :
    tree.Stocked base (lines.insert id line) later := by
  obtain ⟨hnul, dirs, made, sourced, hdirs, hmade, hsource, hexpected⟩ :=
    addFixture_steps hstocked.plain hid hadded
  obtain ⟨hplainMade, hheldMade⟩ := hstocked.plain.createDirs hdirs hmade
  obtain ⟨hplainSourced, hheldSourced⟩ := hplainMade.write (namesOf_ne_nil id "c")
    (isName_namesOf hid hnul isExtension_c) hsource
  obtain ⟨hplain, hheldLater⟩ := hplainSourced.write (namesOf_ne_nil id "expected")
    (isName_namesOf hid hnul isExtension_expected) hexpected
  have hheldExpected : later.held? (base ++ namesOf id "expected") =
      some (Utf8.encode (line ++ "\n")) := by rw [hheldLater, if_pos rfl]
  have hheldSource : later.held? (base ++ namesOf id "c") =
      some (Utf8.encode (sourceText line)) := by
    rw [hheldLater, if_neg, hheldSourced, if_pos rfl]
    exact fun heq => namesOf_c_ne_expected id id (List.append_cancel_left heq)
  have hheld : ∀ names, names ≠ namesOf id "c" → names ≠ namesOf id "expected" →
      later.held? (base ++ names) = files.held? (base ++ names) := by
    intro names hneSource hneExpected
    rw [hheldLater, if_neg, hheldSourced, if_neg, hheldMade]
    · exact fun heq => hneSource (List.append_cancel_left heq)
    · exact fun heq => hneExpected (List.append_cancel_left heq)
  refine ⟨hplain, fun other text hget => ?_, fun other text hget => ?_, fun other text hget => ?_,
    fun names content hcontent => ?_⟩
  case refine_4 =>
    by_cases hneSource : names = namesOf id "c"
    · exact ⟨id, line, by rw [SortedMap.get?_insert, if_pos rfl], .inl hneSource⟩
    · by_cases hneExpected : names = namesOf id "expected"
      · exact ⟨id, line, by rw [SortedMap.get?_insert, if_pos rfl], .inr hneExpected⟩
      · rw [hheld names hneSource hneExpected] at hcontent
        obtain ⟨other, text, hget, hnames⟩ := hstocked.only names content hcontent
        have hne : other ≠ id := by
          rintro rfl
          exact hnames.elim hneSource hneExpected
        exact ⟨other, text, by rwa [SortedMap.get?_insert, if_neg hne], hnames⟩
  all_goals
    rw [SortedMap.get?_insert] at hget
    split at hget
  case refine_1.isTrue heq => exact heq ▸ ⟨hid, hnul⟩
  case refine_1.isFalse => exact hstocked.isId other text hget
  case refine_2.isTrue heq =>
    cases hget
    rw [heq, hheldSource]
  case refine_2.isFalse hne =>
    rw [hheld _ (fun heq => hne (namesOf_inj heq)) (namesOf_c_ne_expected _ _)]
    exact hstocked.source other text hget
  case refine_3.isTrue heq =>
    cases hget
    rw [heq, hheldExpected]
  case refine_3.isFalse hne =>
    rw [hheld _ (fun heq => namesOf_c_ne_expected _ _ heq.symm) fun heq => hne (namesOf_inj heq)]
    exact hstocked.expected other text hget

/-- A tree that was just made in an empty directory has no test programs. -/
theorem stocked_create {fresh : FileSystem} {place : Location} (horderly : files.Orderly)
    (hgrounded : files.Grounded) (hempty : files.list tree.root = .ok (place, []))
    (hfresh : tree.create files = .ok fresh) :
    tree.Stocked (place ++ [Utf8.encode "fixtures"]) .empty fresh := by
  obtain ⟨hplain, hnone⟩ := FileSystem.plain_of_list horderly hgrounded hempty
  obtain ⟨built, hbuild, hfixtures⟩ := Except.bind_eq_ok.1 hfresh
  obtain ⟨hplainBuilt, -, hheldBuilt⟩ := hplain.withDirs_join (by decide) hbuild
  obtain ⟨-, hplainFresh, hheldFresh⟩ := hplainBuilt.withDirs_join (by decide) hfixtures
  refine ⟨hplainFresh, nofun, nofun, nofun, fun names content hcontent => ?_⟩
  rw [hheldFresh, hheldBuilt, List.append_assoc, hnone] at hcontent
  cases hcontent

/-- Adds test programs one after the other, each with the line that it prints. -/
def addFixtures (tree : BuildTree) (files : FileSystem) (adds : List (String × String)) :
    Except IoError FileSystem :=
  adds.foldlM (fun files add => tree.addFixture files add.1 add.2) files

theorem Stocked.addFixtures {adds : List (String × String)}
    (hstocked : tree.Stocked base lines files) (hids : ∀ add ∈ adds, IsId add.1)
    (hadded : tree.addFixtures files adds = .ok later) :
    tree.Stocked base (adds.foldl (fun lines add => lines.insert add.1 add.2) lines) later := by
  induction adds generalizing files lines with
  | nil =>
    cases hadded
    exact hstocked
  | cons add rest ih =>
    obtain ⟨hid, hrest⟩ := List.forall_mem_cons.1 hids
    rw [BuildTree.addFixtures, List.foldlM_cons] at hadded
    obtain ⟨made, hmade, hlater⟩ := Except.bind_eq_ok.1 hadded
    exact ih (hstocked.addFixture hid hmade) hrest hlater

/-- What is to be found of a test program that prints a line. -/
def fixtureOf (tree : BuildTree) (add : String × String) : Fixture where
  id := ⟨add.1⟩
  source := tree.sourcePath add.1
  expected := Utf8.encode (add.2 ++ "\n")

theorem pairwise_fixtureOf : (lines.entries.map tree.fixtureOf).Pairwise fun a b =>
    (compare a.id b.id).isLE = true := by
  rw [List.pairwise_map]
  refine lines.ascending.imp fun {a b} hlt => ?_
  have hcompare : compare (tree.fixtureOf a).id (tree.fixtureOf b).id = compare a.1 b.1 := rfl
  rw [hcompare, hlt]
  rfl

theorem nodup_fixtureOf : (lines.entries.map tree.fixtureOf).Nodup := by
  rw [List.Nodup, List.pairwise_map]
  refine lines.ascending.imp fun {a b} hlt => ?_
  rintro heq
  exact SortedMap.ne_of_compare_lt hlt (congrArg (fun fixture : Fixture => fixture.id.text) heq)

/-- Two fixtures with one id are the same, so that the order of ids leaves no choice. -/
theorem eq_of_id_eq {a b : Fixture} (ha : a ∈ lines.entries.map tree.fixtureOf)
    (hb : b ∈ lines.entries.map tree.fixtureOf) (heq : a.id = b.id) : a = b := by
  obtain ⟨⟨first, line⟩, hfirst, rfl⟩ := List.mem_map.1 ha
  obtain ⟨⟨second, other⟩, hsecond, rfl⟩ := List.mem_map.1 hb
  cases heq
  rw [← SortedMap.get?_eq_some_iff] at hfirst hsecond
  cases hfirst.symm.trans hsecond
  rfl

namespace Stocked

variable (hstocked : tree.Stocked base lines files)
include hstocked

theorem readable : Catalog.Readable files tree.fixturesDir base :=
  ⟨hstocked.plain.stat_eq, fun _ hnode =>
    ⟨_, FileSystem.list_eq_ok_iff.2 ⟨hstocked.plain.stat_below hnode, rfl⟩⟩⟩

/-- The sources that are there are those of the test programs. -/
theorem isSource_iff {names : List Bytes} :
    Catalog.IsSource files tree.fixturesDir base {} names ↔
      ∃ id line, lines.get? id = some line ∧ names = namesOf id "c" := by
  have hdirectory := hstocked.plain.bytes_ne_nil
  rw [Catalog.IsSource, hstocked.plain.isLeaf_iff]
  constructor
  · rintro ⟨⟨content, hheld⟩, hextension⟩
    obtain ⟨id, line, hget, rfl | rfl⟩ := hstocked.only names content hheld
    · exact ⟨id, line, hget, rfl⟩
    · obtain ⟨hid, hnul⟩ := hstocked.isId id line hget
      have hexpected := extension?_namesOf hid hnul isExtension_expected hdirectory
      exact absurd (Option.some.inj (hextension.symm.trans hexpected)) (by decide)
  · rintro ⟨id, line, hget, rfl⟩
    obtain ⟨hid, hnul⟩ := hstocked.isId id line hget
    exact ⟨⟨_, hstocked.source id line hget⟩, extension?_namesOf hid hnul isExtension_c hdirectory⟩

/-- Beside each source there is what is expected of it. -/
theorem stat_expectation (hget : lines.get? id = some line) : ∃ place mode,
    files.stat (Catalog.expectation {} (Catalog.sourceAt tree.fixturesDir (namesOf id "c"))) =
      .ok (place, .file (Utf8.encode (line ++ "\n")) mode) := by
  obtain ⟨hid, hnul⟩ := hstocked.isId id line hget
  obtain ⟨mode, hnode⟩ := FileSystem.held?_eq_some_iff.1 (hstocked.expected id line hget)
  have hexpectation : Catalog.expectation {} (Catalog.sourceAt tree.fixturesDir (namesOf id "c")) =
      tree.fixturesDir.below (namesOf id "expected") :=
    withExtension_namesOf hid hnul isExtension_c hstocked.plain.bytes_ne_nil isExtension_expected
  rw [hexpectation]
  exact ⟨_, mode, hstocked.plain.stat_below hnode⟩

/-- The fixture of each test program is what the search makes of its source. -/
theorem fixtureOf_eq (hget : lines.get? id = some line) : tree.fixtureOf (id, line) =
    ⟨Catalog.idOf (Catalog.sourceAt tree.fixturesDir (namesOf id "c")),
      (Catalog.sourceAt tree.fixturesDir (namesOf id "c")).path, Utf8.encode (line ++ "\n")⟩ := by
  obtain ⟨hid, hnul⟩ := hstocked.isId id line hget
  rw [idOf_namesOf hid hnul isExtension_c, fixtureOf,
    sourcePath_eq hstocked.plain.bytes_ne_nil hid hnul]
  rfl

theorem mem_fixtures_iff {catalog : Catalog}
    (hcovers : Catalog.Covers files tree.fixturesDir base {} catalog) (fixture : Fixture) :
    fixture ∈ catalog.fixtures ↔ fixture ∈ lines.entries.map tree.fixtureOf := by
  simp only [hcovers.mem_fixtures_iff, hstocked.isSource_iff, List.mem_map, Prod.exists,
    ← SortedMap.get?_eq_some_iff]
  constructor
  · rintro ⟨_, ⟨id, line, hget, rfl⟩, target, expected, mode, hstat, rfl⟩
    obtain ⟨place, other, hexpectation⟩ := hstocked.stat_expectation hget
    cases hexpectation.symm.trans hstat
    exact ⟨id, line, hget, hstocked.fixtureOf_eq hget⟩
  · rintro ⟨id, line, hget, rfl⟩
    obtain ⟨place, mode, hexpectation⟩ := hstocked.stat_expectation hget
    exact ⟨_, ⟨id, line, hget, rfl⟩, place, _, mode, hexpectation, hstocked.fixtureOf_eq hget⟩

theorem fixtures_eq {catalog : Catalog}
    (hcovers : Catalog.Covers files tree.fixturesDir base {} catalog) :
    catalog.fixtures = lines.entries.map tree.fixtureOf := by
  have hmem := hstocked.mem_fixtures_iff hcovers
  have hnodup : catalog.fixtures.Nodup := (List.nodup_append.1 hcovers.nodup).1.of_map _
  refine List.Perm.eq_of_pairwise (fun a b ha hb hab hba => ?_) hcovers.pairwise_fixtures
    pairwise_fixtureOf ((List.perm_ext_iff_of_nodup hnodup nodup_fixtureOf).2 hmem)
  refine eq_of_id_eq ((hmem a).1 ha) hb ?_
  exact Std.LawfulEqOrd.eq_of_compare (Std.OrientedCmp.isLE_antisymm hab hba)

theorem orphans_eq {catalog : Catalog}
    (hcovers : Catalog.Covers files tree.fixturesDir base {} catalog) : catalog.orphans = [] := by
  refine List.eq_nil_iff_forall_not_mem.2 fun path hmem => ?_
  obtain ⟨names, hsource, hmissing, -⟩ := (hcovers.mem_orphans_iff path).1 hmem
  obtain ⟨id, line, hget, rfl⟩ := hstocked.isSource_iff.1 hsource
  obtain ⟨place, mode, hexpectation⟩ := hstocked.stat_expectation hget
  rw [FileSystem.isFile, hexpectation] at hmissing
  cases hmissing

/-- What is found in a tree are its test programs, unless it has none. -/
theorem discover_eq : Catalog.discover files tree.fixturesDir {} =
    if lines.entries = [] then .error (.noFixtures tree.fixturesDir)
    else .ok ⟨lines.entries.map tree.fixtureOf, []⟩ := by
  have horderly := hstocked.plain.orderly
  have hgrounded := hstocked.plain.grounded
  rcases Catalog.discover_cases horderly hgrounded hstocked.readable {} with
    ⟨hnone, hmissing⟩ | ⟨catalog, hcatalog, names, hsource, -⟩
  · rw [hnone, if_pos]
    refine List.eq_nil_iff_forall_not_mem.2 ?_
    rintro ⟨id, line⟩ hmem
    have hget := SortedMap.get?_eq_some_iff.2 hmem
    obtain ⟨place, mode, hexpectation⟩ := hstocked.stat_expectation hget
    have hfile := hmissing _ (hstocked.isSource_iff.2 ⟨id, line, hget, rfl⟩)
    rw [FileSystem.isFile, hexpectation] at hfile
    cases hfile
  · have hcovers := Catalog.covers_of_discover horderly hgrounded hstocked.readable hcatalog
    obtain ⟨id, line, hget, -⟩ := hstocked.isSource_iff.1 hsource
    rw [hcatalog, if_neg, ← hstocked.fixtures_eq hcovers, ← hstocked.orphans_eq hcovers]
    exact List.ne_nil_of_mem (SortedMap.get?_eq_some_iff.1 hget)

end Stocked

theorem entries_ofList_eq_nil_iff {adds : List (String × String)} :
    (SortedMap.ofList adds).entries = [] ↔ adds = [] := by
  refine ⟨fun hnil => ?_, fun hnil => by rw [hnil]; rfl⟩
  cases hadds : adds.reverse with
  | nil => exact List.reverse_eq_nil_iff.1 hadds
  | cons add rest =>
    have hget := SortedMap.get?_ofList adds add.1
    rw [SortedMap.get?, hnil, hadds, List.lookup_cons, beq_self_eq_true] at hget
    cases hget

/-- Whatever is added to a tree that was just made in an empty directory is found there, each test
    program once and as it was added last, and nothing else is. -/
theorem discover_addFixtures (tree : BuildTree) {files fresh later : FileSystem} {place : Location}
    {adds : List (String × String)} (horderly : files.Orderly) (hgrounded : files.Grounded)
    (hempty : files.list tree.root = .ok (place, [])) (hfresh : tree.create files = .ok fresh)
    (hids : ∀ add ∈ adds, IsId add.1) (hadded : tree.addFixtures fresh adds = .ok later) :
    Catalog.discover later tree.fixturesDir {} =
      if adds = [] then .error (.noFixtures tree.fixturesDir)
      else .ok ⟨(SortedMap.ofList adds).entries.map tree.fixtureOf, []⟩ := by
  have hstocked := (stocked_create horderly hgrounded hempty hfresh).addFixtures hids hadded
  rw [hstocked.discover_eq, ← SortedMap.ofList]
  simp only [entries_ofList_eq_nil_iff]

/-- An empty directory to make a tree in. -/
def emptyRoot : FileSystem where
  nodes := [([Utf8.encode "t"], .dir)]

theorem orderly_emptyRoot : emptyRoot.Orderly := ⟨by decide, by decide⟩

theorem grounded_emptyRoot : emptyRoot.Grounded := FileSystem.grounded_of_nodes (by decide) rfl

/-- Dots at every place of an id, and an id that is added twice. -/
def dottedAdds : List (String × String) :=
  [("b", "1"), ("a.c/.d.", "2"), ("b", "3"), (".../b.expected", "4")]

theorem discover_addFixtures_dotted : ∃ fresh later,
    emptyRoot.Orderly ∧ emptyRoot.Grounded ∧
      emptyRoot.list (.ofText "/t") = .ok ([Utf8.encode "t"], []) ∧
      BuildTree.create ⟨.ofText "/t"⟩ emptyRoot = .ok fresh ∧
      (∀ add ∈ dottedAdds, IsId add.1) ∧
      BuildTree.addFixtures ⟨.ofText "/t"⟩ fresh dottedAdds = .ok later ∧
      Catalog.discover later (BuildTree.fixturesDir ⟨.ofText "/t"⟩) {} =
        .ok ⟨[(".../b.expected", "4"), ("a.c/.d.", "2"), ("b", "3")].map
          (fixtureOf ⟨.ofText "/t"⟩), []⟩ := by
  have hempty : emptyRoot.list (.ofText "/t") = .ok ([Utf8.encode "t"], []) := by rfl
  have hids : ∀ add ∈ dottedAdds, IsId add.1 := by decide
  obtain ⟨later, hrun⟩ : ∃ later, (do
      let fresh ← BuildTree.create ⟨.ofText "/t"⟩ emptyRoot
      BuildTree.addFixtures ⟨.ofText "/t"⟩ fresh dottedAdds) = .ok later := ⟨_, rfl⟩
  obtain ⟨fresh, hfresh, hlater⟩ := Except.bind_eq_ok.1 hrun
  have hlast : (SortedMap.ofList dottedAdds).entries =
      [(".../b.expected", "4"), ("a.c/.d.", "2"), ("b", "3")] := by decide +kernel
  refine ⟨fresh, later, orderly_emptyRoot, grounded_emptyRoot, hempty, hfresh, hids, hlater, ?_⟩
  rw [← hlast]
  exact discover_addFixtures _ orderly_emptyRoot grounded_emptyRoot hempty hfresh hids hlater

/-- A tree to which nothing is added is refused, and not found to be empty. -/
theorem discover_bare : ∃ fresh,
    emptyRoot.list (.ofText "/t") = .ok ([Utf8.encode "t"], []) ∧
      BuildTree.create ⟨.ofText "/t"⟩ emptyRoot = .ok fresh ∧
      BuildTree.addFixtures ⟨.ofText "/t"⟩ fresh [] = .ok fresh ∧
      Catalog.discover fresh (BuildTree.fixturesDir ⟨.ofText "/t"⟩) {} =
        .error (.noFixtures (BuildTree.fixturesDir ⟨.ofText "/t"⟩)) := by
  have hempty : emptyRoot.list (.ofText "/t") = .ok ([Utf8.encode "t"], []) := by rfl
  obtain ⟨fresh, hfresh⟩ : ∃ fresh, BuildTree.create ⟨.ofText "/t"⟩ emptyRoot = .ok fresh :=
    ⟨_, rfl⟩
  have hstocked := stocked_create orderly_emptyRoot grounded_emptyRoot hempty hfresh
  exact ⟨fresh, hempty, hfresh, rfl, hstocked.discover_eq⟩

end BuildTree

end BootChain.SystemTest
