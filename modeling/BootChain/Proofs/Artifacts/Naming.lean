import BootChain.Proofs.Artifacts
import BootChain.Proofs.Path.Child
import BootChain.Proofs.Text.Utf8.RoundTrip
import Mathlib.Data.List.Nodup

namespace BootChain.Artifacts

variable {g h : Generation} {id other : FixtureId} {root : Path}

theorem length_digest (message : Bytes) : (Sha256.digest message).length = 32 := by
  simp [Sha256.digest, Sha256.octets]

theorem length_hex (bytes : Bytes) : (Sha256.hex bytes).toList.length = 2 * bytes.length := by
  rw [Sha256.hex, String.toList_ofList, List.length_flatMap]
  induction bytes with
  | nil => rfl
  | cons b rest ih =>
    simp only [List.map_cons, List.sum_cons, List.length_cons, List.length_nil] at ih ⊢
    omega

/-- Each octet has two digits. -/
theorem toList_hex_take (bytes : Bytes) (count : Nat) :
    (Sha256.hex (bytes.take count)).toList = (Sha256.hex bytes).toList.take (2 * count) := by
  simp only [Sha256.hex, String.toList_ofList]
  induction bytes generalizing count with
  | nil => simp
  | cons b rest ih =>
    cases count with
    | zero => rfl
    | succ count => simp [Nat.mul_succ, ih]

/-- The whole digest of an id. -/
def hexDigest (id : FixtureId) : String := Sha256.hex (Sha256.digest (Utf8.encode id.text))

theorem toList_tag (id : FixtureId) : (tag id).toList = (hexDigest id).toList.take 8 :=
  toList_hex_take _ 4

theorem tag_inj : tag id = tag other ↔
    (hexDigest id).toList.take 8 = (hexDigest other).toList.take 8 := by
  rw [← toList_tag, ← toList_tag, String.toList_inj]

/-- A tag is always eight digits long. -/
theorem length_tag (id : FixtureId) : (tag id).toList.length = 8 := by
  rw [tag, length_hex, List.length_take, length_digest]
  rfl

theorem dot_notMem_of_plain {chars : List Char} (hplain : ∀ c ∈ chars, isPlain c = true) :
    '.' ∉ chars :=
  fun hmem => absurd (hplain _ hmem) (by decide)

/-- What stands before the dot of a stem. -/
theorem toList_stem (g : Generation) (id : FixtureId) : (stem g id).toList =
    ((plainName id).toList ++ '-' :: (tag id).toList) ++ '.' :: g.label.toList := by
  simp [stem, String.toList_append]

theorem dot_notMem_name_tag (id : FixtureId) :
    '.' ∉ (plainName id).toList ++ '-' :: (tag id).toList := by
  refine dot_notMem_of_plain fun c hmem => ?_
  rw [List.mem_append, List.mem_cons] at hmem
  rcases hmem with hmem | rfl | hmem
  · exact isPlain_of_mem_plainName hmem
  · rfl
  · exact isPlain_of_mem_tag hmem

/-- A stem tells the generation, the plain name and the tag that it is made of. -/
theorem stem_inj : stem g id = stem h other ↔
    g = h ∧ plainName id = plainName other ∧ tag id = tag other := by
  constructor
  · intro heq
    have hchars := congrArg String.toList heq
    rw [toList_stem, toList_stem, List.append_cons_inj_of_notMem] at hchars
    · obtain ⟨hstart, -, hlabel⟩ := hchars
      -- Tags have one length, so the dash before the tag is at one place, dashes in names or not.
      obtain ⟨hname, htag⟩ := List.append_inj' hstart (by
        rw [List.length_cons, List.length_cons, length_tag, length_tag])
      refine ⟨?_, String.toList_inj.1 hname, String.toList_inj.1 (List.cons.inj htag).2⟩
      exact Generation.eq_of_label_append (c := '.') (d := '.') rfl rfl
        (congrArg (· ++ ['.']) hlabel)
    · exact dot_notMem_name_tag id
    · exact dot_notMem_of_plain fun _ => isPlain_of_mem_label
  · rintro ⟨rfl, hname, htag⟩
    rw [stem, stem, hname, htag]

theorem object_ne_executable (a b : String) : a ++ ".o" ≠ b ++ ".exe" := by
  intro heq
  have hlast := congrArg (fun text => text.toList.getLast?) heq
  simp [String.toList_append] at hlast

theorem objectName_inj : Utf8.encode (stem g id ++ ".o") = Utf8.encode (stem h other ++ ".o") ↔
    stem g id = stem h other := by
  rw [Utf8.encode_inj, String.append_left_inj]

theorem executableName_inj :
    Utf8.encode (stem g id ++ ".exe") = Utf8.encode (stem h other ++ ".exe") ↔
      stem g id = stem h other := by
  rw [Utf8.encode_inj, String.append_left_inj]

theorem nodup_fileNames_append : (fileNames g id ++ fileNames h other).Nodup ↔
    stem g id ≠ stem h other := by
  have hcross : ∀ a b : String, Utf8.encode (a ++ ".o") ≠ Utf8.encode (b ++ ".exe") :=
    fun a b heq => object_ne_executable a b (Utf8.encode_inj.1 heq)
  simp only [fileNames, List.cons_append, List.nil_append, List.nodup_cons, List.mem_cons,
    List.not_mem_nil, or_false, not_or, objectName_inj, executableName_inj, hcross,
    (hcross _ _).symm, ne_eq, not_false_eq_true, true_and, and_true, List.nodup_nil, and_self]

/-- The four artifact paths of two pairs are pairwise different just if the pairs differ in the
    generation, in the plain name of the fixture or in its tag. -/
theorem nodup_paths_iff (root : Path) (g h : Generation) (id other : FixtureId) :
    ((under root g id).paths ++ (under root h other).paths).Nodup ↔
      g ≠ h ∨ plainName id ≠ plainName other ∨ tag id ≠ tag other := by
  have hinj : ∀ a ∈ fileNames g id ++ fileNames h other,
      ∀ b ∈ fileNames g id ++ fileNames h other,
        root.join ⟨a⟩ = root.join ⟨b⟩ → a = b := by
    intro a ha b hb heq
    have hname : ∀ name ∈ fileNames g id ++ fileNames h other, Path.IsName name := by
      intro name hmem
      rcases List.mem_append.1 hmem with hmem | hmem <;> exact isName_of_mem_fileNames hmem
    exact (Path.join_inj (hname a ha) (hname b hb)).1 heq
  have hmap : ((fileNames g id ++ fileNames h other).map fun name => root.join ⟨name⟩).Nodup ↔
      (fileNames g id ++ fileNames h other).Nodup :=
    ⟨List.Nodup.of_map _, List.Nodup.map_on hinj⟩
  rw [paths_under, paths_under, ← List.map_append, hmap, nodup_fileNames_append, ne_eq, stem_inj,
    not_and_or, not_and_or]

/-- Two ids with one plain name and one tag: every place where they differ becomes an underscore,
    and the first thirty-two bits of their digests agree. -/
theorem under_eq_of_collision :
    (⟨"a_b_c/d.e.f_g/h/i_j.k/l"⟩ : FixtureId) ≠ ⟨"a/b_c/d_e.f/g.h/i_j/k.l"⟩ ∧
      ∀ (root : Path) (g : Generation), under root g ⟨"a_b_c/d.e.f_g/h/i_j.k/l"⟩ =
        under root g ⟨"a/b_c/d_e.f/g.h/i_j/k.l"⟩ := by
  refine ⟨by decide, fun root g => ?_⟩
  have hstem : stem g ⟨"a_b_c/d.e.f_g/h/i_j.k/l"⟩ = stem g ⟨"a/b_c/d_e.f/g.h/i_j/k.l"⟩ :=
    stem_inj.2 ⟨rfl, by decide +kernel, by decide +kernel⟩
  rw [under, under, hstem]

/-- The two kinds of artifacts. -/
inductive Kind where
  | object
  | executable
  deriving DecidableEq

/-- The artifact of a kind. -/
def file (artifacts : Artifacts) : Kind → Path
  | .object => artifacts.object
  | .executable => artifacts.executable

def Kind.suffix : Kind → String
  | object => ".o"
  | executable => ".exe"

/-- The name of an artifact in its directory. -/
def Kind.fileName (kind : Kind) (generation : Generation) (id : FixtureId) : String :=
  stem generation id ++ kind.suffix

variable {kind sort : Kind}

theorem file_under (root : Path) (g : Generation) (id : FixtureId) (kind : Kind) :
    (under root g id).file kind = root.join ⟨Utf8.encode (kind.fileName g id)⟩ := by
  cases kind <;> rfl

theorem isName_fileName (kind : Kind) (g : Generation) (id : FixtureId) :
    Path.IsName (Utf8.encode (kind.fileName g id)) := by
  have hmem : Utf8.encode (kind.fileName g id) ∈ fileNames g id := by
    cases kind with
    | object => exact List.mem_cons_self
    | executable => exact List.mem_cons_of_mem _ List.mem_cons_self
  exact isName_of_mem_fileNames hmem

theorem isPlain_of_mem_fileName {c : Char} (hmem : c ∈ (kind.fileName g id).toList) :
    isPlain c = true ∨ c = '.' := by
  rw [Kind.fileName, String.toList_append, List.mem_append] at hmem
  rcases hmem with hstem | hsuffix
  · exact isPlain_of_mem_stem hstem
  · have hall : kind.suffix.toList.all (fun c => isPlain c || c = '.') = true := by
      cases kind <;> decide
    simpa using List.all_eq_true.1 hall c hsuffix

/-- A file name tells its kind and all that the stem is made of. -/
theorem fileName_inj : kind.fileName g id = sort.fileName h other ↔
    kind = sort ∧ g = h ∧ plainName id = plainName other ∧ tag id = tag other := by
  have hsame : ∀ kind : Kind, kind.fileName g id = kind.fileName h other ↔
      stem g id = stem h other := fun kind => String.append_left_inj _
  cases kind <;> cases sort
  · rw [hsame, stem_inj, and_iff_right rfl]
  · exact iff_of_false (object_ne_executable _ _) (by simp)
  · exact iff_of_false (object_ne_executable _ _).symm (by simp)
  · rw [hsame, stem_inj, and_iff_right rfl]

/-- Each artifact lies right in its directory, under a name of plain characters and dots. Two of them
    are one path, be it by their octets or by their components, just if they are of one kind and of
    one generation, and their ids have one plain name and digests that start with the same eight
    digits. -/
theorem file_under_apart (root : Path) (g h : Generation) (id other : FixtureId)
    (kind sort : Kind) :
    (∃ name : String, ((under root g id).file kind).IsChild root (Utf8.encode name) ∧
      ∀ c ∈ name.toList, isPlain c = true ∨ c = '.') ∧
    ((under root g id).file kind = (under root h other).file sort ↔
      kind = sort ∧ g = h ∧ plainName id = plainName other ∧
        (hexDigest id).toList.take 8 = (hexDigest other).toList.take 8) ∧
    (((under root g id).file kind).components = ((under root h other).file sort).components ↔
      (under root g id).file kind = (under root h other).file sort) := by
  have hname := isName_fileName kind g id
  have hother := isName_fileName sort h other
  have hchild := Path.isChild_join root hname
  have hsibling := Path.isChild_join root hother
  rw [file_under, file_under]
  refine ⟨⟨_, hchild, fun c => isPlain_of_mem_fileName⟩, ?_, ?_⟩
  · rw [Path.join_inj hname hother, Utf8.encode_inj, fileName_inj, tag_inj]
  · rw [hchild.components_eq, hsibling.components_eq, List.append_cancel_left_eq,
      Path.join_inj hname hother]
    simp

end BootChain.Artifacts
