import BootChain.Artifacts
import BootChain.Proofs.Chain
import BootChain.Proofs.Path
import BootChain.Proofs.Text.Utf8.RoundTrip

namespace BootChain.Artifacts

variable {generation : Generation} {id : FixtureId} {c : Char} {name : Bytes}

theorem isPlain_digitChar : ∀ n < 16, isPlain n.digitChar = true := by decide

theorem isPlain_of_mem_plainName (hmem : c ∈ (plainName id).toList) : isPlain c = true := by
  unfold plainName at hmem
  split at hmem
  · cases List.mem_singleton.1 hmem
    rfl
  · rw [String.toList_ofList, List.mem_map] at hmem
    obtain ⟨found, -, rfl⟩ := hmem
    split
    next hplain => exact hplain
    next => rfl

theorem isPlain_of_mem_tag (hmem : c ∈ (tag id).toList) : isPlain c = true := by
  rw [tag, Sha256.hex, String.toList_ofList, List.mem_flatMap] at hmem
  obtain ⟨b, -, hdigit⟩ := hmem
  have hb := b.toNat_lt
  rcases List.mem_cons.1 hdigit with rfl | hdigit
  · exact isPlain_digitChar _ (by omega)
  · cases List.mem_singleton.1 hdigit
    exact isPlain_digitChar _ (by omega)

theorem isPlain_of_mem_label (hmem : c ∈ generation.label.toList) : isPlain c = true := by
  rw [Generation.toList_label, List.mem_append] at hmem
  rcases hmem with hmem | hmem
  · have hstage : "stage".toList.all isPlain = true := by decide
    exact List.all_eq_true.1 hstage c hmem
  · have hdigit := Text.isDigit_of_mem_toDigits hmem
    rw [Char.isDigit, Bool.and_eq_true, decide_eq_true_iff, decide_eq_true_iff] at hdigit
    have hlow : '0' ≤ c := hdigit.1
    have hhigh : c ≤ '9' := hdigit.2
    simp [isPlain, hlow, hhigh]

/-- The stem of an artifact is made of plain characters and one dot. -/
theorem isPlain_of_mem_stem (hmem : c ∈ (stem generation id).toList) :
    isPlain c = true ∨ c = '.' := by
  simp only [stem, String.toList_append, List.mem_append] at hmem
  rcases hmem with (((hmem | hmem) | hmem) | hmem) | hmem
  · exact .inl (isPlain_of_mem_plainName hmem)
  · cases List.mem_singleton.1 hmem
    exact .inl rfl
  · exact .inl (isPlain_of_mem_tag hmem)
  · exact .inr (List.mem_singleton.1 hmem)
  · exact .inl (isPlain_of_mem_label hmem)

/-- The names of a pair's two artifacts in their directory. -/
def fileNames (generation : Generation) (id : FixtureId) : List Bytes :=
  [Utf8.encode (stem generation id ++ ".o"), Utf8.encode (stem generation id ++ ".exe")]

theorem mem_paths_iff {artifacts : Artifacts} {file : Path} :
    file ∈ artifacts.paths ↔ file = artifacts.object ∨ file = artifacts.executable := by
  rw [paths, List.mem_cons, List.mem_singleton]

theorem paths_under (directory : Path) (generation : Generation) (id : FixtureId) :
    (under directory generation id).paths =
      (fileNames generation id).map fun name => directory.join ⟨name⟩ := by
  simp only [paths, under, fileNames, Path.ofText, List.map_cons, List.map_nil]

/-- A stem with an extension is the name of a file, if the extension is made of plain characters
    and dots and does not end in a dot. -/
theorem isName_stem_append {extension : String} {last : UInt8}
    (hchars : extension.toList.all (fun c => isPlain c || c = '.') = true)
    (hend : (Utf8.encode extension).getLast? = some last) (hlast : last ≠ Path.dot) :
    Path.IsName (Utf8.encode (stem generation id ++ extension)) := by
  have hall : ∀ c ∈ (stem generation id ++ extension).toList, isPlain c = true ∨ c = '.' := by
    intro c hc
    rw [String.toList_append, List.mem_append] at hc
    rcases hc with hc | hc
    · exact isPlain_of_mem_stem hc
    · simpa using List.all_eq_true.1 hchars c hc
  have hlastOctet : (Utf8.encode (stem generation id ++ extension)).getLast? = some last := by
    rw [Utf8.encode_append, List.getLast?_append, hend]
    rfl
  generalize stem generation id ++ extension = text at hall hlastOctet
  refine ⟨fun hmem => ?_, fun hmem => ?_, ?_, ?_, ?_⟩
  · obtain ⟨c, hc, hslash⟩ := Utf8.exists_char_of_mem_encode hmem (by decide)
    have heq : c = '/' := Char.toNat_inj.1 hslash
    subst heq
    exact absurd (hall _ hc) (by decide)
  · obtain ⟨c, hc, hnul⟩ := Utf8.exists_char_of_mem_encode hmem (by decide)
    have heq : c = Char.ofNat 0 := Char.toNat_inj.1 hnul
    subst heq
    exact absurd (hall _ hc) (by decide)
  · rintro hempty
    simp [hempty] at hlastOctet
  · rintro hdot
    rw [hdot] at hlastOctet
    exact hlast (Option.some.inj hlastOctet).symm
  · rintro hdots
    rw [hdots] at hlastOctet
    exact hlast (Option.some.inj hlastOctet).symm

theorem isName_of_mem_fileNames (hmem : name ∈ fileNames generation id) : Path.IsName name := by
  simp only [fileNames, List.mem_cons, List.not_mem_nil, or_false] at hmem
  rcases hmem with hobject | hexecutable
  · rw [hobject]
    exact isName_stem_append (by decide) rfl (by decide)
  · rw [hexecutable]
    exact isName_stem_append (by decide) rfl (by decide)

end BootChain.Artifacts
