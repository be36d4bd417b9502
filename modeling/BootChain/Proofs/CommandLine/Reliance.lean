import BootChain.CommandLine.Run
import BootChain.Proofs.Catalog
import BootChain.Proofs.Chain.Probe
import BootChain.Proofs.Config.Validity
import BootChain.Proofs.Path.FileName

namespace BootChain

namespace Config

variable {config : Config} {name : String}

theorem IsFileName.toList_ne_nil (hname : IsFileName name) : name.toList ≠ [] := by
  intro hnil
  have hblank := hname.not_blank
  rw [Text.isBlankText, hnil] at hblank
  cases hblank

/-- A file name leads one step further in any directory. -/
theorem IsFileName.isStep (hname : IsFileName name) : Path.IsStep (Utf8.encode name) :=
  Path.isStep_encode hname.slash_notMem hname.toList_ne_nil hname.ne_dot hname.ne_dots

/-- The settings for trials are those of the config, with the words of its templates. -/
theorem settings_eq_of_valid (hvalid : config.Valid) : config.settings = .ok
    { toolchain := .ofText config.toolchain.program
      compileArgs := ⟨config.compilerArgs⟩, linkArgs := ⟨config.toolchain.args⟩
      artifactDir := config.artifactDir, limitMs := config.execution.limitSec * 1000
      keepArtifacts := config.build.keepArtifacts } := by
  have hcompile : config.compileTemplate = .ok ⟨config.compilerArgs⟩ :=
    template_eq_ok_iff.2 ⟨rfl, hvalid.compilerArgs⟩
  have hlink : config.linkTemplate = .ok ⟨config.toolchain.args⟩ :=
    template_eq_ok_iff.2 ⟨rfl, hvalid.linkArgs⟩
  rw [settings, hcompile, hlink]
  rfl

end Config

namespace Catalog

variable {files : FileSystem} {directory : Path} {layout : FixtureLayout} {found : List Source}
  {source other : Source}

theorem extension?_of_mem_sources (hsources : sources files directory layout = .ok found)
    (hmem : source ∈ found) : source.path.extension? = some (Utf8.encode layout.source) := by
  obtain ⟨leaves, -, hfound⟩ := Except.bind_eq_ok.1 hsources
  cases hfound
  obtain ⟨names, -, hextension, rfl⟩ := mem_sorted_iff.1 hmem
  exact hextension

/-- Where an expected output is looked for, there is no source: the extensions are distinct. -/
theorem components_expectation_ne (hexpected : Config.IsExtension layout.expected)
    (hne : layout.source ≠ layout.expected)
    (hother : other.path.extension? = some (Utf8.encode layout.source)) :
    (expectation layout source).components ≠ other.path.components :=
  Path.components_withExtension_ne (Path.slash_notMem_encode hexpected.slash_notMem)
    (Path.dot_notMem_encode hexpected.dot_notMem) (Path.encode_ne_nil hexpected.toList_ne_nil)
    source.path hother fun heq => hne (Utf8.encode_inj.1 heq).symm

end Catalog

namespace CommandLine

variable {config : Config} {files : FileSystem}

theorem eventLog?_eq_of_valid (hvalid : config.Valid) : eventLog? config.events =
    .ok (if config.events.sink = .file then config.events.path else none) := by
  have hsink := hvalid.sink
  unfold eventLog?
  split
  next hfile hnone =>
    rw [hnone] at hsink
    cases hsink hfile
  next hfile hsome => rw [if_pos hfile, hsome]
  next hnone hsome =>
    rw [if_neg]
    intro hfile
    obtain ⟨path, hpath⟩ := Option.isSome_iff_exists.1 (hsink hfile)
    exact hsome path hfile hpath

theorem isChild_of_mem_probedChain (hvalid : config.Valid) {entry : Generation × Slot}
    (hentry : entry ∈ (probedChain config files).toList) :
    entry.2.path.IsChild config.build.directory
      (Utf8.encode (Chain.binaryName config.build.baseName entry.1)) := by
  rw [Chain.eq_slotAt_of_mem_probe hentry, Chain.path_slotAt, Chain.expectedPath_eq]
  exact Path.isChild_join_step _
    (Chain.isStep_binaryName hvalid.baseName.slash_notMem hvalid.baseName.isStep)

/-- The compilers of two generations are never looked for in one place. -/
theorem pairwise_probedChain (hvalid : config.Valid) :
    (probedChain config files).toList.Pairwise fun a b =>
      a.2.path.components ≠ b.2.path.components := by
  refine (probedChain config files).slots.ascending.imp_of_mem ?_
  intro a b ha hb hlt heq
  rw [(isChild_of_mem_probedChain hvalid ha).components_eq,
    (isChild_of_mem_probedChain hvalid hb).components_eq, List.append_cancel_left_eq] at heq
  have hname := Chain.binaryName_inj.1
    (Utf8.encode_inj.1 (Path.Component.name.inj (List.cons.inj heq).1))
  exact SortedMap.ne_of_compare_lt hlt hname

/-- What a run relies on in its config. -/
structure Reliable (config : Config) : Prop where
  /-- Trials get the words of both templates as they are, and a time limit of a second to a day. -/
  settings : ∃ settings, config.settings = .ok settings ∧
    settings.compileArgs.words = config.compilerArgs ∧
      settings.linkArgs.words = config.toolchain.args ∧
        settings.limitMs = config.execution.limitSec * 1000 ∧
          1 * 1000 ≤ settings.limitMs ∧ settings.limitMs ≤ 86400 * 1000
  /-- There is a path for the events wherever they go to a file. -/
  log : eventLog? config.events =
      .ok (if config.events.sink = .file then config.events.path else none) ∧
    (config.events.sink = .file → config.events.path.isSome = true)
  /-- A probe gives each generation from the first up to the last one a slot. -/
  generations : ∀ files,
    (probedChain config files).toList.map (fun entry => entry.1.number) =
      List.range' 1 config.build.maxGeneration
  generations_le : config.build.maxGeneration ≤ 64
  /-- Compilers are looked for in the build directory itself, each in another place. -/
  child : ∀ files, ∀ entry ∈ (probedChain config files).toList,
    ∃ name, entry.2.path.IsChild config.build.directory name
  apart : ∀ files, (probedChain config files).toList.Pairwise fun a b =>
    a.2.path.components ≠ b.2.path.components
  /-- No expected output is in the place of a path with the extension of sources. -/
  expectation_ne : ∀ source other : Catalog.Source,
    other.path.extension? = some (Utf8.encode config.fixtures.layout.source) →
      (Catalog.expectation config.fixtures.layout source).components ≠ other.path.components
  uncollected : ∀ files found,
    Catalog.sources files config.fixtures.directory config.fixtures.layout = .ok found →
      ∀ source, ∀ other ∈ found,
        (Catalog.expectation config.fixtures.layout source).components ≠ other.path.components

/-- A config without a problem can be relied on. -/
theorem reliable_of_check (hcheck : config.check = .ok ()) : Reliable config := by
  have hvalid := Config.check_eq_ok_iff.1 hcheck
  obtain ⟨hpos, hlimit⟩ := hvalid.limitSec
  have hlast : config.build.maxGeneration ≤ 64 := hvalid.maxGeneration.2
  refine
    { settings := ⟨_, Config.settings_eq_of_valid hvalid, rfl, rfl, rfl,
        Nat.mul_le_mul_right 1000 hpos, Nat.mul_le_mul_right 1000 hlimit⟩
      log := ⟨eventLog?_eq_of_valid hvalid, hvalid.sink⟩
      generations := fun files => ?_
      generations_le := hlast
      child := fun files entry hentry => ⟨_, isChild_of_mem_probedChain hvalid hentry⟩
      apart := fun files => pairwise_probedChain hvalid
      expectation_ne := fun source other hother =>
        Catalog.components_expectation_ne hvalid.expected hvalid.extensions_ne hother
      uncollected := fun files found hfound source other hmem =>
        Catalog.components_expectation_ne hvalid.expected hvalid.extensions_ne
          (Catalog.extension?_of_mem_sources hfound hmem) }
  have hkeys : (probedChain config files).toList.map Prod.fst =
    Chain.generationsUpTo config.build.maxGeneration := Chain.keys_probe
  rw [← Chain.map_number_generationsUpTo (by omega), ← hkeys, List.map_map]
  rfl

/-- The compilers are in the root directory, under a name of dots and a NUL, with as many of them as
    there may be; one extension begins with the other one. -/
def extreme : Config where
  build := { directory := .ofText "/", baseName := "...\x00", maxGeneration := 64 }
  fixtures := { layout := { source := "out", expected := "outer" } }
  execution := { limitSec := 86400, jobs := 256 }
  events := { sink := .file, path := some (.ofText "events") }

theorem reliable_of_check_extreme : extreme.check = .ok () ∧ Reliable extreme := by
  have hcheck : extreme.check = .ok () := by decide +kernel
  exact ⟨hcheck, reliable_of_check hcheck⟩

end CommandLine

end BootChain
