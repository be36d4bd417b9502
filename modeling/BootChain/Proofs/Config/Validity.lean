import BootChain.Config.Validity
import BootChain.Proofs.Except
import BootChain.Proofs.Template.Spelling

namespace BootChain.Config

variable {field name : String} {path : Path} {role : TemplateRole} {words : List String}
  {read : Template} {maximum n : Nat} {problem : ConfigProblem} {config found : Config}

theorem require_eq_ok_iff {condition : Bool} :
    require condition problem = .ok () ↔ condition = true := by
  cases condition <;> simp [require]

theorem require_eq_error_iff {condition : Bool} {found : ConfigProblem} :
    require condition problem = .error found ↔ condition = false ∧ problem = found := by
  cases condition <;> simp [require]

section Values

/-- A path that a setting may have. -/
structure IsPlace (path : Path) : Prop where
  not_blank : Text.isBlankText path.shown = false
  size_le : path.shown.utf8ByteSize ≤ maxPathLength
  length_le : ∀ component ∈ path.components, component.length ≤ maxNameLength

theorem checkPath_eq_ok_iff : checkPath field path = .ok () ↔ IsPlace path := by
  simp only [checkPath, Except.bind_eq_ok, Except.exists_unit, require_eq_ok_iff, Bool.not_eq_true',
    decide_eq_true_eq, List.all_eq_true]
  exact ⟨fun ⟨hblank, hsize, hlength⟩ => ⟨hblank, hsize, hlength⟩,
    fun ⟨hblank, hsize, hlength⟩ => ⟨hblank, hsize, hlength⟩⟩

/-- A text that one file in a directory can be called by. -/
structure IsFileName (name : String) : Prop where
  not_blank : Text.isBlankText name = false
  slash_notMem : '/' ∉ name.toList
  backslash_notMem : '\\' ∉ name.toList
  ne_dot : name.toList ≠ ['.']
  ne_dots : name.toList ≠ ['.', '.']
  size_le : name.utf8ByteSize ≤ maxNameLength

theorem checkFileName_eq_ok_iff : checkFileName field name = .ok () ↔ IsFileName name := by
  simp only [checkFileName, Except.bind_eq_ok, Except.exists_unit, require_eq_ok_iff, Bool.and_eq_true,
    Bool.not_eq_true', decide_eq_true_eq, List.contains_eq_mem, decide_eq_false_iff_not]
  exact ⟨fun ⟨hblank, ⟨⟨⟨hslash, hbackslash⟩, hdot⟩, hdots⟩, hsize⟩ =>
      ⟨hblank, hslash, hbackslash, hdot, hdots, hsize⟩,
    fun ⟨hblank, hslash, hbackslash, hdot, hdots, hsize⟩ =>
      ⟨hblank, ⟨⟨⟨hslash, hbackslash⟩, hdot⟩, hdots⟩, hsize⟩⟩

/-- A file name that is the extension of others: there is no dot in it. -/
structure IsExtension (name : String) : Prop extends IsFileName name where
  dot_notMem : '.' ∉ name.toList

theorem checkExtension_eq_ok_iff : checkExtension field name = .ok () ↔ IsExtension name := by
  simp only [checkExtension, Except.bind_eq_ok, Except.exists_unit, checkFileName_eq_ok_iff, require_eq_ok_iff,
    Bool.not_eq_true', List.contains_eq_mem, decide_eq_false_iff_not]
  exact ⟨fun ⟨hname, hdot⟩ => ⟨hname, hdot⟩, fun ⟨hname, hdot⟩ => ⟨hname, hdot⟩⟩

theorem checkRange_eq_ok_iff : checkRange field maximum n = .ok () ↔ 1 ≤ n ∧ n ≤ maximum := by
  simp only [checkRange, require_eq_ok_iff, Bool.and_eq_true, decide_eq_true_eq]

/-- Arguments that are a template for a role. -/
def IsTemplate (role : TemplateRole) (words : List String) : Prop :=
  words.length ≤ maxWords ∧ ∃ read, Template.ofWords role words = .ok read

/-- A template is read as the words that it is given. -/
theorem template_eq_ok_iff :
    template field role words = .ok read ↔ read = ⟨words⟩ ∧ IsTemplate role words := by
  simp only [template, Except.bind_eq_ok, Except.exists_unit, require_eq_ok_iff, decide_eq_true_eq, IsTemplate]
  constructor
  · rintro ⟨hlength, hread⟩
    split at hread
    next other hother =>
      cases hread
      exact ⟨(Template.ofWords_eq_ok_iff.1 hother).1.symm, hlength, _, hother⟩
    next => cases hread
  · rintro ⟨rfl, hlength, other, hother⟩
    obtain ⟨rfl, -⟩ := Template.ofWords_eq_ok_iff.1 hother
    exact ⟨hlength, by rw [hother]; rfl⟩

end Values

section Configs

/-- What the check of a config asks of it. -/
structure Valid (config : Config) : Prop where
  directory : IsPlace config.build.directory
  artifactDir : ∀ path, config.build.artifactDir = some path → IsPlace path
  baseName : IsFileName config.build.baseName
  maxGeneration : 1 ≤ config.build.maxGeneration ∧ config.build.maxGeneration ≤ generationLimit
  fixturesDir : IsPlace config.fixtures.directory
  source : IsExtension config.fixtures.layout.source
  expected : IsExtension config.fixtures.layout.expected
  extensions_ne : config.fixtures.layout.source ≠ config.fixtures.layout.expected
  compilerArgs : IsTemplate .compile config.compilerArgs
  program : IsPlace (.ofText config.toolchain.program)
  linkArgs : IsTemplate .link config.toolchain.args
  limitSec : 1 ≤ config.execution.limitSec ∧ config.execution.limitSec ≤ maxLimitSec
  jobs : 1 ≤ config.execution.jobs ∧ config.execution.jobs ≤ maxJobs
  eventsPath : ∀ path, config.events.path = some path → IsPlace path
  sink : config.events.sink = .file → config.events.path.isSome = true

theorem Build.check_eq_ok_iff {build : Build} : build.check = .ok () ↔
    IsPlace build.directory ∧ (∀ path, build.artifactDir = some path → IsPlace path) ∧
      IsFileName build.baseName ∧ 1 ≤ build.maxGeneration ∧
        build.maxGeneration ≤ generationLimit := by
  rw [Build.check]
  cases build.artifactDir <;>
    simp [Except.bind_eq_ok, Except.exists_unit, checkPath_eq_ok_iff, checkFileName_eq_ok_iff,
      checkRange_eq_ok_iff]

theorem Fixtures.check_eq_ok_iff {fixtures : Fixtures} : fixtures.check = .ok () ↔
    IsPlace fixtures.directory ∧ IsExtension fixtures.layout.source ∧
      IsExtension fixtures.layout.expected ∧
        fixtures.layout.source ≠ fixtures.layout.expected := by
  simp only [Fixtures.check, Except.bind_eq_ok, Except.exists_unit, checkPath_eq_ok_iff,
    checkExtension_eq_ok_iff, require_eq_ok_iff, decide_eq_true_eq]

theorem Execution.check_eq_ok_iff {execution : Execution} : execution.check = .ok () ↔
    (1 ≤ execution.limitSec ∧ execution.limitSec ≤ maxLimitSec) ∧
      1 ≤ execution.jobs ∧ execution.jobs ≤ maxJobs := by
  simp only [Execution.check, Except.bind_eq_ok, Except.exists_unit, checkRange_eq_ok_iff]

theorem Events.check_eq_ok_iff {events : Events} : events.check = .ok () ↔
    (∀ path, events.path = some path → IsPlace path) ∧
      (events.sink = .file → events.path.isSome = true) := by
  rw [Events.check]
  cases events.path <;> simp [checkPath_eq_ok_iff, require_eq_ok_iff]

/-- The check of a config finds no problem just if the config is valid. -/
theorem check_eq_ok_iff : config.check = .ok () ↔ config.Valid := by
  simp only [check, compileTemplate, linkTemplate, Except.bind_eq_ok, Except.exists_unit,
    Build.check_eq_ok_iff, Fixtures.check_eq_ok_iff, template_eq_ok_iff, checkPath_eq_ok_iff,
    Execution.check_eq_ok_iff, Events.check_eq_ok_iff]
  constructor
  · rintro ⟨⟨hdirectory, hartifacts, hbase, hgeneration⟩, ⟨hfixtures, hsource, hexpected, hne⟩, -,
      ⟨-, hcompile⟩, hprogram, -, ⟨-, hlink⟩, ⟨hlimit, hjobs⟩, hevents, hsink⟩
    exact ⟨hdirectory, hartifacts, hbase, hgeneration, hfixtures, hsource, hexpected, hne,
      hcompile, hprogram, hlink, hlimit, hjobs, hevents, hsink⟩
  · intro hvalid
    exact ⟨⟨hvalid.directory, hvalid.artifactDir, hvalid.baseName, hvalid.maxGeneration⟩,
      ⟨hvalid.fixturesDir, hvalid.source, hvalid.expected, hvalid.extensions_ne⟩, _,
      ⟨rfl, hvalid.compilerArgs⟩, hvalid.program, _, ⟨rfl, hvalid.linkArgs⟩,
      ⟨hvalid.limitSec, hvalid.jobs⟩, hvalid.eventsPath, hvalid.sink⟩

theorem validated_eq_ok_iff :
    config.validated = .ok found ↔ config.check = .ok () ∧ config = found := by
  unfold validated
  split
  next hvalid => simp [hvalid]
  next hproblem => simp [hproblem]

theorem validated_eq_error_iff {error : ConfigError} : config.validated = .error error ↔
    ∃ problem, config.check = .error problem ∧ error = .invalid problem := by
  unfold validated
  split
  next hvalid => simp [hvalid]
  next problem hproblem => simp [hproblem, eq_comm]

end Configs

end BootChain.Config
