import BootChain.Config.Overrides
import BootChain.Proofs.Config.Validity
import BootChain.Proofs.Environment

namespace BootChain

namespace Config

variable {field : String} {path : Path} {problem : ConfigProblem}

/-- A path is beyond a limit, as a problem with a field says. -/
inductive Exceeds (field : String) (path : Path) : ConfigProblem → Prop
  | whole (hsize : 4096 < path.bytes.length) : Exceeds field path (.tooLong field)
  | step {component : Path.Component} (hmem : component ∈ path.components)
    (hlength : 255 < component.length) : Exceeds field path (.longComponent field)

section Texts

variable {text : String}

theorem isPlace_ofText_iff (hfilled : Text.isBlankText text = false) :
    IsPlace (.ofText text) ↔ ∀ problem, ¬ Exceeds field (.ofText text) problem := by
  have hshown : (Path.ofText text).shown = text := Utf8.lossy_encode text
  have hsize : (Path.ofText text).bytes.length = text.utf8ByteSize := Utf8.length_encode text
  constructor
  · rintro hplace _ (hlarge | ⟨hmem, hlong⟩)
    · have hle := hplace.size_le
      rw [hshown, ← hsize] at hle
      exact Nat.not_lt.2 hle hlarge
    · exact Nat.not_lt.2 (hplace.length_le _ hmem) hlong
  · intro hfits
    refine ⟨?_, ?_, fun component hmem => Nat.not_lt.1 fun hlong => hfits _ (.step hmem hlong)⟩
    · rwa [hshown]
    · rw [hshown, ← hsize]
      exact Nat.not_lt.1 fun hlarge => hfits _ (.whole hlarge)

/-- The only problem with a path that is a text is its size, or that of a step of it. -/
theorem exceeds_of_checkPath (hfilled : Text.isBlankText text = false)
    (herror : checkPath field (.ofText text) = .error problem) :
    Exceeds field (.ofText text) problem := by
  have hshown : (Path.ofText text).shown = text := Utf8.lossy_encode text
  have hsize : (Path.ofText text).bytes.length = text.utf8ByteSize := Utf8.length_encode text
  simp only [checkPath, Except.bind_eq_error, require_eq_error_iff, hshown, hfilled, Bool.not_false,
    Bool.true_eq_false, false_and, false_or, decide_eq_false_iff_not, Nat.not_le] at herror
  obtain ⟨_, -, ⟨hlarge, rfl⟩ | ⟨_, -, hlong, rfl⟩⟩ := herror
  · exact .whole (hsize ▸ hlarge)
  · obtain ⟨component, hmem, hlong⟩ := List.all_eq_false.1 hlong
    rw [decide_eq_true_iff, Nat.not_le] at hlong
    exact .step hmem hlong

end Texts

section Parts

theorem Build.check_of_check {build other : Build} (hcheck : build.check = .ok ())
    (hother : other = { build with
      directory := other.directory, keepArtifacts := other.keepArtifacts }) :
    other.check = checkPath "build.dir" other.directory := by
  obtain ⟨-, hartifacts, hbase, hgeneration⟩ := check_eq_ok_iff.1 hcheck
  cases hpath : checkPath "build.dir" other.directory with
  | error problem =>
    rw [Build.check, hpath]
    rfl
  | ok =>
    rw [hother]
    exact check_eq_ok_iff.2 ⟨checkPath_eq_ok_iff.1 hpath, hartifacts, hbase, hgeneration⟩

theorem Fixtures.check_of_check {fixtures : Fixtures} (hcheck : fixtures.check = .ok ())
    (directory : Path) : ({ fixtures with directory } : Fixtures).check =
      checkPath "fixtures.dir" directory := by
  obtain ⟨-, hlayout⟩ := check_eq_ok_iff.1 hcheck
  cases hpath : checkPath "fixtures.dir" directory with
  | error problem =>
    rw [Fixtures.check, hpath]
    rfl
  | ok => exact check_eq_ok_iff.2 ⟨checkPath_eq_ok_iff.1 hpath, hlayout⟩

/-- A path that stands over one that was checked is the only one to check. -/
theorem checkPath_getD {base : Path} (hbase : checkPath field base = .ok ()) (other : Option Path) :
    checkPath field (other.getD base) = forM (other.map fun path => (field, path)).toList
      fun entry => checkPath entry.1 entry.2 := by
  cases other with
  | none => exact hbase
  | some path =>
    exact Except.bind_ok.symm

end Parts

end Config

namespace Overrides

variable {env : Environment} {overrides : Overrides} {config : Config}

/-- Each of the overrides is what its variable gives. -/
structure Given (env : Environment) (overrides : Overrides) : Prop where
  buildDir : env.Gives Variable.buildDir.name (fun text path => path = .ofText text)
    overrides.buildDir
  fixturesDir : env.Gives Variable.fixturesDir.name (fun text path => path = .ofText text)
    overrides.fixturesDir
  limitSec : env.Gives Variable.limitSec.name (Environment.NumberUpTo 86400) overrides.limitSec
  jobs : env.Gives Variable.jobs.name (Environment.NumberUpTo 256) overrides.jobs
  keepArtifacts : env.Gives Variable.keepArtifacts.name Environment.IsFlag overrides.keepArtifacts
  toolchain : env.Gives Variable.toolchain.name (fun text program => program = text)
    overrides.toolchain

theorem ofEnvironment_eq_ok_iff : ofEnvironment env = .ok overrides ↔ Given env overrides := by
  have hlimit : Config.maxLimitSec ≤ Decimal.maxWord := by decide
  have hjobs : Config.maxJobs ≤ Decimal.maxWord := by decide
  simp only [ofEnvironment, Except.bind_eq_ok, Environment.path?_eq_ok_iff,
    Environment.bounded?_eq_ok_iff hlimit, Environment.bounded?_eq_ok_iff hjobs,
    Environment.flag?_eq_ok_iff, Environment.filled?_eq_ok_iff]
  constructor
  · rintro ⟨_, hbuildDir, _, hfixturesDir, _, hlimitSec, _, hjobs, _, hkeepArtifacts, _, htoolchain,
      heq⟩
    cases heq
    exact ⟨hbuildDir, hfixturesDir, hlimitSec, hjobs, hkeepArtifacts, htoolchain⟩
  · rintro ⟨hbuildDir, hfixturesDir, hlimitSec, hjobs, hkeepArtifacts, htoolchain⟩
    exact ⟨_, hbuildDir, _, hfixturesDir, _, hlimitSec, _, hjobs, _, hkeepArtifacts, _, htoolchain,
      rfl⟩

/-- The paths that overrides set, under the fields that they go to. -/
def paths (overrides : Overrides) : List (String × Path) :=
  (overrides.buildDir.map fun path => ("build.dir", path)).toList ++
    ((overrides.fixturesDir.map fun path => ("fixtures.dir", path)).toList ++
      (overrides.toolchain.map fun program => ("toolchain.program", .ofText program)).toList)

/-- A config that was valid is checked again for nothing but the paths that overrides set. -/
theorem check_apply (hcheck : config.check = .ok ())
    (hlimit : ∀ n, overrides.limitSec = some n → 1 ≤ n ∧ n ≤ Config.maxLimitSec)
    (hjobs : ∀ n, overrides.jobs = some n → 1 ≤ n ∧ n ≤ Config.maxJobs) :
    (overrides.apply config).check =
      forM overrides.paths fun entry => Config.checkPath entry.1 entry.2 := by
  have hvalid := Config.check_eq_ok_iff.1 hcheck
  have hbuild : (overrides.apply config).build.check =
      Config.checkPath "build.dir" (overrides.buildDir.getD config.build.directory) :=
    Config.Build.check_of_check (Config.Build.check_eq_ok_iff.2
      ⟨hvalid.directory, hvalid.artifactDir, hvalid.baseName, hvalid.maxGeneration⟩) rfl
  have hfixtures : (overrides.apply config).fixtures.check =
      Config.checkPath "fixtures.dir" (overrides.fixturesDir.getD config.fixtures.directory) :=
    Config.Fixtures.check_of_check (Config.Fixtures.check_eq_ok_iff.2
      ⟨hvalid.fixturesDir, hvalid.source, hvalid.expected, hvalid.extensions_ne⟩) _
  have hcompile : (overrides.apply config).compileTemplate = .ok ⟨config.compilerArgs⟩ :=
    Config.template_eq_ok_iff.2 ⟨rfl, hvalid.compilerArgs⟩
  have hlink : (overrides.apply config).linkTemplate = .ok ⟨config.toolchain.args⟩ :=
    Config.template_eq_ok_iff.2 ⟨rfl, hvalid.linkArgs⟩
  have hexecution : (overrides.apply config).execution.check = .ok () := by
    refine Config.Execution.check_eq_ok_iff.2 ⟨?_, ?_⟩
    · cases h : overrides.limitSec with
      | none => simpa [apply, h] using hvalid.limitSec
      | some n => simpa [apply, h] using hlimit n h
    · cases h : overrides.jobs with
      | none => simpa [apply, h] using hvalid.jobs
      | some n => simpa [apply, h] using hjobs n h
  have hevents : (overrides.apply config).events.check = .ok () :=
    Config.Events.check_eq_ok_iff.2 ⟨hvalid.eventsPath, hvalid.sink⟩
  have hprogram : Path.ofText (overrides.apply config).toolchain.program =
      (overrides.toolchain.map Path.ofText).getD (.ofText config.toolchain.program) := by
    cases h : overrides.toolchain <;> simp [apply, h]
  have hrest : ((overrides.apply config).linkTemplate >>= fun _ => do
      (overrides.apply config).execution.check
      (overrides.apply config).events.check) = .ok () := by
    rw [hlink, hexecution, hevents]
    rfl
  rw [Config.check, hbuild, hfixtures, hcompile, hrest, Except.ok_bind, Except.bind_ok, hprogram,
    Config.checkPath_getD (Config.checkPath_eq_ok_iff.2 hvalid.directory),
    Config.checkPath_getD (Config.checkPath_eq_ok_iff.2 hvalid.fixturesDir),
    Config.checkPath_getD (Config.checkPath_eq_ok_iff.2 hvalid.program), Option.map_map, paths,
    List.forM_append, List.forM_append]
  rfl

theorem mem_paths_iff {entry : String × Path} : entry ∈ overrides.paths ↔
    (∃ path, overrides.buildDir = some path ∧ ("build.dir", path) = entry) ∨
      (∃ path, overrides.fixturesDir = some path ∧ ("fixtures.dir", path) = entry) ∨
        ∃ program, overrides.toolchain = some program ∧
          ("toolchain.program", .ofText program) = entry := by
  simp only [paths, List.mem_append, Option.mem_toList, Option.map_eq_some_iff]

/-- The paths that the environment sets are texts with more than blanks in them. -/
theorem Given.exists_text (hgiven : Given env overrides) {entry : String × Path}
    (hentry : entry ∈ overrides.paths) :
    ∃ text, entry.2 = .ofText text ∧ Text.isBlankText text = false := by
  rcases mem_paths_iff.1 hentry with ⟨path, hpath, rfl⟩ | ⟨path, hpath, rfl⟩ | ⟨_, hprogram, rfl⟩
  · obtain ⟨text, -, hfilled, rfl⟩ := hgiven.buildDir.exists_text hpath
    exact ⟨_, rfl, hfilled⟩
  · obtain ⟨text, -, hfilled, rfl⟩ := hgiven.fixturesDir.exists_text hpath
    exact ⟨_, rfl, hfilled⟩
  · obtain ⟨text, -, hfilled, rfl⟩ := hgiven.toolchain.exists_text hprogram
    exact ⟨_, rfl, hfilled⟩

/-- The numbers that the environment sets are within the bounds of a config. -/
theorem Given.check_apply_eq (hgiven : Given env overrides) (hcheck : config.check = .ok ()) :
    (overrides.apply config).check =
      forM overrides.paths fun entry => Config.checkPath entry.1 entry.2 := by
  refine check_apply hcheck (fun n hn => ?_) fun n hn => ?_
  · obtain ⟨-, -, -, -, hbounds⟩ := hgiven.limitSec.exists_text hn
    exact hbounds
  · obtain ⟨-, -, -, -, hbounds⟩ := hgiven.jobs.exists_text hn
    exact hbounds

/-- What an environment does to a config. -/
structure Heeded (env : Environment) : Prop where
  given_iff : ∀ overrides, ofEnvironment env = .ok overrides ↔ Given env overrides
  ok_iff : ∀ overrides, ofEnvironment env = .ok overrides → ∀ config : Config,
    config.check = .ok () →
      ((overrides.apply config).validated = .ok (overrides.apply config) ↔
        ∀ entry ∈ overrides.paths, ∀ problem, ¬ Config.Exceeds entry.1 entry.2 problem)
  cause : ∀ overrides, ofEnvironment env = .ok overrides → ∀ config : Config,
    config.check = .ok () → ∀ error, (overrides.apply config).validated = .error error →
      ∃ entry ∈ overrides.paths, ∃ problem,
        error = .invalid problem ∧ Config.Exceeds entry.1 entry.2 problem

/-- An environment gives overrides just if each of its variables is unset or stands for a value, and
    with them a valid config has no problem but a path that is set and too long. -/
theorem heeded (env : Environment) : Heeded env where
  given_iff _ := ofEnvironment_eq_ok_iff
  ok_iff overrides hread config hcheck := by
    have hgiven := ofEnvironment_eq_ok_iff.1 hread
    rw [Config.validated_eq_ok_iff, hgiven.check_apply_eq hcheck, Except.forM_eq_ok_iff,
      and_iff_left rfl]
    refine forall₂_congr fun entry hentry => ?_
    obtain ⟨text, htext, hfilled⟩ := hgiven.exists_text hentry
    rw [htext, Config.checkPath_eq_ok_iff]
    exact Config.isPlace_ofText_iff hfilled
  cause overrides hread config hcheck error herror := by
    have hgiven := ofEnvironment_eq_ok_iff.1 hread
    obtain ⟨problem, hproblem, rfl⟩ := Config.validated_eq_error_iff.1 herror
    rw [hgiven.check_apply_eq hcheck] at hproblem
    obtain ⟨entry, hentry, hpath⟩ := Except.exists_of_forM_eq_error hproblem
    obtain ⟨text, htext, hfilled⟩ := hgiven.exists_text hentry
    rw [htext] at hpath
    exact ⟨entry, hentry, problem, rfl, htext ▸ Config.exceeds_of_checkPath hfilled hpath⟩

/-- Blanks beyond ASCII, zeros before a number, a sign and capitals. -/
example : ofEnvironment ⟨[
      ("BOOTSTRAP_CHECK_TIMEOUT_SEC", Utf8.encode "\u3000+00000000000000086400\t"),
      ("BOOTSTRAP_CHECK_KEEP_ARTIFACTS", Utf8.encode " tRuE\u2003")]⟩ =
    .ok { limitSec := some 86400, keepArtifacts := some true } := by
  decide +kernel

end Overrides

end BootChain
