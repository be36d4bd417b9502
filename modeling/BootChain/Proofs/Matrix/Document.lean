import BootChain.CommandLine.Perform
import BootChain.Proofs.Artifacts
import BootChain.Proofs.Chain.Probe
import BootChain.Proofs.Config.RoundTrip
import BootChain.Proofs.Matrix.Grid
import BootChain.Proofs.Matrix.History
import BootChain.Proofs.Report.Document
import BootChain.Proofs.Report.Restriction

namespace BootChain

namespace Config

/-- The compilers of a valid config have a name without a slash, and there is at least one. -/
theorem compilers_of_check {config : Config} (hvalid : config.check = .ok ()) :
    '/' ∉ config.build.baseName.toList ∧ 1 ≤ config.build.maxGeneration := by
  have hchecked := check_eq_ok_iff.1 hvalid
  exact ⟨hchecked.baseName.slash_notMem, hchecked.maxGeneration.1⟩

end Config

namespace Artifacts

/-- The artifacts of a pair are text just if the directory is that they are in. -/
theorem isSome_text?_of_mem_paths {directory path : Path} {generation : Generation}
    {id : FixtureId} (hpath : path ∈ (under directory generation id).paths) :
    path.text?.isSome = true ↔ directory.text?.isSome = true := by
  have hnames : ∀ name ∈ fileNames generation id, (Utf8.text? name).isSome = true := by
    intro name hname
    simp only [fileNames, List.mem_cons, List.not_mem_nil, or_false] at hname
    obtain rfl | rfl := hname <;> rw [Utf8.text?_encode] <;> rfl
  rw [paths_under] at hpath
  obtain ⟨name, hname, rfl⟩ := List.mem_map.1 hpath
  exact Path.isSome_text?_join (Path.not_isAbsolute_of_isName (isName_of_mem_fileNames hname))
    (hnames name hname)

end Artifacts

namespace Trial

variable {σ : Type} {settings : Settings} {stage : Stage} {fixture : Fixture} {pair : Pair}
  {planned : Planned} {plan : List Planned} {exchanges : List (Exchange σ)}
  {record : Option StepRecord} {records : List StepRecord} {ending : Option Failure}
  {failure : Failure} {path : Path}

/-- A failed step names no path but that of its own product. -/
theorem StepCourse.product_eq
    (hcourse : StepCourse settings pair planned exchanges record (some failure))
    (hpath : path ∈ failure.cause.path?) : planned.product = some path := by
  cases hcourse with
  | cancelled => cases hpath
  | @uncalled _ _ _ e => cases e <;> cases hpath
  | ended hcause =>
    unfold causeOfEnding at hcause
    split at hcause <;> cases hcause <;> cases hpath
  | unwritten _ hproduct =>
    cases hpath
    exact hproduct

theorem Course.exists_product (hcourse : Course settings pair plan exchanges records ending)
    (hending : ending = some failure) (hpath : path ∈ failure.cause.path?) :
    ∃ planned ∈ plan, planned.product = some path := by
  induction hcourse with
  | finished => cases hending
  | @stopped planned rest _ _ _ hstep =>
    cases hending
    exact ⟨planned, List.mem_cons_self, hstep.product_eq hpath⟩
  | passed _ _ ih =>
    obtain ⟨planned, hplanned, hproduct⟩ := ih hending
    exact ⟨planned, List.mem_cons_of_mem _ hplanned, hproduct⟩

/-- The path that a trial names is that of one of its artifacts. -/
theorem path?_of_yields {trial : Trial}
    (hyields : (perform settings stage fixture).Yields exchanges trial)
    (hpath : path ∈ trial.path?) :
    path ∈ (Artifacts.under settings.artifactDir stage.generation fixture.id).paths := by
  obtain ⟨driven, tail, records, ending, -, hdriven, -, rfl⟩ := perform_yields hyields
  obtain ⟨failure, hfailure, hpath⟩ := Option.bind_eq_some_iff.1 hpath
  cases hdriven with
  | unprepared =>
    cases hfailure
    cases hpath
  | prepared _ hcourse =>
    obtain ⟨planned, hplanned, hproduct⟩ := hcourse.exists_product hfailure hpath
    simp only [Pair.plan, List.mem_cons, List.not_mem_nil, or_false] at hplanned
    obtain rfl | rfl | rfl := hplanned
    · cases hproduct
      exact List.mem_cons_self
    · cases hproduct
      exact List.mem_cons_of_mem _ List.mem_cons_self
    · cases hproduct

end Trial

namespace Matrix

variable {ρ : Type} {runner : Stage → Fixture → Runner ρ} {world : World ρ}
  {schedule : List Action} {matrix : Matrix} {id : FixtureId} {generation : Generation}
  {trial : Trial} {path : Path}

/-- A cell that was not evaluated names the place of a compiler that is missing. -/
theorem missing_of_notEvaluated
    (hcell : (matrix.reportOf (matrix.follow runner world schedule)).cell? id generation =
      some (.notEvaluated path)) : matrix.chain.get? generation = some (.missing path) := by
  obtain ⟨slot, hslot, hopen⟩ | ⟨_, _, -, -, hevaluated⟩ :=
    (genuine_follow matrix runner world schedule).cell_cases hcell
  · cases slot with
    | available stage => cases hopen
    | missing expected =>
      cases hopen
      exact hslot
  · cases hevaluated

/-- A cell that was evaluated names at most an artifact of its own pair. -/
theorem artifact_of_trial?
    (htrial : (matrix.reportOf (matrix.follow runner world schedule)).trial? id generation =
      some trial) (hpath : path ∈ trial.path?) :
    path ∈ (Artifacts.under matrix.settings.artifactDir generation id).paths := by
  obtain ⟨task, htask, rfl, rfl, hphase⟩ :=
    (sound_follow matrix runner world schedule).exists_task_of_trial? htrial
  obtain ⟨index, hindex⟩ := List.mem_iff_getElem?.1 htask
  have hreached := reached_follow matrix runner world schedule hindex
  rw [hphase] at hreached
  exact Trial.path?_of_yields hreached hpath

/-- The document of a run of a valid config can be written just if the build directory is text, and
    the artifact directory too if a trial has failed for want of an artifact. Nothing else that a
    report holds, be it an id, a command or what a program printed, can keep it from being
    written. -/
theorem canonicalText_report_iff (config : Config) (hvalid : config.check = .ok ())
    (files : FileSystem) (settings : Settings) (jobs : Nat) (fixtures : List Fixture)
    (selection : Selection) (runner : Stage → Fixture → Runner ρ) (world : World ρ)
    (schedule : List Action) :
    let chain := CommandLine.probedChain config files
    let matrix := select settings jobs chain fixtures selection
    let report := (matrix.conclude (matrix.follow runner world schedule)).1
    (∃ text, report.canonicalText chain = .ok text) ↔
      config.build.directory.text?.isSome = true ∧
        (settings.artifactDir.text?.isSome = true ∨
          ∀ id generation trial, report.trial? id generation = some trial →
            trial.path? = none) := by
  intro chain matrix report
  obtain ⟨hname, hlast⟩ := Config.compilers_of_check hvalid
  have hchain : (∀ slot ∈ chain.slots.values, slot.path.text?.isSome = true) ↔
      config.build.directory.text?.isSome = true := Chain.paths_probe_iff hname hlast
  have hslot : ∀ generation slot, matrix.chain.get? generation = some slot →
      slot ∈ chain.slots.values := by
    intro generation slot hslot
    rw [SortedMap.values, List.mem_map]
    have hget : (selection.chain chain).get? generation = some slot := hslot
    rw [Selection.get?_chain] at hget
    split at hget
    · exact ⟨(generation, slot), SortedMap.get?_eq_some_iff.1 hget, rfl⟩
    · cases hget
  refine Report.encodes_canonicalText_iff.trans ?_
  rw [hchain]
  refine and_congr_right fun hdirectory => ?_
  constructor
  · intro hcells
    by_cases hnone : ∀ id generation trial, report.trial? id generation = some trial →
        trial.path? = none
    · exact .inr hnone
    · push Not at hnone
      obtain ⟨id, generation, trial, htrial, hsome⟩ := hnone
      obtain ⟨path, hpath⟩ := Option.ne_none_iff_exists'.1 hsome
      have hartifact := artifact_of_trial? htrial hpath
      obtain ⟨matchesExpected, hcell⟩ := Report.trial?_eq_some_iff.1 htrial
      have hmem := Report.mem_allCells_iff.2 ⟨id, generation, hcell⟩
      exact .inl ((Artifacts.isSome_text?_of_mem_paths hartifact).1 (hcells _ hmem path hpath))
  · intro hartifacts cell hmem path hpath
    obtain ⟨id, generation, hcell⟩ := Report.mem_allCells_iff.1 hmem
    cases cell with
    | notEvaluated expected =>
      cases hpath
      exact hchain.2 hdirectory _ (hslot _ _ (missing_of_notEvaluated hcell))
    | skipped => cases hpath
    | evaluated trial matchesExpected =>
      have htrial : report.trial? id generation = some trial :=
        Report.trial?_eq_some_iff.2 ⟨matchesExpected, hcell⟩
      obtain htext | hnone := hartifacts
      · exact (Artifacts.isSome_text?_of_mem_paths (artifact_of_trial? htrial hpath)).2 htext
      · cases (hnone id generation trial htrial).symm.trans hpath

/-- The compiler of the default config, and nothing else. -/
def oneCompiler : FileSystem where
  nodes := [([Utf8.encode "build"], .dir), (["build", "c"].map Utf8.encode, .file [] 0o755)]

/-- A compiler that writes nothing leaves a report that cannot be written, if the artifacts were to
    go to a place that is not text. -/
theorem canonicalText_report_unwritten :
    let chain := CommandLine.probedChain {} oneCompiler
    let matrix := select { artifactDir := ⟨[0xFF]⟩ } 1 chain [⟨⟨"a"⟩, .ofText "a.c", []⟩] {}
    let run := matrix.follow (fun _ _ _ _ world => (.ok ⟨"c", .exited (some 0), [], [], 0⟩, world))
      { files := oneCompiler, memory := () }
      ([.move 0 .enter] ++ List.replicate 10 (.move 0 .step) ++ [.move 0 .join])
    ({} : Config).check = .ok () ∧ run.isOver = true ∧
      ¬ ∃ text, (matrix.conclude run).1.canonicalText chain = .ok text := by
  intro chain matrix run
  have hvalid : ({} : Config).check = .ok () := by decide +kernel
  refine ⟨hvalid, by decide +kernel, fun htext => ?_⟩
  obtain ⟨-, hartifacts⟩ := (canonicalText_report_iff {} hvalid oneCompiler
    { artifactDir := ⟨[0xFF]⟩ } 1 [⟨⟨"a"⟩, .ofText "a.c", []⟩] {} _ _ _).1 htext
  obtain htext | hnone := hartifacts
  · exact absurd htext (by decide)
  · have hfailed : ((matrix.conclude run).1.trial? ⟨"a"⟩ .first).any (·.path?.isSome) = true := by
      decide +kernel
    obtain ⟨trial, htrial, hsome⟩ := (Option.any_eq_true _ _).1 hfailed
    rw [hnone _ _ trial htrial] at hsome
    cases hsome

end Matrix

namespace CommandLine

/-- A fixture, and in a directory whose name is not text a compiler that cannot be started. -/
def illegible : Surroundings where
  files :=
    { nodes := [([Utf8.encode "tests"], .dir), (["tests", "a.c"].map Utf8.encode, .file [] 0o644),
        (["tests", "a.expected"].map Utf8.encode, .file [] 0o644),
        ([[0xFF]], .dir), ([[0xFF], Utf8.encode "c"], .file [] 0o755)] }
  environment := {}

/-- A run with a finding fails where it is told in plain text. Where it is to be told as JSON it
    ends as if it had not been asked for properly, and the finding is lost. -/
theorem outcome_illegible :
    let options (format : Format) : RunOptions :=
      { layout := { buildDir := some ⟨[0xFF]⟩ }, format }
    ((options .text).outcome illegible).exitCode = 1 ∧
      ((options .json).outcome illegible).exitCode = 2 ∧
      ((options .json).outcome illegible).stdout = "" := by
  refine ⟨?_, ?_, ?_⟩ <;> decide +kernel

end CommandLine

end BootChain
