import BootChain.Proofs.Matrix.Confluence
import BootChain.Proofs.Matrix.Sequential
import BootChain.Proofs.Report.Findings
import BootChain.Proofs.Text.Escape
import BootChain.Proofs.Text.Utf8.RoundTrip
import BootChain.Rehearsal

namespace BootChain.Report

variable {id : FixtureId} {generation : Generation} {cell : Cell} {fixtures : List Fixture}
  {finding : Finding} {comparison : Comparison}

/-- What a report shows of two octet strings that differ: a text of each, made in one way. These
    differ as well, unless one octet string is not a text and both are replaced alike. -/
structure Contrast (display : String → String) (output other : Bytes) (first second : String) :
    Prop where
  ne : output ≠ other
  first_eq : first = display (Utf8.lossy output)
  second_eq : second = display (Utf8.lossy other)
  eq_iff : first = second ↔ Utf8.Blurred output other

theorem contrast {display : String → String} (hinj : Function.Injective display)
    {output other : Bytes} (hne : output ≠ other) :
    Contrast display output other (display (Utf8.lossy output)) (display (Utf8.lossy other)) where
  ne := hne
  first_eq := rfl
  second_eq := rfl
  eq_iff := by rw [hinj.eq_iff, Utf8.lossy_eq_iff hne]

/-- The differences that a report tells of are differences of octets, and it shows both sides. -/
structure Differences (fixtures : List Fixture) (report : Report) : Prop where
  diverged : ∀ comparison ∈ report.comparisons, ∀ lower upper,
    comparison.verdict = .diverged lower upper → ∃ output other,
      report.Printed comparison.fixture comparison.lower output ∧
      report.Printed comparison.fixture comparison.upper other ∧
      Contrast (fun text => text) output other lower upper
  violation : ∀ finding ∈ report.findingsOf .equivalenceViolation,
    ∃ lower output other first second,
      report.Printed finding.fixture lower output ∧
      report.Printed finding.fixture finding.generation other ∧
      Contrast Text.shown output other first second ∧
      finding.message = lower.label ++ " printed `" ++ first ++ "` but " ++
        finding.generation.label ++ " printed `" ++ second ++ "`"
  mismatch : ∀ finding ∈ report.findingsOf .outputMismatch, ∃ fixture output first second,
    fixtureOf? fixtures finding.fixture = some fixture ∧
      report.Printed finding.fixture finding.generation output ∧
      Contrast Text.shown fixture.expected output first second ∧
      finding.message = "expected `" ++ first ++ "` but got `" ++ second ++ "`"

theorem violation?_eq_some_iff : violation? comparison = some finding ↔
    ∃ lower upper, comparison.verdict = .diverged lower upper ∧
      finding = ⟨.equivalenceViolation, comparison.fixture, comparison.upper,
        comparison.lower.label ++ " printed `" ++ Text.shown lower ++ "` but " ++
          comparison.upper.label ++ " printed `" ++ Text.shown upper ++ "`"⟩ := by
  unfold violation?
  cases hverdict : comparison.verdict <;> simp [eq_comm]

/-- The two kinds of finding that a cell can give rise to. -/
theorem cellFinding?_cases (hfinding : cellFinding? fixtures id generation cell = some finding) :
    (∃ trial matchesExpected failure, cell = .evaluated trial matchesExpected ∧
      trial.failure = some failure ∧
      finding = ⟨.pipelineFailure, id, generation, failureMessage failure⟩) ∨
    ∃ trial, cell = .evaluated trial false ∧ trial.failure = none ∧
      finding = ⟨.outputMismatch, id, generation,
        mismatchMessage (((fixtureOf? fixtures id).map fun f => Utf8.lossy f.expected).getD "")
          (trial.stdout.getD "")⟩ := by
  cases cell with
  | notEvaluated path => cases hfinding
  | skipped => cases hfinding
  | evaluated trial matchesExpected =>
    cases hfailure : trial.failure with
    | some failure =>
      rw [cellFinding?, hfailure] at hfinding
      cases hfinding
      exact .inl ⟨trial, matchesExpected, failure, rfl, hfailure, rfl⟩
    | none =>
      cases matchesExpected with
      | true => simp [cellFinding?, hfailure] at hfinding
      | false =>
        simp only [cellFinding?, hfailure, Bool.false_eq_true, if_false, Option.some.injEq]
          at hfinding
        exact .inr ⟨trial, rfl, hfailure, hfinding.symm⟩

end BootChain.Report

namespace BootChain.Matrix

open Report

variable {ρ : Type} {matrix : Matrix} {arrivals : List Arrival} {cancelled : Bool}
  {comparison : Comparison} {finding : Finding} {lower upper : String}

/-- A cell with a trial stands in the row of a fixture. -/
theorem Genuine.exists_fixtureOf? (hgenuine : matrix.Genuine arrivals) {id : FixtureId}
    {generation : Generation} {cell : Cell}
    (hcell : (matrix.report arrivals cancelled).cell? id generation = some cell) :
    ∃ fixture, fixtureOf? matrix.fixtures id = some fixture := by
  have hsome := Option.isSome_iff_exists.2 ⟨cell, hcell⟩
  obtain ⟨hid, -⟩ := (hgenuine.isSome_cell? cancelled id generation).1 hsome
  obtain ⟨fixture, hfixture, rfl⟩ := List.mem_map.1 hid
  exact Option.isSome_iff_exists.1
    (List.find?_isSome.2 ⟨fixture, List.mem_reverse.2 hfixture, decide_eq_true rfl⟩)

theorem Genuine.stdout_eq (hgenuine : matrix.Genuine arrivals) {id : FixtureId}
    {generation : Generation} {output : Bytes}
    (hprinted : (matrix.report arrivals cancelled).Printed id generation output) :
    ∃ trial, trialAt? (matrix.report arrivals cancelled).cells id generation = some trial ∧
      trial.output? = some output ∧ trial.stdout = some (Utf8.lossy output) := by
  obtain ⟨trial, matchesExpected, hcell, hsucceeded, houtput⟩ := hprinted
  have hcompleted := hgenuine.completed_of_evaluated hcell
  obtain ⟨same, hsame, hstdout⟩ := hcompleted.printed (hcompleted.succeeded_iff.1 hsucceeded)
  cases houtput.symm.trans hsame
  exact ⟨trial, trialAt?_eq_some_iff.2 ⟨matchesExpected, hcell⟩, houtput, hstdout⟩

/-- A comparison that diverges shows what the two programs printed. -/
theorem Genuine.diverged (hgenuine : matrix.Genuine arrivals)
    (hmem : comparison ∈ (matrix.report arrivals cancelled).comparisons)
    (hdiverged : comparison.verdict = .diverged lower upper) : ∃ output other,
      (matrix.report arrivals cancelled).Printed comparison.fixture comparison.lower output ∧
      (matrix.report arrivals cancelled).Printed comparison.fixture comparison.upper other ∧
      output ≠ other ∧ lower = Utf8.lossy output ∧ upper = Utf8.lossy other := by
  obtain ⟨output, other, hlower, hupper, -, hiff, -⟩ | ⟨reason, hverdict, -⟩ :=
    hgenuine.verdict_cases hmem
  · have hne : output ≠ other := hiff.1 (by rw [hdiverged]; rfl)
    refine ⟨output, other, hlower, hupper, hne, ?_⟩
    have hcompared : comparison.verdict = compareTrials comparison.lower comparison.upper
        (trialAt? (matrix.report arrivals cancelled).cells comparison.fixture comparison.lower)
        (trialAt? (matrix.report arrivals cancelled).cells comparison.fixture comparison.upper) :=
      (mem_comparisonsOf_iff.1 hmem).2.2
    obtain ⟨first, hfirst, hfirstOutput, hfirstText⟩ := hgenuine.stdout_eq hlower
    obtain ⟨second, hsecond, hsecondOutput, hsecondText⟩ := hgenuine.stdout_eq hupper
    rw [compareTrials_of_through (through_trialAt?_iff.2 hlower.wentThrough)
      (through_trialAt?_iff.2 hupper.wentThrough), hfirst, hsecond, Option.bind_some,
      Option.bind_some, hfirstOutput, hsecondOutput, if_neg (by simpa using hne), Option.bind_some,
      Option.bind_some, hfirstText, hsecondText, hdiverged] at hcompared
    exact Verdict.diverged.inj hcompared
  · cases hdiverged.symm.trans hverdict

/-- A mismatch shows what was expected and what the program printed. -/
theorem Genuine.mismatch (hgenuine : matrix.Genuine arrivals)
    (hmem : finding ∈ (matrix.report arrivals cancelled).findings)
    (hdefect : finding.defect = .outputMismatch) : ∃ fixture output,
      fixtureOf? matrix.fixtures finding.fixture = some fixture ∧
      (matrix.report arrivals cancelled).Printed finding.fixture finding.generation output ∧
      fixture.expected ≠ output ∧
      finding.message = mismatchMessage (Utf8.lossy fixture.expected) (Utf8.lossy output) := by
  obtain hfound | hfound := mem_findings_assemble.1 hmem
  · obtain ⟨id, generation, cell, hcell, hfinding⟩ := mem_cellFindings_iff.1 hfound
    obtain ⟨_, _, _, -, -, rfl⟩ | ⟨trial, rfl, hfailure, rfl⟩ := cellFinding?_cases hfinding
    · cases hdefect
    have hcell : (matrix.report arrivals cancelled).cell? id generation =
      some (.evaluated trial false) := hcell
    have hcompleted := hgenuine.completed_of_evaluated hcell
    have hsucceeded := hcompleted.succeeded_iff.2 hfailure
    obtain ⟨output, houtput, hstdout⟩ := hcompleted.printed hfailure
    obtain ⟨fixture, hfixture⟩ := hgenuine.exists_fixtureOf? hcell
    refine ⟨fixture, output, hfixture, ⟨trial, false, hcell, hsucceeded, houtput⟩, ?_, ?_⟩
    · intro hmet
      have hflag : false = isMatch matrix.fixtures id trial := judged_cellsOf arrivals _ _ _ _ hcell
      have hmatch := isMatch_iff.2 ⟨hsucceeded, fixture, hfixture, by rw [houtput, hmet]⟩
      cases hflag.trans hmatch
    · rw [hfixture, hstdout]
      rfl
  · obtain ⟨comparison, -, hviolation⟩ := List.mem_filterMap.1 hfound
    obtain ⟨lower, upper, -, rfl⟩ := violation?_eq_some_iff.1 hviolation
    cases hdefect

/-- A violation shows what the programs of two neighbouring generations printed. -/
theorem Genuine.violation (hgenuine : matrix.Genuine arrivals)
    (hmem : finding ∈ (matrix.report arrivals cancelled).findings)
    (hdefect : finding.defect = .equivalenceViolation) : ∃ generation output other,
      (matrix.report arrivals cancelled).Printed finding.fixture generation output ∧
      (matrix.report arrivals cancelled).Printed finding.fixture finding.generation other ∧
      output ≠ other ∧
      finding.message = generation.label ++ " printed `" ++ Text.shown (Utf8.lossy output) ++
        "` but " ++ finding.generation.label ++ " printed `" ++ Text.shown (Utf8.lossy other) ++
        "`" := by
  obtain hfound | hfound := mem_findings_assemble.1 hmem
  · obtain ⟨id, generation, cell, -, hfinding⟩ := mem_cellFindings_iff.1 hfound
    obtain ⟨_, _, _, -, -, rfl⟩ | ⟨_, -, -, rfl⟩ := cellFinding?_cases hfinding <;> cases hdefect
  · obtain ⟨comparison, hcomparison, hviolation⟩ := List.mem_filterMap.1 hfound
    obtain ⟨lower, upper, hdiverged, rfl⟩ := violation?_eq_some_iff.1 hviolation
    obtain ⟨output, other, houtput, hother, hne, rfl, rfl⟩ :=
      hgenuine.diverged hcomparison hdiverged
    exact ⟨comparison.lower, output, other, houtput, hother, hne, rfl⟩

/-- Whatever the programs of a run print, its report tells only of outputs that differ, and shows
    both of them. They are shown differently unless one of them is not a text. -/
theorem differences_report (matrix : Matrix) (runner : Stage → Fixture → Runner ρ)
    (world : World ρ) (schedule : List Action) :
    (matrix.reportOf (matrix.follow runner world schedule)).Differences matrix.fixtures := by
  have hgenuine : matrix.Genuine (matrix.follow runner world schedule).arrivals :=
    genuine_follow matrix runner world schedule
  constructor
  · intro comparison hmem lower upper hdiverged
    obtain ⟨output, other, houtput, hother, hne, rfl, rfl⟩ := hgenuine.diverged hmem hdiverged
    exact ⟨output, other, houtput, hother, contrast Function.injective_id hne⟩
  · intro finding hfinding
    obtain ⟨hmem, hdefect⟩ := List.mem_filter.1 hfinding
    obtain ⟨lower, output, other, houtput, hother, hne, hmessage⟩ :=
      hgenuine.violation hmem (of_decide_eq_true hdefect)
    exact ⟨lower, output, other, _, _, houtput, hother,
      contrast (fun _ _ => Text.shown_inj) hne, hmessage⟩
  · intro finding hfinding
    obtain ⟨hmem, hdefect⟩ := List.mem_filter.1 hfinding
    obtain ⟨fixture, output, hfixture, houtput, hne, hmessage⟩ :=
      hgenuine.mismatch hmem (of_decide_eq_true hdefect)
    exact ⟨fixture, output, _, _, hfixture, houtput, contrast (fun _ _ => Text.shown_inj) hne,
      hmessage⟩

/-- Two compilers whose programs print one octet each, neither of which is a text, where a third
    such octet is expected. -/
def illegible : Matrix where
  settings := { artifactDir := ⟨[]⟩ }
  chain := twoCompilers
  fixtures := [⟨⟨"a"⟩, .ofText "a.c", [0xFD]⟩]
  jobs := 1

def illegibleRun : Run Rehearsal.Script :=
  illegible.follow (Rehearsal.runner illegible.settings)
    { files := {}
      memory := { parts := [prints .first 0xFE, prints secondGeneration 0xFF] } }
    (oneByOne 2)
where
  prints (generation : Generation) (octet : UInt8) : Rehearsal.Part :=
    ⟨generation, ⟨"a"⟩, 0,
      [none, none, some { reply := .ended (.exited (some 0)) (some [octet]) [] 0 false }]⟩

/-- A difference need not be visible: where nothing is a text, all outputs look alike. -/
theorem illegible_looks_alike :
    (∃ comparison ∈ (illegible.reportOf illegibleRun).comparisons,
      comparison.verdict = .diverged "\uFFFD" "\uFFFD") ∧
    ⟨.equivalenceViolation, ⟨"a"⟩, secondGeneration,
      "stage1 printed `\uFFFD` but stage2 printed `\uFFFD`"⟩ ∈
        (illegible.reportOf illegibleRun).findings ∧
    ⟨.outputMismatch, ⟨"a"⟩, .first, "expected `\uFFFD` but got `\uFFFD`"⟩ ∈
      (illegible.reportOf illegibleRun).findings := by
  refine ⟨by decide +kernel, mem_findings_assemble.2 (.inr ?_), mem_findings_assemble.2 (.inl ?_)⟩
  · decide +kernel
  · decide +kernel

end BootChain.Matrix
