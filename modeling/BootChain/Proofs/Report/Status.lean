import BootChain.Matrix
import BootChain.Proofs.Report.Cells
import BootChain.Report.Status

namespace BootChain

theorem Status.exitCode_inj {a b : Status} : a.exitCode = b.exitCode ↔ a = b := by
  cases a <;> cases b <;> simp [exitCode]

theorem Status.label_inj {a b : Status} : a.label = b.label ↔ a = b := by
  cases a <;> cases b <;> simp [label]

namespace Report

/-- Some trial was completed. -/
def Evaluates (report : Report) : Prop :=
  ∃ id generation trial matchesExpected,
    report.cell? id generation = some (.evaluated trial matchesExpected)

/-- Each trial that was completed met its expectation. -/
def AllMatch (report : Report) : Prop :=
  ∀ id generation trial matchesExpected,
    report.cell? id generation = some (.evaluated trial matchesExpected) → matchesExpected = true

theorem mem_allCells_iff {report : Report} {cell : Cell} :
    cell ∈ report.allCells ↔ ∃ id generation, report.cell? id generation = some cell := by
  simp only [allCells, SortedMap.values, List.mem_flatMap, List.mem_map, Prod.exists,
    exists_eq_right, cell?, Option.bind_eq_some_iff, SortedMap.get?_eq_some_iff]
  constructor
  · rintro ⟨row, ⟨id, hrow⟩, generation, hcell⟩
    exact ⟨id, generation, row, hrow, hcell⟩
  · rintro ⟨id, generation, row, hrow, hcell⟩
    exact ⟨row, ⟨id, hrow⟩, generation, hcell⟩

theorem evaluated_eq_zero_iff {report : Report} :
    report.tally.evaluated = 0 ↔ ¬ report.Evaluates := by
  rw [tally, List.countP_eq_zero]
  simp only [mem_allCells_iff]
  constructor
  · rintro hnone ⟨id, generation, trial, matchesExpected, hcell⟩
    exact hnone _ ⟨id, generation, hcell⟩ rfl
  · rintro hnone cell ⟨id, generation, hcell⟩
    cases cell with
    | notEvaluated path => exact Bool.false_ne_true
    | skipped => exact Bool.false_ne_true
    | evaluated trial matchesExpected =>
      exact absurd ⟨id, generation, trial, matchesExpected, hcell⟩ hnone

theorem isEmptyRun_iff {report : Report} :
    report.isEmptyRun = true ↔ report.cancelled = false ∧ ¬ report.Evaluates := by
  rw [isEmptyRun, Bool.and_eq_true, decide_eq_true_iff, evaluated_eq_zero_iff, Bool.not_eq_true']

theorem status_eq_cancelled_iff {report : Report} :
    report.status = .cancelled ↔ report.cancelled = true := by
  unfold status
  split
  next hcancelled => simp [hcancelled]
  next hgoing =>
    split
    · simp [hgoing]
    · split <;> simp [hgoing]

theorem status_eq_empty_iff {report : Report} :
    report.status = .empty ↔ report.cancelled = false ∧ ¬ report.Evaluates := by
  rw [← isEmptyRun_iff]
  unfold status
  split
  next hcancelled => simp [isEmptyRun, hcancelled]
  next =>
    split
    next hempty => simp [hempty]
    next hsome => split <;> simp [hsome]

/-- A run that has evaluated something passes or fails by its findings alone. -/
theorem status_of_evaluates {report : Report} (hgoing : report.cancelled = false)
    (hevaluates : report.Evaluates) :
    report.status = if report.findings = [] then .pass else .fail := by
  have hsome : report.isEmptyRun = false := by
    rw [← Bool.not_eq_true, isEmptyRun_iff]
    exact fun hempty => hempty.2 hevaluates
  simp [status, hgoing, hsome]

theorem status_eq_pass_iff {report : Report} : report.status = .pass ↔
    report.cancelled = false ∧ report.Evaluates ∧ report.findings = [] := by
  cases hcancelled : report.cancelled with
  | true => simp [status_eq_cancelled_iff.2 hcancelled]
  | false =>
    by_cases hevaluates : report.Evaluates
    · simp [status_of_evaluates hcancelled hevaluates, hevaluates]
    · simp [status_eq_empty_iff.2 ⟨hcancelled, hevaluates⟩, hevaluates]

theorem status_eq_fail_iff {report : Report} : report.status = .fail ↔
    report.cancelled = false ∧ report.Evaluates ∧ report.findings ≠ [] := by
  cases hcancelled : report.cancelled with
  | true => simp [status_eq_cancelled_iff.2 hcancelled]
  | false =>
    by_cases hevaluates : report.Evaluates
    · simp [status_of_evaluates hcancelled hevaluates, hevaluates]
    · simp [status_eq_empty_iff.2 ⟨hcancelled, hevaluates⟩, hevaluates]

variable {chain : Chain} {fixtures : List Fixture} {cells : SortedMap FixtureId Row}
  {id : FixtureId} {lower upper generation : Generation} {trial : Trial}

theorem mem_cellFindings_iff {finding : Finding} : finding ∈ cellFindings fixtures cells ↔
    ∃ id generation cell, cellAt? cells id generation = some cell ∧
      cellFinding? fixtures id generation cell = some finding := by
  simp only [cellFindings, List.mem_flatMap, List.mem_filterMap, Prod.exists, cellAt?,
    Option.bind_eq_some_iff, SortedMap.get?_eq_some_iff]
  constructor
  · rintro ⟨id, row, hrow, generation, cell, hcell, hfinding⟩
    exact ⟨id, generation, cell, ⟨row, hrow, hcell⟩, hfinding⟩
  · rintro ⟨id, generation, cell, ⟨row, hrow, hcell⟩, hfinding⟩
    exact ⟨id, row, hrow, generation, cell, hcell, hfinding⟩

/-- A trial that meets its expectation has printed what its fixture expects. -/
theorem isMatch_iff : isMatch fixtures id trial = true ↔ trial.succeeded = true ∧
    ∃ fixture, fixtureOf? fixtures id = some fixture ∧ trial.output? = some fixture.expected := by
  simp only [isMatch, Bool.and_eq_true, Option.any_eq_true, Fixture.accepts, decide_eq_true_iff]
  constructor
  · rintro ⟨hsucceeded, fixture, hfixture, output, houtput, rfl⟩
    exact ⟨hsucceeded, fixture, hfixture, houtput⟩
  · rintro ⟨hsucceeded, fixture, hfixture, houtput⟩
    exact ⟨hsucceeded, fixture, hfixture, _, houtput, rfl⟩

theorem failure_eq_none_of_succeeded (hsucceeded : trial.succeeded = true) :
    trial.failure = none := by
  rw [Trial.succeeded, Bool.and_eq_true, Option.isNone_iff_eq_none] at hsucceeded
  exact hsucceeded.1

theorem cellFinding?_evaluated_eq_none_iff :
    cellFinding? fixtures id generation (.evaluated trial (isMatch fixtures id trial)) = none ↔
      isMatch fixtures id trial = true := by
  cases hmatch : isMatch fixtures id trial with
  | true =>
    have hfailure := failure_eq_none_of_succeeded (isMatch_iff.1 hmatch).1
    simp [cellFinding?, hfailure]
  | false =>
    cases hfailure : trial.failure <;> simp [cellFinding?, hfailure]

/-- Two outputs diverge only if both trials succeeded and printed different octets. -/
theorem of_isDiverged {lowerTrial upperTrial : Option Trial}
    (hdiverged : (compareTrials lower upper lowerTrial upperTrial).isDiverged = true) :
    ∃ first second, lowerTrial = some first ∧ upperTrial = some second ∧
      first.succeeded = true ∧ second.succeeded = true ∧ first.output? ≠ second.output? := by
  cases lowerTrial with
  | none => simp [compareTrials, incompleteReason?, Verdict.isDiverged] at hdiverged
  | some first =>
    cases hfirst : first.succeeded with
    | false => simp [compareTrials, incompleteReason?, hfirst, Verdict.isDiverged] at hdiverged
    | true =>
      cases upperTrial with
      | none =>
        simp [compareTrials, incompleteReason?, hfirst, Verdict.isDiverged] at hdiverged
      | some second =>
        cases hsecond : second.succeeded with
        | false =>
          simp [compareTrials, incompleteReason?, hfirst, hsecond, Verdict.isDiverged] at hdiverged
        | true =>
          refine ⟨first, second, rfl, rfl, hfirst, hsecond, fun heq => ?_⟩
          simp [compareTrials, incompleteReason?, hfirst, hsecond, heq,
            Verdict.isDiverged] at hdiverged

theorem cellAt?_of_trial? {row : Row} (hrow : (id, row) ∈ cells.entries)
    (htrial : (row.get? generation).bind Cell.trial? = some trial) :
    ∃ matchesExpected, cellAt? cells id generation = some (.evaluated trial matchesExpected) := by
  obtain ⟨cell, hcell, htrial⟩ := Option.bind_eq_some_iff.1 htrial
  rw [cellAt?, SortedMap.get?_eq_some_iff.2 hrow, Option.bind_some, hcell]
  cases cell with
  | notEvaluated path => cases htrial
  | skipped => cases htrial
  | evaluated found matchesExpected =>
    cases htrial
    exact ⟨matchesExpected, rfl⟩

/-- A trial that succeeded without meeting its expectation is found as an output mismatch. -/
theorem mismatch_mem_cellFindings (hjudged : Judged fixtures cells) {matchesExpected : Bool}
    (hcell : cellAt? cells id generation = some (.evaluated trial matchesExpected))
    (hsucceeded : trial.succeeded = true) (hmismatch : isMatch fixtures id trial = false) :
    ∃ finding ∈ cellFindings fixtures cells, finding.defect = .outputMismatch ∧
      finding.fixture = id ∧ finding.generation = generation := by
  have hflag : matchesExpected = false := (hjudged _ _ _ _ hcell).trans hmismatch
  have hfailure := failure_eq_none_of_succeeded hsucceeded
  have hfound : ∃ message, cellFinding? fixtures id generation (.evaluated trial matchesExpected) =
      some ⟨.outputMismatch, id, generation, message⟩ := by
    simp [cellFinding?, hfailure, hflag]
  obtain ⟨message, hfound⟩ := hfound
  have hmem := mem_cellFindings_iff.2 ⟨id, generation, _, hcell, hfound⟩
  exact ⟨_, hmem, rfl, rfl, rfl⟩

/-- Different outputs cannot both be the expected one, so that one side at least of a divergence
    is found as an output mismatch. -/
theorem mismatch_of_isDiverged (hjudged : Judged fixtures cells) {comparison : Comparison}
    (hmem : comparison ∈ comparisonsOf chain cells)
    (hdiverged : comparison.verdict.isDiverged = true) :
    ∃ finding ∈ cellFindings fixtures cells, finding.defect = .outputMismatch ∧
      finding.fixture = comparison.fixture ∧
      (finding.generation = comparison.lower ∨ finding.generation = comparison.upper) := by
  simp only [comparisonsOf, List.mem_flatMap, List.mem_map, Prod.exists] at hmem
  obtain ⟨lower, upper, -, id, row, hrow, rfl⟩ := hmem
  obtain ⟨first, second, hfirst, hsecond, hfirstOk, hsecondOk, hne⟩ := of_isDiverged hdiverged
  obtain ⟨firstFlag, hfirstCell⟩ := cellAt?_of_trial? hrow hfirst
  obtain ⟨secondFlag, hsecondCell⟩ := cellAt?_of_trial? hrow hsecond
  cases hfirstMatch : isMatch fixtures id first with
  | false =>
    obtain ⟨finding, hfinding, hdefect, hfixture, hgeneration⟩ :=
      mismatch_mem_cellFindings hjudged hfirstCell hfirstOk hfirstMatch
    exact ⟨finding, hfinding, hdefect, hfixture, .inl hgeneration⟩
  | true =>
    cases hsecondMatch : isMatch fixtures id second with
    | false =>
      obtain ⟨finding, hfinding, hdefect, hfixture, hgeneration⟩ :=
        mismatch_mem_cellFindings hjudged hsecondCell hsecondOk hsecondMatch
      exact ⟨finding, hfinding, hdefect, hfixture, .inr hgeneration⟩
    | true =>
      obtain ⟨-, fixture, hfixture, hfirstOutput⟩ := isMatch_iff.1 hfirstMatch
      obtain ⟨-, other, hother, hsecondOutput⟩ := isMatch_iff.1 hsecondMatch
      cases hfixture.symm.trans hother
      exact absurd (hfirstOutput.trans hsecondOutput.symm) hne

theorem mem_findings_assemble {arrivals : List Arrival} {cancelled : Bool} {finding : Finding} :
    finding ∈ (assemble chain fixtures arrivals cancelled).findings ↔
      finding ∈ cellFindings fixtures (cellsOf chain fixtures arrivals) ∨
      finding ∈ (comparisonsOf chain (cellsOf chain fixtures arrivals)).filterMap violation? := by
  rw [assemble, List.mem_mergeSort, List.mem_append]

/-- There are findings exactly if some trial did not meet its expectation. -/
theorem findings_assemble_eq_nil_iff {arrivals : List Arrival} {cancelled : Bool} :
    (assemble chain fixtures arrivals cancelled).findings = [] ↔
      (assemble chain fixtures arrivals cancelled).AllMatch := by
  have hjudged : Judged fixtures (cellsOf chain fixtures arrivals) := judged_cellsOf arrivals
  rw [List.eq_nil_iff_forall_not_mem]
  constructor
  · intro hnone id generation trial matchesExpected hcell
    have hflag := hjudged _ _ _ _ hcell
    rw [hflag, ← cellFinding?_evaluated_eq_none_iff, Option.eq_none_iff_forall_ne_some]
    intro finding hfinding
    refine hnone finding (mem_findings_assemble.2 (.inl (mem_cellFindings_iff.2 ?_)))
    exact ⟨id, generation, _, hcell, hflag ▸ hfinding⟩
  · intro hmatch
    have hcells : ∀ finding, finding ∉ cellFindings fixtures (cellsOf chain fixtures arrivals) := by
      intro finding hfinding
      obtain ⟨id, generation, cell, hcell, hfinding⟩ := mem_cellFindings_iff.1 hfinding
      cases cell with
      | notEvaluated path => cases hfinding
      | skipped => cases hfinding
      | evaluated trial matchesExpected =>
        have hflag := hjudged _ _ _ _ hcell
        have hmet := hflag.symm.trans (hmatch _ _ _ _ hcell)
        rw [hflag, cellFinding?_evaluated_eq_none_iff.2 hmet] at hfinding
        cases hfinding
    intro finding hfinding
    rcases mem_findings_assemble.1 hfinding with hfinding | hfinding
    · exact hcells finding hfinding
    · obtain ⟨comparison, hmem, hviolation⟩ := List.mem_filterMap.1 hfinding
      have hdiverged : comparison.verdict.isDiverged = true := by
        unfold violation? at hviolation
        split at hviolation
        next hverdict =>
          rw [hverdict]
          rfl
        next => cases hviolation
      obtain ⟨mismatch, hmismatch, -⟩ := mismatch_of_isDiverged hjudged hmem hdiverged
      exact hcells mismatch hmismatch

/-- The exit code and the verdict of a run, whatever its jobs came to and in whatever order they
    were handed in. Only the cells count: a divergence never fails a run on its own, since it comes with
    an output mismatch on one of its two sides. -/
theorem verdict_report (matrix : Matrix) (arrivals : List Arrival) (cancelled : Bool) :
    let report := matrix.report arrivals cancelled
    ((report.status.exitCode = 130 ↔ report.cancelled = true) ∧
      (report.status.label = "cancelled" ↔ report.cancelled = true)) ∧
    ((report.status.exitCode = 2 ↔ report.cancelled = false ∧ ¬ report.Evaluates) ∧
      (report.status.label = "empty" ↔ report.cancelled = false ∧ ¬ report.Evaluates)) ∧
    ((report.status.exitCode = 0 ↔
        report.cancelled = false ∧ report.Evaluates ∧ report.AllMatch) ∧
      (report.status.label = "pass" ↔
        report.cancelled = false ∧ report.Evaluates ∧ report.AllMatch)) ∧
    ((report.status.exitCode = 1 ↔
        report.cancelled = false ∧ report.Evaluates ∧ ¬ report.AllMatch) ∧
      (report.status.label = "fail" ↔
        report.cancelled = false ∧ report.Evaluates ∧ ¬ report.AllMatch)) ∧
    ∀ comparison ∈ report.comparisons, comparison.verdict.isDiverged = true →
      ∃ finding ∈ report.findings, finding.defect = .outputMismatch ∧
        finding.fixture = comparison.fixture ∧
        (finding.generation = comparison.lower ∨ finding.generation = comparison.upper) := by
  intro report
  have hfindings : report.findings = [] ↔ report.AllMatch := findings_assemble_eq_nil_iff
  have hpass : report.status = .pass ↔
      report.cancelled = false ∧ report.Evaluates ∧ report.AllMatch := by
    rw [← hfindings, status_eq_pass_iff]
  have hfail : report.status = .fail ↔
      report.cancelled = false ∧ report.Evaluates ∧ ¬ report.AllMatch := by
    rw [← hfindings, status_eq_fail_iff]
  refine ⟨⟨?_, ?_⟩, ⟨?_, ?_⟩, ⟨?_, ?_⟩, ⟨?_, ?_⟩, ?_⟩
  · exact (Status.exitCode_inj (b := .cancelled)).trans status_eq_cancelled_iff
  · exact (Status.label_inj (b := .cancelled)).trans status_eq_cancelled_iff
  · exact (Status.exitCode_inj (b := .empty)).trans status_eq_empty_iff
  · exact (Status.label_inj (b := .empty)).trans status_eq_empty_iff
  · exact (Status.exitCode_inj (b := .pass)).trans hpass
  · exact (Status.label_inj (b := .pass)).trans hpass
  · exact (Status.exitCode_inj (b := .fail)).trans hfail
  · exact (Status.label_inj (b := .fail)).trans hfail
  · intro comparison hmem hdiverged
    obtain ⟨finding, hfinding, hmismatch⟩ :=
      mismatch_of_isDiverged (judged_cellsOf arrivals) hmem hdiverged
    exact ⟨finding, mem_findings_assemble.2 (.inl hfinding), hmismatch⟩

end Report

end BootChain
