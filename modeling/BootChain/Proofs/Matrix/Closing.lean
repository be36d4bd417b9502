import Mathlib.Tactic.ByContra
import BootChain.Matrix.Schedule
import BootChain.Proofs.Report.Status

namespace BootChain

namespace Report

variable {chain : Chain} {fixtures : List Fixture} {arrivals : List Arrival} {cancelled : Bool}
  {report : Report}

theorem isClean_iff :
    report.isClean = true ↔ report.cancelled = false ∧ report.findings = [] := by
  rw [isClean, Bool.and_eq_true, Bool.not_eq_true', List.isEmpty_iff]

/-- A run that has evaluated nothing has nothing to find fault with. -/
theorem evaluates_of_findings
    (hfindings : (assemble chain fixtures arrivals cancelled).findings ≠ []) :
    (assemble chain fixtures arrivals cancelled).Evaluates := by
  rw [Ne, findings_assemble_eq_nil_iff] at hfindings
  by_contra hnone
  refine hfindings fun id generation trial matchesExpected hcell => ?_
  exact absurd ⟨id, generation, trial, matchesExpected, hcell⟩ hnone

/-- A run without findings and cancellation is the one that passes, or the one that has evaluated
    nothing. -/
theorem isClean_iff_status :
    report.isClean = true ↔
      report.status = .pass ∨ (report.status = .empty ∧ report.findings = []) := by
  rw [isClean_iff, status_eq_pass_iff, status_eq_empty_iff]
  by_cases hevaluates : report.Evaluates <;> simp [hevaluates]

end Report

/-- How far the outcome in an event agrees with the verdict on a report. -/
structure Event.Concurs (event : Event) (report : Report) : Prop where
  /-- It is clean if the run passes, and also if the run came to its end without evaluating
      anything. -/
  clean_iff : event.outcome = some "clean" ↔
    report.status.exitCode = 0 ∨ (report.cancelled = false ∧ ¬ report.Evaluates)
  findings_of_ne_nil : report.findings ≠ [] → event.outcome = some "findings"
  /-- A run that was not cancelled has findings just if it says so, and then it fails. -/
  findings_iff : report.cancelled = false →
    (event.outcome = some "findings" ↔ report.findings ≠ [])
  findings_iff_exitCode : report.cancelled = false →
    (event.outcome = some "findings" ↔ report.status.exitCode = 1)

namespace Matrix

variable {ρ : Type}

theorem outcome_closing_eq_clean_iff {report : Report} :
    (closing report).outcome = some "clean" ↔ report.isClean = true := by
  change some (if report.isClean then "clean" else "findings") = some "clean" ↔ _
  cases report.isClean <;> decide

theorem outcome_closing_eq_findings_iff {report : Report} :
    (closing report).outcome = some "findings" ↔
      ¬ (report.cancelled = false ∧ report.findings = []) := by
  rw [← Report.isClean_iff]
  change some (if report.isClean then "clean" else "findings") = some "findings" ↔ _
  cases report.isClean <;> decide

/-- The last event of a run and the exit code of its report agree, except that a run that has
    evaluated nothing is clean to the one and not to the other. -/
theorem concurs_conclude (matrix : Matrix) (runner : Stage → Fixture → Runner ρ) (world : World ρ)
    (schedule : List Action) :
    let run := matrix.follow runner world schedule
    ∃ last, (matrix.conclude run).2.events = run.world.events ++ [last] ∧
      last.Concurs (matrix.conclude run).1 := by
  intro run
  refine ⟨closing (matrix.reportOf run), rfl, ?_⟩
  change (closing (matrix.reportOf run)).Concurs (matrix.reportOf run)
  have hevaluates : (matrix.reportOf run).findings ≠ [] → (matrix.reportOf run).Evaluates :=
    Report.evaluates_of_findings
  generalize matrix.reportOf run = report at hevaluates
  refine ⟨?_, fun hfindings => ?_, fun hgoing => ?_, fun hgoing => ?_⟩
  · rw [outcome_closing_eq_clean_iff, Report.isClean_iff_status, ← Report.status_eq_empty_iff]
    have hnone : report.status = .empty → report.findings = [] := fun hempty =>
      not_not.1 fun hfindings => (Report.status_eq_empty_iff.1 hempty).2 (hevaluates hfindings)
    rw [and_iff_left_of_imp hnone]
    exact or_congr (Status.exitCode_inj (b := .pass)).symm Iff.rfl
  · exact outcome_closing_eq_findings_iff.2 fun hclean => hfindings hclean.2
  · exact outcome_closing_eq_findings_iff.trans (not_congr (and_iff_right hgoing))
  · rw [outcome_closing_eq_findings_iff, and_iff_right hgoing]
    have hfail : report.status.exitCode = 1 ↔ report.status = .fail :=
      Status.exitCode_inj (b := .fail)
    rw [hfail, Report.status_eq_fail_iff, and_iff_right hgoing]
    exact (and_iff_right_of_imp hevaluates).symm

/-- A compiler that is not there is all that this matrix has. -/
def unbuilt : Matrix where
  settings := { artifactDir := ⟨[]⟩ }
  chain := Chain.empty.addMissing .first (.ofText "c")
  fixtures := [⟨⟨"a"⟩, .ofText "a.c", []⟩]
  jobs := 1

/-- A run that evaluates nothing is clean by its last event and not by its exit code, and once it is
    cancelled it has findings by its last event and none in its report. -/
theorem not_concurs_unbuilt :
    let finished := unbuilt.follow (fun _ _ _ _ world => (.error (.lost "" ""), world))
      { files := {}, memory := () } []
    let cancelled := unbuilt.follow (fun _ _ _ _ world => (.error (.lost "" ""), world))
      { files := {}, memory := () } [.raise]
    (finished.isOver = true ∧ (closing (unbuilt.reportOf finished)).outcome = some "clean" ∧
      (unbuilt.reportOf finished).status.exitCode = 2) ∧
    cancelled.isOver = true ∧ (closing (unbuilt.reportOf cancelled)).outcome = some "findings" ∧
      (unbuilt.reportOf cancelled).findings = [] := by
  refine ⟨⟨?_, ?_, ?_⟩, ?_, ?_, ?_⟩ <;> decide +kernel

end Matrix

end BootChain
