import BootChain.Proofs.Trial.Perform

namespace BootChain

namespace Job

variable {α : Type} {condition : α → Prop}

/-- Whatever answers a job gets, what it comes to meets a condition. -/
def Ensures (job : Job α) (condition : α → Prop) : Prop :=
  ∀ (exchanges : List (Exchange Unit)) (found : α), job.Yields exchanges found → condition found

theorem Ensures.of_done {result : α} (hensures : (done result).Ensures condition) :
    condition result :=
  hensures [] result ⟨rfl, rfl⟩

theorem Ensures.next {request : Request} {next : request.Answer → Job α}
    (hensures : (ask request next).Ensures condition) (answer : request.Answer) :
    (next answer).Ensures condition := by
  intro exchanges found hyields
  exact hensures (⟨request, answer, ()⟩ :: exchanges) found ⟨answer, (), exchanges, rfl, hyields⟩

end Job

namespace Trial

/-- What holds of each trial that was completed: it is about its own pair, and it has failed and
    gives no output, or it has not failed and gives the output of its program. -/
structure Completed (generation : Generation) (id : FixtureId) (trial : Trial) : Prop where
  generation_eq : trial.generation = generation
  fixture_eq : trial.fixture = id
  printed : trial.failure = none →
    ∃ output, trial.output? = some output ∧ trial.stdout = some (Utf8.lossy output)
  silent : trial.failure ≠ none → trial.stdout = none

namespace Completed

variable {generation : Generation} {id : FixtureId} {trial : Trial}

theorem succeeded_iff (hcompleted : Completed generation id trial) :
    trial.succeeded = true ↔ trial.failure = none := by
  rw [succeeded, Bool.and_eq_true, Option.isNone_iff_eq_none]
  constructor
  · exact And.left
  · intro hnone
    obtain ⟨output, -, hstdout⟩ := hcompleted.printed hnone
    exact ⟨hnone, by rw [hstdout]; rfl⟩

/-- A trial that succeeded gives the octets that its program printed. -/
theorem exists_output (hcompleted : Completed generation id trial)
    (hsucceeded : trial.succeeded = true) : ∃ output, trial.output? = some output := by
  obtain ⟨output, houtput, -⟩ := hcompleted.printed (hcompleted.succeeded_iff.1 hsucceeded)
  exact ⟨output, houtput⟩

end Completed

section

variable {σ : Type} {settings : Settings} {pair : Pair} {planned : Planned} {plan : List Planned}
  {exchanges : List (Exchange σ)} {record : Option StepRecord} {records : List StepRecord}

theorem StepCourse.exists_record
    (hcourse : StepCourse settings pair planned exchanges record none) :
    ∃ capture, record = some ⟨planned.step, capture⟩ := by
  cases hcourse with
  | written => exact ⟨_, rfl⟩
  | unchecked => exact ⟨_, rfl⟩

/-- If none of the planned steps fails, each of them leaves its record. -/
theorem Course.steps_eq {ending : Option Failure}
    (hcourse : Course settings pair plan exchanges records ending) (hnone : ending = none) :
    records.map (·.step) = plan.map (·.step) := by
  induction hcourse with
  | finished => rfl
  | stopped => cases hnone
  | passed hstep hrest ih =>
    obtain ⟨capture, rfl⟩ := hstep.exists_record
    simp [ih hnone]

/-- A trial that is driven to its end without a failure has the record of its program. -/
theorem Driven.exists_executed (hdriven : Driven settings pair exchanges records none) :
    ∃ record, records.find? (fun record => record.step = .execute) = some record := by
  cases hdriven with
  | prepared hprepare hcourse =>
    have hexecute : Step.execute ∈ records.map (·.step) := by
      rw [hcourse.steps_eq rfl]
      simp [Pair.plan]
    obtain ⟨record, hmem, hstep⟩ := List.mem_map.1 hexecute
    exact Option.isSome_iff_exists.1
      (List.find?_isSome.2 ⟨record, hmem, decide_eq_true hstep⟩)

end

/-- Whatever a trial's surroundings answer, what it comes to is complete. -/
theorem perform_ensures (settings : Settings) (stage : Stage) (fixture : Fixture) :
    (perform settings stage fixture).Ensures (Completed stage.generation fixture.id) := by
  intro exchanges trial hyields
  obtain ⟨driven, tail, records, failure, -, hdriven, -, rfl⟩ := perform_yields hyields
  refine ⟨rfl, rfl, fun hnone => ?_, fun hfailed => ?_⟩
  · cases (hnone : failure = none)
    obtain ⟨record, hrecord⟩ := hdriven.exists_executed
    refine ⟨record.capture.stdout, ?_, ?_⟩
    · simp [output?, succeeded, record?, finish, hrecord]
    · simp [finish, hrecord, Capture.stdoutText]
  · have hsome : failure.isSome = true := Option.isSome_iff_ne_none.2 hfailed
    simp [finish, hsome]

end Trial

end BootChain
