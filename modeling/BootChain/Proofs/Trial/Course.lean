import BootChain.Proofs.Job.Transcript
import BootChain.Trial.Perform

namespace BootChain.Trial

variable {σ : Type}

/-- The ways in which a step that is to be taken can go, each with its exchanges, the record that it
    leaves and its failure. -/
inductive StepCourse (settings : Settings) (pair : Pair) (planned : Planned) :
    List (Exchange σ) → Option StepRecord → Option Failure → Prop
  | cancelled {seen : σ} :
    StepCourse settings pair planned [⟨.isCancelled, true, seen⟩] none
      (some ⟨planned.step, .cancelled, planned.command.line, ""⟩)
  | uncalled {seen called told : σ} {e : CallError} :
    StepCourse settings pair planned
      [⟨.isCancelled, false, seen⟩, ⟨.call planned.command settings.limitMs, .error e, called⟩,
        ⟨.emit (pair.stepFinished planned.step (failureOfCallError planned.step e).cause.label none),
          (), told⟩]
      none (some (failureOfCallError planned.step e))
  | ended {seen called told : σ} {capture : Capture} {cause : Cause}
    (hcause : causeOfEnding capture.ending = some cause) :
    StepCourse settings pair planned
      [⟨.isCancelled, false, seen⟩, ⟨.call planned.command settings.limitMs, .ok capture, called⟩,
        ⟨.emit (pair.stepFinished planned.step cause.label (some capture.elapsedMs)), (), told⟩]
      (some ⟨planned.step, capture⟩) (some ⟨planned.step, cause, capture.line, capture.stderrText⟩)
  | unwritten {seen called checked told : σ} {capture : Capture} {product : Path}
    (hending : causeOfEnding capture.ending = none) (hproduct : planned.product = some product) :
    StepCourse settings pair planned
      [⟨.isCancelled, false, seen⟩, ⟨.call planned.command settings.limitMs, .ok capture, called⟩,
        ⟨.isFile product, false, checked⟩,
        ⟨.emit (pair.stepFinished planned.step (Cause.notWritten product).label
          (some capture.elapsedMs)), (), told⟩]
      (some ⟨planned.step, capture⟩)
      (some ⟨planned.step, .notWritten product, planned.command.line, capture.stderrText⟩)
  | written {seen called checked told : σ} {capture : Capture} {product : Path}
    (hending : causeOfEnding capture.ending = none) (hproduct : planned.product = some product) :
    StepCourse settings pair planned
      [⟨.isCancelled, false, seen⟩, ⟨.call planned.command settings.limitMs, .ok capture, called⟩,
        ⟨.isFile product, true, checked⟩,
        ⟨.emit (pair.stepFinished planned.step "ok" (some capture.elapsedMs)), (), told⟩]
      (some ⟨planned.step, capture⟩) none
  | unchecked {seen called told : σ} {capture : Capture}
    (hending : causeOfEnding capture.ending = none) (hproduct : planned.product = none) :
    StepCourse settings pair planned
      [⟨.isCancelled, false, seen⟩, ⟨.call planned.command settings.limitMs, .ok capture, called⟩,
        ⟨.emit (pair.stepFinished planned.step "ok" (some capture.elapsedMs)), (), told⟩]
      (some ⟨planned.step, capture⟩) none

/-- Whatever the surroundings answer, a step goes in one of the ways that are listed. -/
theorem stepCourse_of_yields {settings : Settings} {pair : Pair} {planned : Planned}
    {exchanges : List (Exchange σ)} {record : Option StepRecord} {failure : Option Failure}
    (hyields : (takeStep settings pair planned).Yields exchanges (record, failure)) :
    StepCourse settings pair planned exchanges record failure := by
  rw [takeStep, Job.yields_request_bind_iff] at hyields
  obtain ⟨isCancelled, seen, rest, rfl, hyields⟩ := hyields
  cases isCancelled with
  | true =>
    obtain ⟨rfl, heq⟩ := hyields
    cases heq
    exact .cancelled
  | false =>
    simp only [Bool.false_eq_true, if_false] at hyields
    rw [Job.yields_request_bind_iff] at hyields
    obtain ⟨answer, called, rest, rfl, hyields⟩ := hyields
    cases answer with
    | error e =>
      rw [Job.yields_request_bind_iff] at hyields
      obtain ⟨_, told, rest, rfl, rfl, heq⟩ := hyields
      cases heq
      exact .uncalled
    | ok capture =>
      rw [Job.yields_bind_iff] at hyields
      obtain ⟨judged, last, verdict, rfl, hjudge, hyields⟩ := hyields
      rw [Job.yields_request_bind_iff] at hyields
      obtain ⟨_, told, rest, rfl, rfl, heq⟩ := hyields
      cases heq
      cases hcause : causeOfEnding capture.ending with
      | some cause =>
        rw [judge, hcause] at hjudge
        obtain ⟨rfl, rfl⟩ := hjudge
        exact .ended hcause
      | none =>
        rw [judge, hcause] at hjudge
        cases hproduct : planned.product with
        | none =>
          simp only [checkProduct, hproduct] at hjudge
          obtain ⟨rfl, rfl⟩ := hjudge
          exact .unchecked hcause hproduct
        | some product =>
          simp only [checkProduct, hproduct] at hjudge
          rw [Job.yields_request_bind_iff] at hjudge
          obtain ⟨isFile, checked, rest, rfl, hjudge⟩ := hjudge
          cases isFile with
          | true =>
            obtain ⟨rfl, rfl⟩ := hjudge
            exact .written hcause hproduct
          | false =>
            obtain ⟨rfl, rfl⟩ := hjudge
            exact .unwritten hcause hproduct

/-- The ways in which a sequence of steps can go: each step but the last leaves no failure, and a
    step that leaves one is the last that is taken. -/
inductive Course (settings : Settings) (pair : Pair) :
    List Planned → List (Exchange σ) → List StepRecord → Option Failure → Prop
  | finished : Course settings pair [] [] [] none
  | stopped {planned : Planned} {rest : List Planned} {exchanges : List (Exchange σ)}
    {record : Option StepRecord} {failure : Failure}
    (hstep : StepCourse settings pair planned exchanges record (some failure)) :
    Course settings pair (planned :: rest) exchanges record.toList (some failure)
  | passed {planned : Planned} {rest : List Planned} {first second : List (Exchange σ)}
    {record : Option StepRecord} {records : List StepRecord} {failure : Option Failure}
    (hstep : StepCourse settings pair planned first record none)
    (hrest : Course settings pair rest second records failure) :
    Course settings pair (planned :: rest) (first ++ second) (record.toList ++ records) failure

theorem course_of_yields {settings : Settings} {pair : Pair} {plan : List Planned}
    {exchanges : List (Exchange σ)} {records : List StepRecord} {failure : Option Failure}
    (hyields : (takeSteps settings pair plan).Yields exchanges (records, failure)) :
    Course settings pair plan exchanges records failure := by
  induction plan generalizing exchanges records failure with
  | nil =>
    obtain ⟨rfl, heq⟩ := hyields
    cases heq
    exact .finished
  | cons planned rest ih =>
    rw [takeSteps, Job.yields_bind_iff] at hyields
    obtain ⟨first, second, ⟨record, stop⟩, rfl, hstep, hyields⟩ := hyields
    have hfirst := stepCourse_of_yields hstep
    cases stop with
    | some stop =>
      obtain ⟨rfl, heq⟩ := hyields
      cases heq
      simpa using Course.stopped hfirst
    | none =>
      simp only [Job.yields_bind_iff] at hyields
      obtain ⟨second, last, ⟨later, failure⟩, rfl, hlater, rfl, heq⟩ := hyields
      cases heq
      simpa using Course.passed hfirst (ih hlater)

/-- The ways in which a trial can be driven: its artifacts cannot be prepared and no step is taken,
    or the steps are taken after that. -/
inductive Driven (settings : Settings) (pair : Pair) :
    List (Exchange σ) → List StepRecord → Option Failure → Prop
  | unprepared {exchanges : List (Exchange σ)} {e : IoError}
    (hprepare : (prepare settings pair).Yields exchanges (.error e)) :
    Driven settings pair exchanges []
      (some ⟨.compile, .artifactTrouble e.message, (pair.compileCommand settings).line, ""⟩)
  | prepared {first second : List (Exchange σ)} {records : List StepRecord}
    {failure : Option Failure} (hprepare : (prepare settings pair).Yields first (.ok ()))
    (hcourse : Course settings pair (pair.plan settings) second records failure) :
    Driven settings pair (first ++ second) records failure

theorem driven_of_yields {settings : Settings} {pair : Pair} {exchanges : List (Exchange σ)}
    {records : List StepRecord} {failure : Option Failure}
    (hyields : (drive settings pair).Yields exchanges (records, failure)) :
    Driven settings pair exchanges records failure := by
  rw [drive, Job.yields_bind_iff] at hyields
  obtain ⟨first, second, prepared, rfl, hprepare, hyields⟩ := hyields
  cases prepared with
  | error e =>
    obtain ⟨rfl, heq⟩ := hyields
    cases heq
    rw [List.append_nil]
    exact .unprepared hprepare
  | ok => exact .prepared hprepare (course_of_yields hyields)

end BootChain.Trial
