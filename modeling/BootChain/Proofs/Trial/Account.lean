import BootChain.Proofs.Trial.Course

namespace BootChain

/-- True of the requests that a step of a trial starts with: the look at the cancellation, and the
    call of its program. -/
@[simp]
def Request.startsStep : Request → Bool
  | .isCancelled => true
  | .call _ _ => true
  | _ => false

namespace Trial

variable {σ : Type}

/-- A call that was made in a trial, with its answer and the surroundings right after it. -/
structure Attempt (σ : Type) where
  command : Command
  limitMs : Nat
  answer : Except CallError Capture
  after : σ

def attemptOf? : Exchange σ → Option (Attempt σ)
  | ⟨.call command limitMs, answer, after⟩ => some ⟨command, limitMs, answer, after⟩
  | _ => none

/-- The calls among some exchanges, in order. -/
def attempts (exchanges : List (Exchange σ)) : List (Attempt σ) :=
  exchanges.filterMap attemptOf?

@[simp]
theorem attempts_append (first second : List (Exchange σ)) :
    attempts (first ++ second) = attempts first ++ attempts second :=
  List.filterMap_append

/-- None of the exchanges starts a step. -/
def Aside (exchanges : List (Exchange σ)) : Prop :=
  ∀ exchange ∈ exchanges, exchange.request.startsStep = false

@[simp]
theorem aside_nil : Aside ([] : List (Exchange σ)) := nofun

@[simp]
theorem aside_append_iff {first second : List (Exchange σ)} :
    Aside (first ++ second) ↔ Aside first ∧ Aside second :=
  List.forall_mem_append

theorem Aside.attempts_eq_nil {exchanges : List (Exchange σ)} (haside : Aside exchanges) :
    attempts exchanges = [] := by
  rw [attempts, List.filterMap_eq_nil_iff]
  rintro ⟨request, answer, after⟩ hmem
  have hstarts : request.startsStep = false := haside _ hmem
  cases request with
  | call command limitMs => cases hstarts
  | _ => rfl

theorem exists_call_of_attempts_ne_nil {exchanges : List (Exchange σ)}
    (hne : attempts exchanges ≠ []) : ∃ command limitMs answer after,
      (⟨.call command limitMs, answer, after⟩ : Exchange σ) ∈ exchanges := by
  obtain ⟨attempt, hattempt⟩ := List.exists_mem_of_ne_nil _ hne
  obtain ⟨⟨request, answer, after⟩, hmem, hcall⟩ := List.mem_filterMap.1 hattempt
  cases request with
  | call command limitMs => exact ⟨command, limitMs, answer, after, hmem⟩
  | _ => cases hcall

theorem Aside.not_mem {exchanges : List (Exchange σ)} (haside : Aside exchanges) (seen : σ) :
    ⟨.isCancelled, true, seen⟩ ∉ exchanges := fun hmem => nomatch haside _ hmem

namespace Attempt

/-- The record of the call for its step, if a program was captured. -/
def record? (attempt : Attempt σ) (step : Step) : Option StepRecord :=
  attempt.answer.toOption.map fun capture => ⟨step, capture⟩

/-- The call started a program that exited with code zero. -/
def ExitsZero (attempt : Attempt σ) : Prop :=
  ∃ capture, attempt.answer = .ok capture ∧ capture.ending = .exited (some 0)

/-- A call gets its step done if its program exits with code zero and leaves a regular file in the
    place of the step's product. -/
def Passes (isFile : σ → Path → Bool) (planned : Planned) (attempt : Attempt σ) : Prop :=
  ∃ capture, attempt.answer = .ok capture ∧ capture.ending = .exited (some 0) ∧
    ∀ product ∈ planned.product, isFile attempt.after product = true

/-- The ways in which a call can fail to get its step done, each with the failure that it stands
    for. The error output is that of the captured program, if there was one. -/
inductive Fault (isFile : σ → Path → Bool) (planned : Planned) (attempt : Attempt σ) :
    Failure → Prop
  | notStarted {line message : String} {cause : StartCause}
    (hanswer : attempt.answer = .error (.start line cause message)) :
    Fault isFile planned attempt ⟨planned.step, .notStarted cause.label message, line, ""⟩
  | lost {line message : String} (hanswer : attempt.answer = .error (.lost line message)) :
    Fault isFile planned attempt ⟨planned.step, .lostProgram message, line, ""⟩
  | failedExit {capture : Capture} {code : Option Int} (hanswer : attempt.answer = .ok capture)
    (hending : capture.ending = .exited code) (hcode : code ≠ some 0) :
    Fault isFile planned attempt
      ⟨planned.step, .failedExit code, capture.line, capture.stderrText⟩
  | timedOut {capture : Capture} {limitMs : Nat} (hanswer : attempt.answer = .ok capture)
    (hending : capture.ending = .timedOut limitMs) :
    Fault isFile planned attempt
      ⟨planned.step, .timedOut limitMs, capture.line, capture.stderrText⟩
  | cancelled {capture : Capture} (hanswer : attempt.answer = .ok capture)
    (hending : capture.ending = .cancelled) :
    Fault isFile planned attempt ⟨planned.step, .cancelled, capture.line, capture.stderrText⟩
  | unwritten {capture : Capture} {product : Path} (hanswer : attempt.answer = .ok capture)
    (hending : capture.ending = .exited (some 0)) (hproduct : planned.product = some product)
    (hmissing : isFile attempt.after product = false) :
    Fault isFile planned attempt
      ⟨planned.step, .notWritten product, planned.command.line, capture.stderrText⟩

variable {isFile : σ → Path → Bool} {planned : Planned} {attempt : Attempt σ} {failure : Failure}

theorem passes_iff : attempt.Passes isFile planned ↔
    attempt.ExitsZero ∧ ∀ product ∈ planned.product, isFile attempt.after product = true := by
  constructor
  · rintro ⟨capture, hanswer, hending, hproduct⟩
    exact ⟨⟨capture, hanswer, hending⟩, hproduct⟩
  · rintro ⟨⟨capture, hanswer, hending⟩, hproduct⟩
    exact ⟨capture, hanswer, hending, hproduct⟩

theorem Fault.not_passes (hfault : attempt.Fault isFile planned failure) :
    ¬ attempt.Passes isFile planned := by
  rintro ⟨capture, hok, hzero, hwritten⟩
  cases hfault with
  | notStarted hanswer => simp [hanswer] at hok
  | lost hanswer => simp [hanswer] at hok
  | failedExit hanswer hending hcode =>
    cases hok.symm.trans hanswer
    exact hcode (Ending.exited.inj (hending.symm.trans hzero))
  | timedOut hanswer hending =>
    cases hok.symm.trans hanswer
    cases hending.symm.trans hzero
  | cancelled hanswer hending =>
    cases hok.symm.trans hanswer
    cases hending.symm.trans hzero
  | unwritten hanswer _ hproduct hmissing =>
    have hfile := hwritten _ hproduct
    rw [hmissing] at hfile
    cases hfile

/-- The answer to a call settles what it failed by. -/
theorem Fault.unique {other : Failure} (hfault : attempt.Fault isFile planned failure)
    (hother : attempt.Fault isFile planned other) : failure = other := by
  cases hfault <;> cases hother <;> simp_all

theorem Fault.step_eq (hfault : attempt.Fault isFile planned failure) :
    failure.step = planned.step := by
  cases hfault <;> rfl

@[simp]
theorem record?_of_error {e : CallError} (hanswer : attempt.answer = .error e) (step : Step) :
    attempt.record? step = none := by
  rw [record?, hanswer]
  rfl

@[simp]
theorem record?_of_ok {capture : Capture} (hanswer : attempt.answer = .ok capture) (step : Step) :
    attempt.record? step = some ⟨step, capture⟩ := by
  rw [record?, hanswer]
  rfl

theorem step_of_record? {step : Step} {record : StepRecord}
    (hrecord : attempt.record? step = some record) : record.step = step := by
  obtain ⟨capture, _, rfl⟩ := Option.map_eq_some_iff.1 hrecord
  rfl

/-- What a failure quotes as error output is that of the call's record, or nothing. -/
theorem Fault.stderr_eq (hfault : attempt.Fault isFile planned failure) (step : Step) :
    failure.stderr = ((attempt.record? step).map (·.capture.stderrText)).getD "" := by
  cases hfault with
  | notStarted hanswer => rw [record?_of_error hanswer]; rfl
  | lost hanswer => rw [record?_of_error hanswer]; rfl
  | failedExit hanswer => rw [record?_of_ok hanswer]; rfl
  | timedOut hanswer => rw [record?_of_ok hanswer]; rfl
  | cancelled hanswer => rw [record?_of_ok hanswer]; rfl
  | unwritten hanswer => rw [record?_of_ok hanswer]; rfl

theorem fault_of_callError {e : CallError} (hanswer : attempt.answer = .error e) :
    attempt.Fault isFile planned (failureOfCallError planned.step e) := by
  cases e with
  | start line cause message => exact .notStarted hanswer
  | lost line message => exact .lost hanswer

theorem fault_of_cause {capture : Capture} {cause : Cause} (hanswer : attempt.answer = .ok capture)
    (hcause : causeOfEnding capture.ending = some cause) :
    attempt.Fault isFile planned ⟨planned.step, cause, capture.line, capture.stderrText⟩ := by
  cases hending : capture.ending with
  | exited code =>
    have hcode : code ≠ some 0 := by
      rintro rfl
      simp [hending, causeOfEnding] at hcause
    simp only [hending, causeOfEnding, Option.some.injEq] at hcause
    cases hcause
    exact .failedExit hanswer hending hcode
  | timedOut limitMs =>
    simp only [hending, causeOfEnding, Option.some.injEq] at hcause
    cases hcause
    exact .timedOut hanswer hending
  | cancelled =>
    simp only [hending, causeOfEnding, Option.some.injEq] at hcause
    cases hcause
    exact .cancelled hanswer hending

end Attempt

theorem exited_zero_of_causeOfEnding {ending : Ending} (hnone : causeOfEnding ending = none) :
    ending = .exited (some 0) := by
  fun_cases causeOfEnding ending <;> simp_all [causeOfEnding]

/-- The one call of a step, made as planned right after a look that saw no cancellation. -/
inductive Called (settings : Settings) (planned : Planned) : List (Exchange σ) → Attempt σ → Prop
  | intro {seen after : σ} {answer : Except CallError Capture} {rest : List (Exchange σ)}
    (haside : Aside rest) :
    Called settings planned
      (⟨.isCancelled, false, seen⟩ :: ⟨.call planned.command settings.limitMs, answer, after⟩ :: rest)
      ⟨planned.command, settings.limitMs, answer, after⟩

namespace Called

variable {settings : Settings} {planned : Planned} {exchanges : List (Exchange σ)}
  {attempt : Attempt σ}

theorem attempts_eq (hcalled : Called settings planned exchanges attempt) :
    attempts exchanges = [attempt] := by
  obtain ⟨haside⟩ := hcalled
  exact congrArg (_ :: ·) haside.attempts_eq_nil

theorem command_eq (hcalled : Called settings planned exchanges attempt) :
    attempt.command = planned.command := by
  cases hcalled
  rfl

theorem limitMs_eq (hcalled : Called settings planned exchanges attempt) :
    attempt.limitMs = settings.limitMs := by
  cases hcalled
  rfl

theorem not_mem (hcalled : Called settings planned exchanges attempt) (seen : σ) :
    ⟨.isCancelled, true, seen⟩ ∉ exchanges := by
  obtain ⟨haside⟩ := hcalled
  simp [haside.not_mem]

end Called

/-- What a step comes to: cancellation is seen before it, or it is called once and then passes or
    fails by that call. -/
inductive StepAccount (isFile : σ → Path → Bool) (settings : Settings) (planned : Planned) :
    List (Exchange σ) → Option StepRecord → Option Failure → Prop
  | cancelled {seen : σ} :
    StepAccount isFile settings planned [⟨.isCancelled, true, seen⟩] none
      (some ⟨planned.step, .cancelled, planned.command.line, ""⟩)
  | passed {exchanges : List (Exchange σ)} {record : Option StepRecord} {attempt : Attempt σ}
    (hcalled : Called settings planned exchanges attempt)
    (hrecord : record = attempt.record? planned.step) (hpasses : attempt.Passes isFile planned) :
    StepAccount isFile settings planned exchanges record none
  | failed {exchanges : List (Exchange σ)} {record : Option StepRecord} {attempt : Attempt σ}
    {failure : Failure} (hcalled : Called settings planned exchanges attempt)
    (hrecord : record = attempt.record? planned.step)
    (hfault : attempt.Fault isFile planned failure) :
    StepAccount isFile settings planned exchanges record (some failure)

/-- The surroundings answer for a file as a look at their state does. -/
def Views (isFile : σ → Path → Bool) (handler : Job.Handler σ) : Prop :=
  ∀ file state, (handler (.isFile file) state).1 = isFile state file

theorem StepCourse.account {isFile : σ → Path → Bool} {handler : Job.Handler σ}
    {settings : Settings} {pair : Pair} {planned : Planned} {exchanges : List (Exchange σ)}
    {record : Option StepRecord} {failure : Option Failure} {state : σ}
    (hviews : Views isFile handler)
    (hcourse : StepCourse settings pair planned exchanges record failure)
    (hconsistent : Job.Consistent handler state exchanges) :
    StepAccount isFile settings planned exchanges record failure := by
  cases hcourse with
  | cancelled => exact .cancelled
  | uncalled =>
    exact .failed ⟨by simp [Aside]⟩ rfl (Attempt.fault_of_callError rfl)
  | ended hcause =>
    exact .failed ⟨by simp [Aside]⟩ rfl (Attempt.fault_of_cause rfl hcause)
  | @unwritten _ called _ _ capture product hending hproduct =>
    -- the look at the product comes right after the call, so that it is about the files of the call
    have hmissing : isFile called product = false := by
      rw [← hviews, hconsistent.2.2.1]
    exact .failed ⟨by simp [Aside]⟩ rfl
      (.unwritten rfl (exited_zero_of_causeOfEnding hending) hproduct hmissing)
  | @written _ called _ _ capture product hending hproduct =>
    have hwritten : isFile called product = true := by
      rw [← hviews, hconsistent.2.2.1]
    refine .passed ⟨by simp [Aside]⟩ rfl ⟨capture, rfl, exited_zero_of_causeOfEnding hending, ?_⟩
    intro file hfile
    cases hproduct.symm.trans hfile
    exact hwritten
  | @unchecked _ called _ capture hending hproduct =>
    refine .passed ⟨by simp [Aside]⟩ rfl ⟨capture, rfl, exited_zero_of_causeOfEnding hending, ?_⟩
    intro file hfile
    cases hproduct.symm.trans hfile

/-- The records of some calls, each for the step that it was made for: one for every call that
    captured a program. -/
def recordsOf (plan : List Planned) (calls : List (Attempt σ)) : List StepRecord :=
  (plan.zip calls).filterMap fun (planned, attempt) => attempt.record? planned.step

theorem recordsOf_eq (plan : List Planned) (calls : List (Attempt σ)) : recordsOf plan calls =
    ((plan.map (·.step)).zip calls).filterMap fun (step, attempt) => attempt.record? step := by
  rw [recordsOf, List.zip_map_left, List.filterMap_map]
  rfl

@[simp]
theorem recordsOf_nil (plan : List Planned) : recordsOf plan ([] : List (Attempt σ)) = [] := by
  rw [recordsOf, List.zip_nil_right]
  rfl

@[simp]
theorem recordsOf_cons (planned : Planned) (rest : List Planned) (attempt : Attempt σ)
    (calls : List (Attempt σ)) :
    recordsOf (planned :: rest) (attempt :: calls) =
      (attempt.record? planned.step).toList ++ recordsOf rest calls := by
  rw [recordsOf, List.zip_cons_cons]
  cases hrecord : attempt.record? planned.step <;> simp [hrecord, recordsOf]

/-- What the calls of a sequence of planned steps amount to: they were made as planned, each but the
    last passed, those that captured a program left a record, and nothing failed if all passed. -/
structure Account (isFile : σ → Path → Bool) (settings : Settings) (plan : List Planned)
    (calls : List (Attempt σ)) (records : List StepRecord) (failure : Option Failure) : Prop where
  commands_eq : calls.map (·.command) = (plan.map (·.command)).take calls.length
  limitMs_eq : ∀ attempt ∈ calls, attempt.limitMs = settings.limitMs
  earlier_passed : ∀ taken ∈ (plan.zip calls).dropLast, taken.2.Passes isFile taken.1
  records_eq : records = recordsOf plan calls
  failure_eq_none_iff : failure = none ↔
    calls.length = plan.length ∧ ∀ taken ∈ plan.zip calls, taken.2.Passes isFile taken.1

section

variable {isFile : σ → Path → Bool} {settings : Settings} {pair : Pair} {planned : Planned}
  {plan rest : List Planned} {exchanges first second : List (Exchange σ)}
  {record : Option StepRecord} {records : List StepRecord} {failure : Failure}
  {ending : Option Failure} {attempt : Attempt σ} {calls : List (Attempt σ)}

theorem Account.of_plan_nil : Account isFile settings [] [] [] none where
  commands_eq := rfl
  limitMs_eq _ hmem := nomatch hmem
  earlier_passed _ hmem := nomatch hmem
  records_eq := rfl
  failure_eq_none_iff := by simp

theorem Account.of_calls_nil :
    Account isFile settings (planned :: rest) [] [] (some failure) where
  commands_eq := rfl
  limitMs_eq _ hmem := nomatch hmem
  earlier_passed _ hmem := nomatch hmem
  records_eq := rfl
  failure_eq_none_iff := by simp

theorem Account.of_fault (hcalled : Called settings planned exchanges attempt)
    (hfault : attempt.Fault isFile planned failure) :
    Account isFile settings (planned :: rest) [attempt] (attempt.record? planned.step).toList
      (some failure) where
  commands_eq := by simp [hcalled.command_eq]
  limitMs_eq := by simp [hcalled.limitMs_eq]
  earlier_passed := by simp
  records_eq := by simp
  failure_eq_none_iff := by simp [hfault.not_passes]

theorem Account.cons (hcalled : Called settings planned exchanges attempt)
    (hpasses : attempt.Passes isFile planned)
    (haccount : Account isFile settings rest calls records ending) :
    Account isFile settings (planned :: rest) (attempt :: calls)
      ((attempt.record? planned.step).toList ++ records) ending where
  commands_eq := by simp [hcalled.command_eq, haccount.commands_eq]
  limitMs_eq := by simpa [hcalled.limitMs_eq] using haccount.limitMs_eq
  earlier_passed := by
    rw [List.zip_cons_cons]
    by_cases hnil : rest.zip calls = []
    · simp [hnil]
    · rw [List.dropLast_cons_of_ne_nil hnil]
      exact List.forall_mem_cons.2 ⟨hpasses, haccount.earlier_passed⟩
  records_eq := by rw [recordsOf_cons, haccount.records_eq]
  failure_eq_none_iff := by
    rw [haccount.failure_eq_none_iff]
    simp [hpasses]

/-- A sequence of steps comes to what the answers to its calls make of it. -/
theorem Course.account {handler : Job.Handler σ} {state : σ} (hviews : Views isFile handler)
    (hcourse : Course settings pair plan exchanges records ending)
    (hconsistent : Job.Consistent handler state exchanges) :
    Account isFile settings plan (attempts exchanges) records ending := by
  induction hcourse generalizing state with
  | finished => exact .of_plan_nil
  | stopped hstep =>
    cases hstep.account hviews hconsistent with
    | cancelled => exact .of_calls_nil
    | failed hcalled hrecord hfault =>
      rw [hcalled.attempts_eq, hrecord]
      exact .of_fault hcalled hfault
  | passed hstep hrest ih =>
    obtain ⟨between, hsecond⟩ := hconsistent.right
    cases hstep.account hviews hconsistent.left with
    | passed hcalled hrecord hpasses =>
      rw [attempts_append, hcalled.attempts_eq, hrecord]
      exact .cons hcalled hpasses (ih hsecond)

theorem find?_recordsOf_of_not_mem {step : Step} (hstep : step ∉ plan.map (·.step)) :
    (recordsOf plan calls).find? (fun record => record.step = step) = none := by
  rw [List.find?_eq_none]
  intro record hmem
  obtain ⟨⟨planned, attempt⟩, htaken, hrecord⟩ := List.mem_filterMap.1 hmem
  rw [decide_eq_true_iff, Attempt.step_of_record? hrecord]
  rintro rfl
  exact hstep (List.mem_map_of_mem (List.of_mem_zip htaken).1)

/-- In a plan whose steps differ, the record of a step is that of its call, if there is one. -/
theorem find?_recordsOf (hsteps : (plan.map (·.step)).Nodup) {index : Nat}
    (hplanned : plan[index]? = some planned) :
    (recordsOf plan calls).find? (fun record => record.step = planned.step) =
      calls[index]?.bind fun attempt => attempt.record? planned.step := by
  induction plan generalizing calls index with
  | nil => simp at hplanned
  | cons first rest ih =>
    rw [List.map_cons, List.nodup_cons] at hsteps
    cases calls with
    | nil => simp
    | cons attempt calls =>
      rw [recordsOf_cons, List.find?_append]
      cases index with
      | zero =>
        cases hplanned
        rw [find?_recordsOf_of_not_mem hsteps.1]
        cases hrecord : attempt.record? planned.step with
        | none => simp [hrecord]
        | some record => simp [hrecord, Attempt.step_of_record? hrecord]
      | succ index =>
        rw [List.getElem?_cons_succ] at hplanned
        have hne : first.step ≠ planned.step := fun heq =>
          hsteps.1 (heq ▸ List.mem_map_of_mem (List.mem_of_getElem? hplanned))
        rw [ih hsteps.2 hplanned]
        cases hrecord : attempt.record? first.step with
        | none => simp
        | some record => simp [Attempt.step_of_record? hrecord, hne]

end

end Trial

end BootChain
