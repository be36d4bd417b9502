import BootChain.Proofs.Trial.Account

namespace BootChain

/-- True of the requests to make a directory or to remove a file. -/
def Request.changesFiles : Request → Bool
  | .createDirs _ => true
  | .removeFile _ => true
  | _ => false

namespace Trial

variable {σ : Type} {isFile : σ → Path → Bool} {handler : Job.Handler σ} {settings : Settings}
  {pair : Pair} {planned : Planned} {plan rest : List Planned} {attempt : Attempt σ}
  {exchanges first second before after tail : List (Exchange σ)} {exchange : Exchange σ}
  {records : List StepRecord} {ending : Option Failure} {failure other : Failure} {state seen : σ}

/-- An exchange among those of two sequences belongs to the first or to the second. -/
theorem split_cases (heq : first ++ second = before ++ exchange :: after) :
    (∃ between, first = before ++ exchange :: between ∧ after = between ++ second) ∨
      ∃ between, before = first ++ between ∧ second = between ++ exchange :: after := by
  obtain ⟨between, hbefore, hsecond⟩ | ⟨between, hfirst, hafter⟩ := List.append_eq_append_iff.1 heq
  · exact .inr ⟨between, hbefore, hsecond⟩
  · cases between with
    | nil => exact .inr ⟨[], by simpa using hfirst.symm, hafter.symm⟩
    | cons found between =>
      obtain ⟨rfl, hlater⟩ := List.cons.inj hafter
      exact .inl ⟨between, hfirst, hlater⟩

/-- The calls among some exchanges heed the cancellation. -/
structure Heeds (exchanges : List (Exchange σ)) : Prop where
  /-- Each call comes right after a look that saw no cancellation. -/
  looked : ∀ before command limitMs answer called after,
    exchanges = before ++ ⟨.call command limitMs, answer, called⟩ :: after →
    ∃ seen, before.getLast? = some ⟨.isCancelled, false, seen⟩
  /-- Nothing is called once cancellation is seen. -/
  idle : ∀ before seen after, exchanges = before ++ ⟨.isCancelled, true, seen⟩ :: after →
    attempts after = []

namespace Heeds

theorem of_aside (haside : Aside exchanges) : Heeds exchanges where
  looked before command limitMs answer called after heq := by
    cases haside ⟨.call command limitMs, answer, called⟩ (heq ▸ List.mem_append_cons_self)
  idle before seen after heq :=
    absurd (heq ▸ List.mem_append_cons_self) (haside.not_mem seen)

theorem of_cancelled : Heeds [(⟨.isCancelled, true, seen⟩ : Exchange σ)] where
  looked before command limitMs answer called after heq := by
    obtain ⟨-, hcall⟩ | ⟨-, hcall⟩ := List.append_eq_singleton_iff.1 heq.symm
    · cases (List.cons.inj hcall).1
    · cases hcall
  idle before seen after heq := by
    obtain ⟨-, hafter⟩ | ⟨-, hafter⟩ := List.append_eq_singleton_iff.1 heq.symm
    · rw [(List.cons.inj hafter).2]
      rfl
    · cases hafter

theorem of_called (hcalled : Called settings planned exchanges attempt) : Heeds exchanges where
  looked before command limitMs answer called after heq := by
    obtain ⟨haside⟩ := hcalled
    cases before with
    | nil => cases (List.cons.inj heq).1
    | cons look before =>
      obtain ⟨rfl, hcall⟩ := List.cons.inj heq
      cases before with
      | nil => exact ⟨_, rfl⟩
      | cons call before =>
        have hrest := (List.cons.inj hcall).2
        cases haside ⟨.call command limitMs, answer, called⟩ (hrest ▸ List.mem_append_cons_self)
  idle before seen after heq :=
    absurd (heq ▸ List.mem_append_cons_self) (hcalled.not_mem seen)

/-- A sequence of exchanges can go on as long as no cancellation was seen, and without calls
    after that. -/
theorem append (hfirst : Heeds first) (hsecond : Heeds second)
    (hnext : (∃ seen, ⟨.isCancelled, true, seen⟩ ∈ first) → attempts second = []) :
    Heeds (first ++ second) where
  looked before command limitMs answer called after heq := by
    obtain ⟨between, hsplit, -⟩ | ⟨between, rfl, hsplit⟩ := split_cases heq
    · exact hfirst.looked _ _ _ _ _ _ hsplit
    · obtain ⟨seen, hlook⟩ := hsecond.looked _ _ _ _ _ _ hsplit
      exact ⟨seen, by rw [List.getLast?_append, hlook, Option.some_or]⟩
  idle before seen after heq := by
    obtain ⟨between, hsplit, rfl⟩ | ⟨between, rfl, hsplit⟩ := split_cases heq
    · have hseen : ⟨.isCancelled, true, seen⟩ ∈ first := hsplit ▸ List.mem_append_cons_self
      rw [attempts_append, hfirst.idle _ _ _ hsplit, hnext ⟨seen, hseen⟩, List.nil_append]
    · exact hsecond.idle _ _ _ hsplit

end Heeds

/-- A step sees the cancellation and is not taken, or its program is called just once. -/
theorem StepCourse.seen_or_called {record : Option StepRecord}
    (hcourse : StepCourse settings pair planned exchanges record ending) :
    (∃ seen, exchanges = [⟨.isCancelled, true, seen⟩] ∧ record = none ∧
      ending = some ⟨planned.step, .cancelled, planned.command.line, ""⟩) ∨
    ∃ attempt, Called settings planned exchanges attempt ∧
      record = attempt.record? planned.step := by
  cases hcourse with
  | cancelled => exact .inl ⟨_, rfl, rfl, rfl⟩
  | _ => exact .inr ⟨_, ⟨by simp [Aside]⟩, rfl⟩

theorem Course.heeds (hcourse : Course settings pair plan exchanges records ending) :
    Heeds exchanges := by
  induction hcourse with
  | finished => exact .of_aside aside_nil
  | stopped hstep =>
    obtain ⟨seen, rfl, -⟩ | ⟨attempt, hcalled, -⟩ := hstep.seen_or_called
    · exact .of_cancelled
    · exact .of_called hcalled
  | passed hstep hrest ih =>
    obtain ⟨_, _, _, hfailure⟩ | ⟨attempt, hcalled, -⟩ := hstep.seen_or_called
    · cases hfailure
    · refine (Heeds.of_called hcalled).append ih ?_
      rintro ⟨seen, hseen⟩
      exact absurd hseen (hcalled.not_mem seen)

/-- A sequence of steps in which cancellation is seen fails by that at the step that comes next,
    and leaves the records of the calls before. -/
theorem Course.of_seen (hcourse : Course settings pair plan exchanges records ending)
    (heq : exchanges = before ++ ⟨.isCancelled, true, seen⟩ :: after) :
    ∃ planned, plan[(attempts before).length]? = some planned ∧
      ending = some ⟨planned.step, .cancelled, planned.command.line, ""⟩ ∧
      records = recordsOf plan (attempts before) := by
  induction hcourse generalizing before with
  | finished => simp at heq
  | stopped hstep =>
    obtain ⟨_, rfl, rfl, hfailure⟩ | ⟨attempt, hcalled, -⟩ := hstep.seen_or_called
    · obtain ⟨rfl, -⟩ | ⟨-, hnil⟩ := List.append_eq_singleton_iff.1 heq.symm
      · exact ⟨_, rfl, hfailure, by simp [attempts]⟩
      · cases hnil
    · exact absurd (heq ▸ List.mem_append_cons_self) (hcalled.not_mem seen)
  | passed hstep hrest ih =>
    obtain ⟨_, _, _, hfailure⟩ | ⟨attempt, hcalled, rfl⟩ := hstep.seen_or_called
    · cases hfailure
    · obtain ⟨between, rfl, -⟩ | ⟨between, rfl, hsecond⟩ := split_cases heq
      · exact absurd List.mem_append_cons_self (hcalled.not_mem seen)
      · obtain ⟨planned, hplanned, hfailure, rfl⟩ := ih hsecond
        refine ⟨planned, ?_, hfailure, ?_⟩
        · rw [attempts_append, hcalled.attempts_eq, List.length_append, List.length_singleton,
            Nat.add_comm, List.getElem?_cons_succ]
          exact hplanned
        · rw [attempts_append, hcalled.attempts_eq, List.singleton_append, recordsOf_cons]

/-- What makes a sequence of steps fail: cancellation is seen before a step, or a call does not get
    its step done. -/
inductive Stopped (isFile : σ → Path → Bool) (plan : List Planned) (exchanges : List (Exchange σ)) :
    Failure → Prop
  | cancelled {planned : Planned} {before after : List (Exchange σ)} {seen : σ}
    (hexchanges : exchanges = before ++ ⟨.isCancelled, true, seen⟩ :: after)
    (hnext : plan[(attempts before).length]? = some planned) :
    Stopped isFile plan exchanges ⟨planned.step, .cancelled, planned.command.line, ""⟩
  | called {planned : Planned} {attempt : Attempt σ} {failure : Failure}
    (htaken : (planned, attempt) ∈ plan.zip (attempts exchanges))
    (hfault : attempt.Fault isFile planned failure) : Stopped isFile plan exchanges failure

theorem Stopped.plan_ne_nil (hstopped : Stopped isFile plan exchanges failure) : plan ≠ [] := by
  rintro rfl
  cases hstopped with
  | cancelled _ hnext => cases hnext
  | called htaken => cases htaken

theorem not_stopped_of_aside (haside : Aside exchanges) :
    ¬ Stopped isFile plan exchanges failure := by
  intro hstopped
  cases hstopped with
  | cancelled hexchanges => exact haside.not_mem _ (hexchanges ▸ List.mem_append_cons_self)
  | called htaken => simp [haside.attempts_eq_nil] at htaken

/-- Exchanges around those of the steps change nothing. -/
theorem stopped_append_iff (hfirst : Aside first) (htail : Aside tail) :
    Stopped isFile plan (first ++ exchanges ++ tail) failure ↔
      Stopped isFile plan exchanges failure := by
  have hattempts : attempts (first ++ exchanges ++ tail) = attempts exchanges := by
    simp [hfirst.attempts_eq_nil, htail.attempts_eq_nil]
  constructor
  · intro hstopped
    cases hstopped with
    | cancelled hexchanges hnext =>
      obtain ⟨later, hfront, -⟩ | ⟨later, -, hback⟩ := split_cases hexchanges
      · obtain ⟨between, hback, -⟩ | ⟨between, rfl, hsplit⟩ := split_cases hfront
        · exact absurd (hback ▸ List.mem_append_cons_self) (hfirst.not_mem _)
        · rw [attempts_append, hfirst.attempts_eq_nil, List.nil_append] at hnext
          exact .cancelled hsplit hnext
      · exact absurd (hback ▸ List.mem_append_cons_self) (htail.not_mem _)
    | called htaken hfault => exact .called (hattempts ▸ htaken) hfault
  · intro hstopped
    cases hstopped with
    | @cancelled planned before after seen hexchanges hnext =>
      have hsplit : first ++ exchanges ++ tail =
          (first ++ before) ++ ⟨.isCancelled, true, seen⟩ :: (after ++ tail) := by
        simp [hexchanges]
      refine .cancelled hsplit ?_
      rwa [attempts_append, hfirst.attempts_eq_nil, List.nil_append]
    | called htaken hfault => exact .called (hattempts.symm ▸ htaken) hfault

theorem stopped_cons_iff_of_cancelled :
    Stopped isFile (planned :: rest) [⟨.isCancelled, true, seen⟩] failure ↔
      failure = ⟨planned.step, .cancelled, planned.command.line, ""⟩ := by
  constructor
  · intro hstopped
    cases hstopped with
    | cancelled hexchanges hnext =>
      obtain ⟨rfl, -⟩ | ⟨rfl, -⟩ := List.append_eq_singleton_iff.1 hexchanges.symm
      · cases hnext
        rfl
      · simp at hexchanges
    | called htaken => cases htaken
  · rintro rfl
    exact .cancelled (List.nil_append _).symm rfl

theorem stopped_cons_iff_of_fault (hcalled : Called settings planned exchanges attempt)
    (hfault : attempt.Fault isFile planned failure) :
    Stopped isFile (planned :: rest) exchanges other ↔ other = failure := by
  constructor
  · intro hstopped
    cases hstopped with
    | cancelled hexchanges =>
      exact absurd (hexchanges ▸ List.mem_append_cons_self) (hcalled.not_mem _)
    | called htaken hother =>
      rw [hcalled.attempts_eq, List.zip_cons_cons, List.zip_nil_right, List.mem_singleton] at htaken
      cases htaken
      exact hother.unique hfault
  · rintro rfl
    exact .called (by simp [hcalled.attempts_eq]) hfault

theorem stopped_cons_iff_of_passes (hcalled : Called settings planned first attempt)
    (hpasses : attempt.Passes isFile planned) :
    Stopped isFile (planned :: rest) (first ++ second) failure ↔
      Stopped isFile rest second failure := by
  constructor
  · intro hstopped
    cases hstopped with
    | cancelled hexchanges hnext =>
      obtain ⟨between, hfront, -⟩ | ⟨between, rfl, hsplit⟩ := split_cases hexchanges
      · exact absurd (hfront ▸ List.mem_append_cons_self) (hcalled.not_mem _)
      · refine .cancelled hsplit ?_
        simpa [hcalled.attempts_eq] using hnext
    | called htaken hfault =>
      rw [attempts_append, hcalled.attempts_eq, List.singleton_append, List.zip_cons_cons,
        List.mem_cons] at htaken
      rcases htaken with heq | htaken
      · cases heq
        exact absurd hpasses hfault.not_passes
      · exact .called htaken hfault
  · intro hstopped
    cases hstopped with
    | @cancelled planned before after seen hexchanges hnext =>
      have hsplit : first ++ second = (first ++ before) ++ ⟨.isCancelled, true, seen⟩ :: after := by
        rw [hexchanges, List.append_assoc]
      refine .cancelled hsplit ?_
      simpa [hcalled.attempts_eq] using hnext
    | called htaken hfault =>
      refine .called ?_ hfault
      simp [hcalled.attempts_eq, htaken]

/-- A sequence of steps fails exactly by what stops it. -/
theorem Course.failure_eq_some_iff (hviews : Views isFile handler)
    (hcourse : Course settings pair plan exchanges records ending)
    (hconsistent : Job.Consistent handler state exchanges) :
    ending = some failure ↔ Stopped isFile plan exchanges failure := by
  induction hcourse generalizing state with
  | finished =>
    constructor
    · nofun
    · exact fun hstopped => absurd rfl hstopped.plan_ne_nil
  | stopped hstep =>
    rw [Option.some.injEq, eq_comm]
    cases hstep.account hviews hconsistent with
    | cancelled => exact stopped_cons_iff_of_cancelled.symm
    | failed hcalled _ hfault => exact (stopped_cons_iff_of_fault hcalled hfault).symm
  | passed hstep hrest ih =>
    obtain ⟨between, hsecond⟩ := hconsistent.right
    cases hstep.account hviews hconsistent.left with
    | passed hcalled _ hpasses =>
      rw [stopped_cons_iff_of_passes hcalled hpasses]
      exact ih hsecond

/-- The removal of leftover files gets stuck at a file that is there and cannot be removed. -/
inductive Stuck : List Path → List (Exchange σ) → IoError → Prop
  | here {file : Path} {rest : List Path} {e : IoError} {after : σ} (hthere : e ≠ .notFound) :
    Stuck (file :: rest) [⟨.removeFile file, .error e, after⟩] e
  | later {file : Path} {rest : List Path} {answer : Except IoError Unit} {after : σ}
    {exchanges : List (Exchange σ)} {e : IoError}
    (hcleared : answer = .ok () ∨ answer = .error .notFound) (hstuck : Stuck rest exchanges e) :
    Stuck (file :: rest) (⟨.removeFile file, answer, after⟩ :: exchanges) e

/-- The artifacts cannot be prepared: either the directory cannot be made, or a leftover file
    cannot be removed. -/
inductive Obstructed (settings : Settings) (pair : Pair) : List (Exchange σ) → IoError → Prop
  | directory {e : IoError} {after : σ} :
    Obstructed settings pair [⟨.createDirs settings.artifactDir, .error e, after⟩] e
  | leftover {exchanges : List (Exchange σ)} {e : IoError} {made : σ}
    (hstuck : Stuck pair.artifacts.paths exchanges e) :
    Obstructed settings pair (⟨.createDirs settings.artifactDir, .ok (), made⟩ :: exchanges) e

theorem removeStale_yields_error_iff {files : List Path} {e : IoError} :
    (removeStale files).Yields exchanges (.error e) ↔ Stuck files exchanges e := by
  induction files generalizing exchanges with
  | nil =>
    constructor
    · rintro ⟨-, heq⟩
      cases heq
    · nofun
  | cons file rest ih =>
    rw [removeStale, Job.yields_request_bind_iff]
    constructor
    · rintro ⟨answer, after, later, rfl, hyields⟩
      split at hyields
      next => exact .later (.inl rfl) (ih.1 hyields)
      next => exact .later (.inr rfl) (ih.1 hyields)
      next hthere =>
        obtain ⟨rfl, heq⟩ := hyields
        cases heq
        exact .here hthere
    · intro hstuck
      cases hstuck with
      | here hthere =>
        refine ⟨_, _, [], rfl, ?_⟩
        split
        next heq => cases heq
        next heq => cases heq; exact absurd rfl hthere
        next heq => cases heq; exact ⟨rfl, rfl⟩
      | later hcleared hstuck =>
        refine ⟨_, _, _, rfl, ?_⟩
        rcases hcleared with rfl | rfl
        · exact ih.2 hstuck
        · exact ih.2 hstuck

theorem prepare_yields_error_iff {e : IoError} :
    (prepare settings pair).Yields exchanges (.error e) ↔
      Obstructed settings pair exchanges e := by
  rw [prepare, Job.yields_request_bind_iff]
  constructor
  · rintro ⟨answer, after, later, rfl, hyields⟩
    cases answer with
    | ok => exact .leftover (removeStale_yields_error_iff.1 hyields)
    | error e =>
      obtain ⟨rfl, heq⟩ := hyields
      cases heq
      exact .directory
  · intro hobstructed
    cases hobstructed with
    | directory => exact ⟨_, _, [], rfl, rfl, rfl⟩
    | leftover hstuck => exact ⟨_, _, _, rfl, removeStale_yields_error_iff.2 hstuck⟩

/-- Each of the exchanges makes a directory, or removes a file. -/
def OnFiles (exchanges : List (Exchange σ)) : Prop :=
  ∀ exchange ∈ exchanges, exchange.request.changesFiles = true

theorem onFiles_nil : OnFiles ([] : List (Exchange σ)) := List.forall_mem_nil _

theorem onFiles_cons_iff {exchange : Exchange σ} {rest : List (Exchange σ)} :
    OnFiles (exchange :: rest) ↔ exchange.request.changesFiles = true ∧ OnFiles rest :=
  List.forall_mem_cons

theorem OnFiles.aside (honFiles : OnFiles exchanges) : Aside exchanges := by
  rintro ⟨request, answer, after⟩ hmem
  have hchanges : request.changesFiles = true := honFiles _ hmem
  cases request with
  | createDirs directory => rfl
  | removeFile file => rfl
  | _ => cases hchanges

theorem removeStale_onFiles {files : List Path} {result : Except IoError Unit}
    (hyields : (removeStale files).Yields exchanges result) : OnFiles exchanges := by
  induction files generalizing exchanges with
  | nil =>
    obtain ⟨rfl, -⟩ := hyields
    exact onFiles_nil
  | cons file rest ih =>
    rw [removeStale, Job.yields_request_bind_iff] at hyields
    obtain ⟨answer, after, later, rfl, hyields⟩ := hyields
    refine onFiles_cons_iff.2 ⟨rfl, ?_⟩
    split at hyields
    next => exact ih hyields
    next => exact ih hyields
    next =>
      obtain ⟨rfl, -⟩ := hyields
      exact onFiles_nil

theorem prepare_onFiles {result : Except IoError Unit}
    (hyields : (prepare settings pair).Yields exchanges result) : OnFiles exchanges := by
  rw [prepare, Job.yields_request_bind_iff] at hyields
  obtain ⟨answer, after, later, rfl, hyields⟩ := hyields
  refine onFiles_cons_iff.2 ⟨rfl, ?_⟩
  cases answer with
  | ok => exact removeStale_onFiles hyields
  | error e =>
    obtain ⟨rfl, -⟩ := hyields
    exact onFiles_nil

theorem prepare_aside {result : Except IoError Unit}
    (hyields : (prepare settings pair).Yields exchanges result) : Aside exchanges :=
  (prepare_onFiles hyields).aside

/-- What makes a trial fail: its artifacts cannot be prepared, or its steps are stopped. -/
inductive Blamed (isFile : σ → Path → Bool) (settings : Settings) (pair : Pair)
    (exchanges : List (Exchange σ)) : Failure → Prop
  | obstructed {first rest : List (Exchange σ)} {e : IoError}
    (hexchanges : exchanges = first ++ rest) (hobstructed : Obstructed settings pair first e) :
    Blamed isFile settings pair exchanges
      ⟨.compile, .artifactTrouble e.message, (pair.compileCommand settings).line, ""⟩
  | stopped {failure : Failure} (hstopped : Stopped isFile (pair.plan settings) exchanges failure) :
    Blamed isFile settings pair exchanges failure

namespace Driven

theorem account (hviews : Views isFile handler)
    (hdriven : Driven settings pair exchanges records ending)
    (hconsistent : Job.Consistent handler state exchanges) :
    Account isFile settings (pair.plan settings) (attempts exchanges) records ending := by
  cases hdriven with
  | unprepared hprepare =>
    rw [(prepare_aside hprepare).attempts_eq_nil]
    exact .of_calls_nil
  | prepared hprepare hcourse =>
    obtain ⟨between, hsecond⟩ := hconsistent.right
    rw [attempts_append, (prepare_aside hprepare).attempts_eq_nil, List.nil_append]
    exact hcourse.account hviews hsecond

theorem heeds (hdriven : Driven settings pair exchanges records ending) : Heeds exchanges := by
  cases hdriven with
  | unprepared hprepare => exact .of_aside (prepare_aside hprepare)
  | prepared hprepare hcourse =>
    refine (Heeds.of_aside (prepare_aside hprepare)).append hcourse.heeds ?_
    rintro ⟨seen, hseen⟩
    exact absurd hseen ((prepare_aside hprepare).not_mem seen)

theorem of_seen (hdriven : Driven settings pair exchanges records ending)
    (heq : exchanges = before ++ ⟨.isCancelled, true, seen⟩ :: after) :
    ∃ planned, (pair.plan settings)[(attempts before).length]? = some planned ∧
      ending = some ⟨planned.step, .cancelled, planned.command.line, ""⟩ ∧
      records = recordsOf (pair.plan settings) (attempts before) := by
  cases hdriven with
  | unprepared hprepare =>
    exact absurd (heq ▸ List.mem_append_cons_self) ((prepare_aside hprepare).not_mem seen)
  | prepared hprepare hcourse =>
    have haside := prepare_aside hprepare
    obtain ⟨between, rfl, -⟩ | ⟨between, rfl, hsecond⟩ := split_cases heq
    · exact absurd List.mem_append_cons_self (haside.not_mem seen)
    · rw [attempts_append, haside.attempts_eq_nil, List.nil_append]
      exact hcourse.of_seen hsecond

/-- A trial fails exactly by what is to be blamed for it, whatever it does after its steps. -/
theorem failure_eq_some_iff (hviews : Views isFile handler)
    (hdriven : Driven settings pair exchanges records ending)
    (hconsistent : Job.Consistent handler state exchanges) (htail : Aside tail) :
    ending = some failure ↔ Blamed isFile settings pair (exchanges ++ tail) failure := by
  cases hdriven with
  | unprepared hprepare =>
    constructor
    · rintro ⟨⟩
      exact .obstructed rfl (prepare_yields_error_iff.1 hprepare)
    · intro hblamed
      cases hblamed with
      | obstructed hexchanges hobstructed =>
        obtain ⟨-, heq⟩ := hprepare.unique (prepare_yields_error_iff.2 hobstructed) hexchanges
        cases heq
        rfl
      | stopped hstopped =>
        have haside : Aside (exchanges ++ tail) := aside_append_iff.2 ⟨prepare_aside hprepare, htail⟩
        exact absurd hstopped (not_stopped_of_aside haside)
  | prepared hprepare hcourse =>
    obtain ⟨between, hsecond⟩ := hconsistent.right
    rw [hcourse.failure_eq_some_iff hviews hsecond,
      ← stopped_append_iff (prepare_aside hprepare) htail]
    constructor
    · exact .stopped
    · intro hblamed
      cases hblamed with
      | obstructed hexchanges hobstructed =>
        rw [List.append_assoc] at hexchanges
        obtain ⟨-, heq⟩ := hprepare.unique (prepare_yields_error_iff.2 hobstructed) hexchanges
        cases heq
      | stopped hstopped => exact hstopped

/-- Nothing is called for a trial whose artifacts cannot be prepared. -/
theorem attempts_eq_nil_of_obstructed (hdriven : Driven settings pair exchanges records ending)
    {e : IoError} (hexchanges : exchanges ++ tail = first ++ second)
    (hobstructed : Obstructed settings pair first e) : attempts exchanges = [] := by
  cases hdriven with
  | unprepared hprepare => exact (prepare_aside hprepare).attempts_eq_nil
  | prepared hprepare hcourse =>
    rw [List.append_assoc] at hexchanges
    obtain ⟨-, heq⟩ := hprepare.unique (prepare_yields_error_iff.2 hobstructed) hexchanges
    cases heq

end Driven

end Trial

end BootChain
