import BootChain.Proofs.Trial.Heeding
import BootChain.Proofs.Trial.Trace

namespace BootChain

/-- If each answer adds what its request sends out to a log, a run adds what its job sends out. -/
theorem Job.log_run_eq {α σ : Type} {handler : Handler σ} (log : σ → List Event)
    (hanswer : ∀ request state, log (handler request state).2 =
      log state ++ emitted [⟨request, (handler request state).1, (handler request state).2⟩])
    (job : Job α) (state : σ) :
    log (job.run handler state).2 = log state ++ emitted (job.transcript handler state) := by
  induction job generalizing state with
  | done result => exact (List.append_nil _).symm
  | ask request next ih =>
    refine (ih _ _).trans ?_
    rw [hanswer, List.append_assoc, ← emitted_append]
    rfl

namespace World

variable {ρ : Type} (raised : Nat → Bool) (runner : Runner ρ)

theorem events_answerRaising (request : Request) (state : World ρ × Nat) :
    (answerRaising raised runner request state).2.1.events = state.1.events ++
      emitted [⟨request, (answerRaising raised runner request state).1,
        (answerRaising raised runner request state).2⟩] := by
  obtain ⟨world, -, hevents, hanswer⟩ := exists_answerRaising raised runner request state
  rw [hanswer, ← hevents]
  refine (events_answer runner request world).trans ?_
  cases request <;> rfl

/-- After a run the events are those from before, and those that its job sent out. -/
theorem events_run_answerRaising {α : Type} (job : Job α) (state : World ρ × Nat) :
    (job.run (answerRaising raised runner) state).2.1.events =
      state.1.events ++ emitted (job.transcript (answerRaising raised runner) state) :=
  Job.log_run_eq (fun state : World ρ × Nat => state.1.events)
    (events_answerRaising raised runner) job state

end World

theorem Cause.label_ne_ok (cause : Cause) : cause.label ≠ "ok" := by
  cases cause <;> simp [label]

namespace Trial

/-- How long the captured program of a call took, if there was one. -/
def Attempt.elapsedMs? {σ : Type} (attempt : Attempt σ) : Option Nat :=
  attempt.answer.toOption.map (·.elapsedMs)

/-- What is told of a step that was called for. -/
def told {σ : Type} (pair : Pair) (ending : Option Failure) (taken : Planned × Attempt σ) : Event :=
  pair.stepFinished taken.1.step (outcomeAt ending taken.1.step) taken.2.elapsedMs?

/-- What a trial tells of itself: an event for each of its calls, with the step that it was made
    for, and one that closes the trial. Only the last call can be one that failed, and the failure
    of a trial is told of a step just if it arose there. -/
structure Tells {σ : Type} (isFile : σ → Path → Bool) (settings : Settings) (pair : Pair)
    (exchanges : List (Exchange σ)) (trial : Trial) (steps : List Event) (closing : Event) :
    Prop where
  name_eq : ∀ event ∈ steps, event.name = "step_finished"
  steps_eq : steps.map (·.step) =
    ((pair.plan settings).map fun planned => some planned.step).take (attempts exchanges).length
  elapsedMs_eq : steps.map (·.elapsedMs) = (attempts exchanges).map (·.elapsedMs?)
  earlier_ok : ∀ event ∈ steps.dropLast, event.outcome = some "ok"
  unfailed_ok : trial.failure = none → ∀ event ∈ steps, event.outcome = some "ok"
  generation_eq : ∀ event ∈ steps ++ [closing], event.generation = some pair.stage.generation
  fixture_eq : ∀ event ∈ steps ++ [closing], event.fixture = some pair.fixture.id
  closing_name : closing.name = "pipeline_finished"
  closing_elapsedMs : closing.elapsedMs =
    some ((trial.steps.map fun record => record.capture.elapsedMs).foldr (· + ·) 0)
  closing_ok_iff : closing.outcome = some "ok" ↔ trial.failure = none
  closing_failed : ∀ failure, trial.failure = some failure →
    closing.outcome = some failure.cause.label ∧ closing.step = some failure.step ∧
      closing.detail = some failure.line
  called_iff : ∀ failure, trial.failure = some failure →
    ((∃ event, steps.getLast? = some event ∧ event.step = some failure.step ∧
        event.outcome = some failure.cause.label) ↔
      ∃ taken ∈ (pair.plan settings).zip (attempts exchanges),
        taken.2.Fault isFile taken.1 failure)
  uncalled : ∀ failure, trial.failure = some failure →
    ((∃ seen, ⟨.isCancelled, true, seen⟩ ∈ exchanges) ∨
      ∃ first rest e, exchanges = first ++ rest ∧ Obstructed settings pair first e) →
        ∀ event ∈ steps, event.step ≠ some failure.step

section

variable {σ : Type} {isFile : σ → Path → Bool} {settings : Settings} {pair : Pair}
  {planned : Planned} {plan : List Planned} {exchanges : List (Exchange σ)}
  {calls : List (Attempt σ)} {taken : Planned × Attempt σ} {record : Option StepRecord}
  {records : List StepRecord} {ending : Option Failure} {failure : Failure} {trial : Trial}

theorem StepCourse.emitted_told
    (hcourse : StepCourse settings pair planned exchanges record ending) :
    emitted exchanges =
      (attempts exchanges).map fun attempt => told pair ending (planned, attempt) := by
  have houtcome : ∀ failure, ending = some failure →
      failure.cause.label = outcomeAt ending planned.step := by
    rintro failure rfl
    rw [← hcourse.step_eq, outcomeAt_self]
  cases hcourse with
  | cancelled => rfl
  | uncalled =>
    exact congrArg (fun outcome => [pair.stepFinished planned.step outcome none])
      (houtcome _ rfl)
  | ended =>
    exact congrArg (fun outcome => [pair.stepFinished planned.step outcome _]) (houtcome _ rfl)
  | unwritten =>
    exact congrArg (fun outcome => [pair.stepFinished planned.step outcome _]) (houtcome _ rfl)
  | written => rfl
  | unchecked => rfl

/-- Each call of some steps is told of, in order, with the step that it was made for. -/
theorem Course.emitted_told (hcourse : Course settings pair plan exchanges records ending)
    (hsteps : (plan.map (·.step)).Nodup) :
    emitted exchanges = (plan.zip (attempts exchanges)).map (told pair ending) := by
  induction hcourse with
  | finished => rfl
  | stopped hstep =>
    rw [hstep.emitted_told]
    obtain ⟨seen, rfl, -⟩ | ⟨attempt, hcalled, -⟩ := hstep.seen_or_called
    · rfl
    · rw [hcalled.attempts_eq]
      simp
  | @passed planned rest first second record records ending hstep hrest ih =>
    obtain ⟨hfirst, hlater⟩ := List.nodup_cons.1 hsteps
    obtain ⟨_, _, _, hfailure⟩ | ⟨attempt, hcalled, -⟩ := hstep.seen_or_called
    · cases hfailure
    have htold : told pair none (planned, attempt) = told pair ending (planned, attempt) := by
      rw [told, told, outcomeAt_none, hrest.outcomeAt_eq_ok hfirst]
    rw [emitted_append, hstep.emitted_told, ih hlater, attempts_append, hcalled.attempts_eq]
    simp [htold]

theorem Driven.emitted_told (hdriven : Driven settings pair exchanges records ending) :
    emitted exchanges = ((pair.plan settings).zip (attempts exchanges)).map (told pair ending) := by
  cases hdriven with
  | unprepared hprepare =>
    have honFiles := prepare_onFiles hprepare
    rw [honFiles.emitted_eq_nil, honFiles.aside.attempts_eq_nil, List.zip_nil_right]
    rfl
  | prepared hprepare hcourse =>
    have honFiles := prepare_onFiles hprepare
    rw [emitted_append, honFiles.emitted_eq_nil, attempts_append, honFiles.aside.attempts_eq_nil,
      List.nil_append, List.nil_append]
    exact hcourse.emitted_told (nodup_steps_plan settings pair)

theorem map_step_zip (plan : List Planned) (calls : List (Attempt σ)) :
    (plan.zip calls).map (·.1.step) = (plan.map (·.step)).take calls.length := by
  induction plan generalizing calls with
  | nil => simp
  | cons planned rest ih =>
    cases calls with
    | nil => rfl
    | cons attempt calls => simp [ih]

/-- The step that would be called for next is none of those that were. -/
theorem step_ne_of_next (hsteps : (plan.map (·.step)).Nodup)
    (hnext : plan[calls.length]? = some planned) (htaken : taken ∈ plan.zip calls) :
    taken.1.step ≠ planned.step := by
  have htake : (plan.map (·.step)).take (calls.length + 1) =
      (plan.zip calls).map (·.1.step) ++ [planned.step] := by
    rw [List.take_add_one, List.getElem?_map, hnext, map_step_zip]
    rfl
  have hnodup := hsteps.sublist (List.take_sublist (calls.length + 1) _)
  rw [htake, List.nodup_append] at hnodup
  exact hnodup.2.2 _ (List.mem_map_of_mem htaken) _ (List.mem_singleton_self _)

/-- A call that fails its step is the last one. -/
theorem exists_zip_eq_concat
    (hearlier : ∀ taken ∈ (plan.zip calls).dropLast, taken.2.Passes isFile taken.1)
    (htaken : taken ∈ plan.zip calls) (hfault : taken.2.Fault isFile taken.1 failure) :
    plan.zip calls = (plan.zip calls).dropLast ++ [taken] := by
  have hne : plan.zip calls ≠ [] := List.ne_nil_of_mem htaken
  have hconcat := List.dropLast_concat_getLast hne
  rw [← hconcat, List.mem_append, List.mem_singleton] at htaken
  rcases htaken with htaken | rfl
  · exact absurd (hearlier taken htaken) hfault.not_passes
  · exact hconcat.symm

/-- Where cancellation is seen, the step that comes next is never called for. -/
theorem step_ne_of_seen {before after : List (Exchange σ)} {seen : σ}
    (hsteps : (plan.map (·.step)).Nodup) (hheeds : Heeds exchanges)
    (hexchanges : exchanges = before ++ ⟨.isCancelled, true, seen⟩ :: after)
    (hnext : plan[(attempts before).length]? = some planned)
    (htaken : taken ∈ plan.zip (attempts exchanges)) : taken.1.step ≠ planned.step := by
  have hafter := hheeds.idle _ _ _ hexchanges
  have hseen : attempts (⟨.isCancelled, true, seen⟩ :: after) = [] := hafter
  rw [hexchanges, attempts_append, hseen, List.append_nil] at htaken
  exact step_ne_of_next hsteps hnext htaken

/-- The failure of a trial arose at one of its calls, or at a step that was not called for. -/
theorem Blamed.called_or_uncalled (hblamed : Blamed isFile settings pair exchanges failure)
    (hheeds : Heeds exchanges)
    (hnone : ∀ first rest e, exchanges = first ++ rest → Obstructed settings pair first e →
      attempts exchanges = []) :
    (∃ taken ∈ (pair.plan settings).zip (attempts exchanges),
      taken.2.Fault isFile taken.1 failure) ∨
    ∀ taken ∈ (pair.plan settings).zip (attempts exchanges), taken.1.step ≠ failure.step := by
  cases hblamed with
  | obstructed hexchanges hobstructed =>
    rw [hnone _ _ _ hexchanges hobstructed, List.zip_nil_right]
    exact .inr fun taken htaken => absurd htaken List.not_mem_nil
  | stopped hstopped =>
    cases hstopped with
    | cancelled hexchanges hnext =>
      exact .inr fun taken htaken =>
        step_ne_of_seen (nodup_steps_plan settings pair) hheeds hexchanges hnext htaken
    | called htaken hfault => exact .inl ⟨_, htaken, hfault⟩

/-- The events of the calls say that all is well, up to the last. -/
theorem outcome_eq_of_mem_dropLast
    (hearlier : ∀ taken ∈ ((pair.plan settings).zip calls).dropLast, taken.2.Passes isFile taken.1)
    (hwhere : ∀ failure, ending = some failure →
      (∃ taken ∈ (pair.plan settings).zip calls, taken.2.Fault isFile taken.1 failure) ∨
      ∀ taken ∈ (pair.plan settings).zip calls, taken.1.step ≠ failure.step)
    (htaken : taken ∈ ((pair.plan settings).zip calls).dropLast) :
    outcomeAt ending taken.1.step = "ok" := by
  refine outcomeAt_of_ne fun failure hfailure => ?_
  obtain ⟨last, hlast, hfault⟩ | huncalled := hwhere failure hfailure
  · have hnodup : (((pair.plan settings).zip calls).map (·.1.step)).Nodup := by
      rw [map_step_zip]
      exact (nodup_steps_plan settings pair).sublist (List.take_sublist _ _)
    rw [exists_zip_eq_concat hearlier hlast hfault, List.map_append, List.nodup_append] at hnodup
    rw [hfault.step_eq]
    exact (hnodup.2.2 _ (List.mem_map_of_mem htaken) _ (List.mem_singleton_self _)).symm
  · exact (huncalled taken (List.dropLast_subset _ htaken)).symm

/-- The last event of a call names a failure just if that arose at a call. -/
theorem told_getLast?_iff
    (hearlier : ∀ taken ∈ ((pair.plan settings).zip calls).dropLast, taken.2.Passes isFile taken.1)
    (hwhere : (∃ taken ∈ (pair.plan settings).zip calls, taken.2.Fault isFile taken.1 failure) ∨
      ∀ taken ∈ (pair.plan settings).zip calls, taken.1.step ≠ failure.step) :
    (∃ event, (((pair.plan settings).zip calls).map (told pair (some failure))).getLast? =
        some event ∧ event.step = some failure.step ∧ event.outcome = some failure.cause.label) ↔
      ∃ taken ∈ (pair.plan settings).zip calls, taken.2.Fault isFile taken.1 failure := by
  constructor
  · rintro ⟨event, hlast, hstep, -⟩
    obtain ⟨taken, htaken, rfl⟩ := List.mem_map.1 (List.mem_of_getLast? hlast)
    refine hwhere.resolve_right fun huncalled => ?_
    exact huncalled taken htaken (Option.some.inj hstep)
  · rintro ⟨taken, htaken, hfault⟩
    refine ⟨told pair (some failure) taken, ?_, ?_, ?_⟩
    · rw [exists_zip_eq_concat hearlier htaken hfault, List.map_append, List.map_singleton,
        List.getLast?_concat]
    · exact congrArg some hfault.step_eq.symm
    · change some (outcomeAt (some failure) taken.1.step) = _
      rw [← hfault.step_eq, outcomeAt_self]

theorem finished_of_none (hnone : trial.failure = none) : finished pair trial =
    { pair.event "pipeline_finished" "ok" with elapsedMs := some (totalMs trial.steps) } := by
  rw [finished, hnone]

theorem finished_of_some (hsome : trial.failure = some failure) : finished pair trial =
    { pair.event "pipeline_finished" failure.cause.label with
      elapsedMs := some (totalMs trial.steps), step := some failure.step,
      detail := some failure.line } := by
  rw [finished, hsome]

/-- What the event that closes a trial says in any case. -/
theorem finished_cases (pair : Pair) (trial : Trial) :
    (finished pair trial).name = "pipeline_finished" ∧
      (finished pair trial).generation = some pair.stage.generation ∧
      (finished pair trial).fixture = some pair.fixture.id ∧
      (finished pair trial).elapsedMs = some (totalMs trial.steps) := by
  cases hfailure : trial.failure with
  | none =>
    rw [finished_of_none hfailure]
    exact ⟨rfl, rfl, rfl, rfl⟩
  | some failure =>
    rw [finished_of_some hfailure]
    exact ⟨rfl, rfl, rfl, rfl⟩

theorem finished_outcome_iff :
    (finished pair trial).outcome = some "ok" ↔ trial.failure = none := by
  cases hfailure : trial.failure with
  | none => simp [finished_of_none hfailure, Pair.event]
  | some failure => simp [finished_of_some hfailure, Pair.event, failure.cause.label_ne_ok]

theorem Account.length_le (haccount : Account isFile settings plan calls records ending) :
    calls.length ≤ plan.length := by
  have hlengths := congrArg List.length haccount.commands_eq
  rw [List.length_map, List.length_take, List.length_map] at hlengths
  omega

theorem map_step_told (plan : List Planned) (calls : List (Attempt σ)) :
    ((plan.zip calls).map (told pair ending)).map (·.step) =
      (plan.map fun planned => some planned.step).take calls.length := by
  calc
    _ = ((plan.zip calls).map (·.1.step)).map some := by
      rw [List.map_map, List.map_map]
      rfl
    _ = _ := by
      rw [map_step_zip, List.map_take, List.map_map]
      rfl

theorem map_elapsedMs_told (hle : calls.length ≤ plan.length) :
    ((plan.zip calls).map (told pair ending)).map (·.elapsedMs) = calls.map (·.elapsedMs?) := by
  calc
    _ = ((plan.zip calls).map Prod.snd).map (·.elapsedMs?) := by
      rw [List.map_map, List.map_map]
      rfl
    _ = _ := by rw [List.map_snd_zip hle]

theorem told_cases {event : Event} (hevent : event ∈ (plan.zip calls).map (told pair ending)) :
    event.name = "step_finished" ∧ event.generation = some pair.stage.generation ∧
      event.fixture = some pair.fixture.id := by
  obtain ⟨taken, -, rfl⟩ := List.mem_map.1 hevent
  exact ⟨rfl, rfl, rfl⟩

/-- A trial that saw the cancellation before a step, or could not prepare its artifacts, did not
    call for the step that it fails at. -/
theorem step_ne_of_uncalled (hheeds : Heeds exchanges)
    (hnone : ∀ first rest e, exchanges = first ++ rest → Obstructed settings pair first e →
      attempts exchanges = [])
    (hseen : ∀ before seen after, exchanges = before ++ ⟨.isCancelled, true, seen⟩ :: after →
      ∃ planned, (pair.plan settings)[(attempts before).length]? = some planned ∧
        ending = some ⟨planned.step, .cancelled, planned.command.line, ""⟩)
    (hfailure : ending = some failure)
    (huncalled : (∃ seen, ⟨.isCancelled, true, seen⟩ ∈ exchanges) ∨
      ∃ first rest e, exchanges = first ++ rest ∧ Obstructed settings pair first e)
    (htaken : taken ∈ (pair.plan settings).zip (attempts exchanges)) :
    taken.1.step ≠ failure.step := by
  rcases huncalled with ⟨seen, hmem⟩ | ⟨first, rest, e, hexchanges, hobstructed⟩
  · obtain ⟨before, after, hexchanges⟩ := List.append_of_mem hmem
    obtain ⟨planned, hnext, hcancelled⟩ := hseen _ _ _ hexchanges
    cases hfailure.symm.trans hcancelled
    exact step_ne_of_seen (nodup_steps_plan settings pair) hheeds hexchanges hnext htaken
  · rw [hnone _ _ _ hexchanges hobstructed, List.zip_nil_right] at htaken
    cases htaken

/-- What was told of the calls of a trial, and what closes it, is all that it has to tell. -/
theorem tells_of_account
    (haccount : Account isFile settings (pair.plan settings) (attempts exchanges) trial.steps
      trial.failure)
    (hheeds : Heeds exchanges)
    (hnone : ∀ first rest e, exchanges = first ++ rest → Obstructed settings pair first e →
      attempts exchanges = [])
    (hblamed : ∀ failure, trial.failure = some failure →
      Blamed isFile settings pair exchanges failure)
    (hseen : ∀ before seen after, exchanges = before ++ ⟨.isCancelled, true, seen⟩ :: after →
      ∃ planned, (pair.plan settings)[(attempts before).length]? = some planned ∧
        trial.failure = some ⟨planned.step, .cancelled, planned.command.line, ""⟩) :
    Tells isFile settings pair exchanges trial
      (((pair.plan settings).zip (attempts exchanges)).map (told pair trial.failure))
      (finished pair trial) := by
  have hwhere := fun failure hfailure =>
    (hblamed failure hfailure).called_or_uncalled hheeds hnone
  have hearlier := haccount.earlier_passed
  obtain ⟨hname, hgeneration, hfixture, helapsed⟩ := finished_cases pair trial
  exact {
    name_eq := fun event hevent => (told_cases hevent).1
    steps_eq := map_step_told _ _
    elapsedMs_eq := map_elapsedMs_told haccount.length_le
    earlier_ok := by
      intro event hevent
      rw [← List.map_dropLast] at hevent
      obtain ⟨taken, htaken, rfl⟩ := List.mem_map.1 hevent
      exact congrArg some (outcome_eq_of_mem_dropLast hearlier hwhere htaken)
    unfailed_ok := by
      intro hunfailed event hevent
      rw [hunfailed] at hevent
      obtain ⟨taken, -, rfl⟩ := List.mem_map.1 hevent
      rfl
    generation_eq := List.forall_mem_append.2
      ⟨fun event hevent => (told_cases hevent).2.1, List.forall_mem_singleton.2 hgeneration⟩
    fixture_eq := List.forall_mem_append.2
      ⟨fun event hevent => (told_cases hevent).2.2, List.forall_mem_singleton.2 hfixture⟩
    closing_name := hname
    closing_elapsedMs := by rw [helapsed, totalMs, List.foldr_map]
    closing_ok_iff := finished_outcome_iff
    closing_failed := by
      intro failure hfailure
      rw [finished_of_some hfailure]
      exact ⟨rfl, rfl, rfl⟩
    called_iff := by
      intro failure hfailure
      rw [hfailure]
      exact told_getLast?_iff hearlier (hwhere failure hfailure)
    uncalled := by
      intro failure hfailure huncalled event hevent hstep
      obtain ⟨taken, htaken, rfl⟩ := List.mem_map.1 hevent
      exact step_ne_of_uncalled hheeds hnone hseen hfailure huncalled htaken
        (Option.some.inj hstep) }

/-- Whoever answers a trial truthfully about files, it tells of its calls and of its end. -/
theorem exists_tells_of_yields {handler : Job.Handler σ} {state : σ} {stage : Stage}
    {fixture : Fixture} (hviews : Views isFile handler)
    (hconsistent : Job.Consistent handler state exchanges)
    (hyields : (perform settings stage fixture).Yields exchanges trial) :
    ∃ steps closing, emitted exchanges = steps ++ [closing] ∧
      Tells isFile settings (.of settings stage fixture) exchanges trial steps closing := by
  have hheeds := heeds_of_yields hyields
  have hseen : ∀ before seen after, exchanges = before ++ ⟨.isCancelled, true, seen⟩ :: after →
      ∃ planned, ((Pair.of settings stage fixture).plan settings)[(attempts before).length]? =
          some planned ∧
        trial.failure = some ⟨planned.step, .cancelled, planned.command.line, ""⟩ := by
    intro before seen after hexchanges
    obtain ⟨planned, hnext, hcancelled, -⟩ := of_seen hyields hexchanges
    exact ⟨planned, hnext, hcancelled⟩
  obtain ⟨driven, cleared, sent, records, failure, rfl, hdriven, hcleared, rfl⟩ :=
    perform_closing hyields
  generalize htail : cleared ++ [_] = tail at *
  have haside : Aside tail := by
    rw [← htail]
    exact aside_append_iff.2 ⟨(clearance_onFiles hcleared).aside, by simp [Aside]⟩
  have hcalls : attempts (driven ++ tail) = attempts driven := by
    rw [attempts_append, haside.attempts_eq_nil, List.append_nil]
  refine ⟨_, _, ?_, tells_of_account ?_ hheeds ?_ ?_ hseen⟩
  · rw [hcalls, emitted_append, hdriven.emitted_told, ← htail, emitted_append,
      (clearance_onFiles hcleared).emitted_eq_nil]
    rfl
  · rw [hcalls]
    exact hdriven.account hviews hconsistent.left
  · intro first rest e hsplit hobstructed
    rw [hcalls]
    exact hdriven.attempts_eq_nil_of_obstructed hsplit hobstructed
  · intro failure hfailure
    exact (hdriven.failure_eq_some_iff hviews hconsistent.left haside).1 hfailure

end

/-- Whatever its runner does and whenever the run is cancelled, a trial sends out one event for each
    of its calls, in the order of the steps, and then one that closes it; and these tell what the
    trial came to, at which step, and how long its steps took. -/
theorem perform_tells {ρ : Type} (runner : Runner ρ) (raised : Nat → Bool) (settings : Settings)
    (stage : Stage) (fixture : Fixture) (world : World ρ) :
    ∃ steps closing,
      ((perform settings stage fixture).run (World.answerRaising raised runner)
        (world, 0)).2.1.events = world.events ++ (steps ++ [closing]) ∧
      Tells World.holds settings (.of settings stage fixture)
        ((perform settings stage fixture).transcript (World.answerRaising raised runner) (world, 0))
        ((perform settings stage fixture).run (World.answerRaising raised runner) (world, 0)).1
        steps closing := by
  obtain ⟨steps, closing, hemitted, htells⟩ := exists_tells_of_yields
    (World.views_holds raised runner)
    (Job.consistent_transcript (World.answerRaising raised runner) (perform settings stage fixture)
      (world, 0))
    (Job.yields_transcript (World.answerRaising raised runner) (perform settings stage fixture)
      (world, 0))
  refine ⟨steps, closing, ?_, htells⟩
  rw [World.events_run_answerRaising, hemitted]

end Trial

end BootChain
