import BootChain.Proofs.Job.Along
import BootChain.Proofs.Trial.Completed

namespace BootChain

variable {σ : Type}

/-- The event that an exchange sends out, if it does. -/
def emittedBy? : Exchange σ → Option Event
  | ⟨.emit event, _, _⟩ => some event
  | _ => none

/-- The events that some exchanges send out, in order. -/
def emitted (exchanges : List (Exchange σ)) : List Event :=
  exchanges.filterMap emittedBy?

@[simp]
theorem emitted_append (first second : List (Exchange σ)) :
    emitted (first ++ second) = emitted first ++ emitted second :=
  List.filterMap_append

/-- The pair that an event is about, if it is about one. -/
def Event.pair? (event : Event) : Option (Generation × FixtureId) :=
  event.generation.bind fun generation => event.fixture.map (generation, ·)

/-- An event tells that a step of a pair is over, or its whole trial. -/
structure Event.TellsOf (event : Event) (key : Generation × FixtureId) : Prop where
  pair?_eq : event.pair? = some key
  name_cases : event.name = "step_finished" ∨ event.name = "pipeline_finished"

namespace World

variable {ρ : Type}

theorem events_update (world : World ρ) (result : Except IoError FileSystem) :
    (world.update result).2.events = world.events := by
  cases result <;> rfl

/-- After an answer the events are those from before, and those that go with it. -/
theorem events_answer (runner : Runner ρ) (request : Request) (world : World ρ) :
    (answer runner request world).2.events = world.events ++
      emitted [⟨request, (answer runner request world).1, (answer runner request world).2⟩] := by
  cases request with
  | emit event => rfl
  | removeFile file => exact (world.events_update _).trans (List.append_nil _).symm
  | _ => exact (List.append_nil _).symm

end World

namespace Trial

/-- The pair as it is known to events and reports. -/
def Pair.key (pair : Pair) : Generation × FixtureId := (pair.stage.generation, pair.fixture.id)

/-- What is said of a recorded step once it is over: what the trial failed by, if that was there. -/
def outcomeAt (ending : Option Failure) (step : Step) : String :=
  ((ending.filter (·.step = step)).map (·.cause.label)).getD "ok"

/-- The event of a step whose program could not be started, or was lost. It leaves no record. -/
def unrecorded? (pair : Pair) (ending : Option Failure) : Option Event :=
  ending.bind fun failure =>
    match failure.cause with
    | .notStarted .. | .lostProgram _ =>
      some (pair.stepFinished failure.step failure.cause.label none)
    | _ => none

/-- The events of some steps, by the records that they left and the failure that ended them: one for
    each call. A step that was not called for has none. -/
def stepEvents (pair : Pair) (records : List StepRecord) (ending : Option Failure) : List Event :=
  (records.map fun record => pair.stepFinished record.step (outcomeAt ending record.step)
    (some record.capture.elapsedMs)) ++ (unrecorded? pair ending).toList

/-- The events of a trial: those of its steps, and the one that closes it. -/
def story (pair : Pair) (trial : Trial) : List Event :=
  stepEvents pair trial.steps trial.failure ++ [finished pair trial]

variable {settings : Settings} {stage : Stage} {fixture : Fixture} {pair : Pair}
  {planned : Planned} {plan : List Planned} {exchanges : List (Exchange σ)}
  {record : Option StepRecord} {records : List StepRecord} {ending : Option Failure}
  {failure : Failure} {trial : Trial} {event : Event}

theorem outcomeAt_none (step : Step) : outcomeAt none step = "ok" := rfl

theorem outcomeAt_self (failure : Failure) :
    outcomeAt (some failure) failure.step = failure.cause.label := by
  simp [outcomeAt, Option.filter]

theorem outcomeAt_of_ne {step : Step} (hstep : ∀ failure ∈ ending, failure.step ≠ step) :
    outcomeAt ending step = "ok" := by
  cases ending with
  | none => rfl
  | some failure => simp [outcomeAt, Option.filter, hstep failure rfl]

theorem StepCourse.step_eq
    (hcourse : StepCourse settings pair planned exchanges record (some failure)) :
    failure.step = planned.step := by
  cases hcourse with
  | @uncalled _ _ _ e => cases e <;> rfl
  | _ => rfl

/-- A step whose program was captured has an event of its own for its record. -/
theorem stepEvents_captured (pair : Pair) (capture : Capture)
    (hunrecorded : unrecorded? pair (some failure) = none) :
    stepEvents pair [⟨failure.step, capture⟩] (some failure) =
      [pair.stepFinished failure.step failure.cause.label (some capture.elapsedMs)] := by
  rw [stepEvents, hunrecorded, List.map_singleton, outcomeAt_self]
  rfl

/-- A step sends out what its record and its failure say. -/
theorem StepCourse.emitted_eq
    (hcourse : StepCourse settings pair planned exchanges record ending) :
    emitted exchanges = stepEvents pair record.toList ending := by
  cases hcourse with
  | cancelled => rfl
  | @uncalled _ _ _ e => cases e <;> rfl
  | @ended _ _ _ capture cause hcause =>
    have hunrecorded : unrecorded? pair
        (some ⟨planned.step, cause, capture.line, capture.stderrText⟩) = none := by
      unfold causeOfEnding at hcause
      split at hcause <;> cases hcause <;> rfl
    exact (stepEvents_captured pair capture hunrecorded).symm
  | @unwritten _ _ _ _ capture product =>
    have hunrecorded : unrecorded? pair (some ⟨planned.step, .notWritten product,
        planned.command.line, capture.stderrText⟩) = none := rfl
    exact (stepEvents_captured pair capture hunrecorded).symm
  | written => rfl
  | unchecked => rfl

/-- A failure is at one of the steps that were planned. -/
theorem Course.step_mem (hcourse : Course settings pair plan exchanges records ending) :
    ∀ failure ∈ ending, failure.step ∈ plan.map (·.step) := by
  induction hcourse with
  | finished => nofun
  | stopped hstep =>
    intro failure hfailure
    cases hfailure
    rw [hstep.step_eq]
    exact List.mem_cons_self
  | passed _ _ ih => exact fun failure hfailure => List.mem_cons_of_mem _ (ih failure hfailure)

/-- What ends a trial at a later step is not told of one before. -/
theorem Course.outcomeAt_eq_ok {step : Step}
    (hcourse : Course settings pair plan exchanges records ending)
    (hstep : step ∉ plan.map (·.step)) : outcomeAt ending step = "ok" := by
  refine outcomeAt_of_ne fun failure hfailure heq => ?_
  have hmem := hcourse.step_mem failure hfailure
  rw [heq] at hmem
  exact hstep hmem

/-- The steps of a trial send out what their records and the failure that ended them say. -/
theorem Course.emitted_eq (hcourse : Course settings pair plan exchanges records ending)
    (hsteps : (plan.map (·.step)).Nodup) : emitted exchanges = stepEvents pair records ending := by
  induction hcourse with
  | finished => rfl
  | stopped hstep => exact hstep.emitted_eq
  | @passed planned rest first second record records ending hstep hrest ih =>
    obtain ⟨hfirst, hlater⟩ := List.nodup_cons.1 hsteps
    obtain ⟨capture, rfl⟩ := hstep.exists_record
    have hok := hrest.outcomeAt_eq_ok hfirst
    rw [emitted_append, hstep.emitted_eq, ih hlater]
    simp [stepEvents, hok, outcomeAt_none, unrecorded?]

/-- Who only changes files sends nothing out. -/
theorem OnFiles.emitted_eq_nil (honFiles : OnFiles exchanges) : emitted exchanges = [] := by
  rw [emitted, List.filterMap_eq_nil_iff]
  rintro ⟨request, answer, after⟩ hmem
  have hchanges : request.changesFiles = true := honFiles _ hmem
  cases request with
  | emit event => cases hchanges
  | _ => rfl

theorem Driven.emitted_eq (hdriven : Driven settings pair exchanges records ending) :
    emitted exchanges = stepEvents pair records ending := by
  cases hdriven with
  | unprepared hprepare => exact (prepare_onFiles hprepare).emitted_eq_nil
  | prepared hprepare hcourse =>
    rw [emitted_append, (prepare_onFiles hprepare).emitted_eq_nil, List.nil_append]
    exact hcourse.emitted_eq (nodup_steps_plan settings pair)

/-- What a trial sends out is told by what it comes to. -/
theorem emitted_of_yields (hyields : (perform settings stage fixture).Yields exchanges trial) :
    emitted exchanges = story (.of settings stage fixture) trial := by
  obtain ⟨driven, cleared, told, records, ending, rfl, hdriven, hcleared, rfl⟩ :=
    perform_closing hyields
  rw [emitted_append, emitted_append, hdriven.emitted_eq,
    (clearance_onFiles hcleared).emitted_eq_nil]
  rfl

theorem tellsOf_of_mem_story (hevent : event ∈ story pair trial) : event.TellsOf pair.key := by
  rw [story, stepEvents, List.mem_append, List.mem_append, List.mem_singleton, List.mem_map,
    Option.mem_toList] at hevent
  obtain (⟨record, -, rfl⟩ | hunrecorded) | rfl := hevent
  · exact ⟨rfl, .inl rfl⟩
  · obtain ⟨failure, -, hunrecorded⟩ := Option.bind_eq_some_iff.1 hunrecorded
    split at hunrecorded <;> cases hunrecorded <;> exact ⟨rfl, .inl rfl⟩
  · unfold finished
    split <;> exact ⟨rfl, .inr rfl⟩

/-- However far a trial has come, what it has sent out tells of its own pair. -/
theorem tellsOf_of_along {rest : Job Trial}
    (halong : (perform settings stage fixture).Along exchanges rest)
    (hevent : event ∈ emitted exchanges) : event.TellsOf (stage.generation, fixture.id) := by
  cases exchanges with
  | nil => cases hevent
  | cons first others =>
    obtain ⟨later, trial, hyields⟩ := Job.exists_yields rest first.after
    have hstory := emitted_of_yields (halong.yields hyields)
    rw [emitted_append] at hstory
    exact tellsOf_of_mem_story (hstory ▸ List.mem_append_left _ hevent)

end Trial

end BootChain
