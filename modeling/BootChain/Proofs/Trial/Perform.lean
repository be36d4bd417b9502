import BootChain.Proofs.Trial.Blame
import BootChain.World
import Mathlib.Data.List.Basic

namespace BootChain

namespace World

variable {ρ : Type}

/-- Answers requests as `answer` does, in a run that is cancelled right before the requests with
    the chosen numbers. The first request has number zero. -/
def answerRaising (raised : Nat → Bool) (runner : Runner ρ) : Job.Handler (World ρ × Nat)
  | request, (world, number) =>
    let world := if raised number then world.raise else world
    let (answer, after) := World.answer runner request world
    (answer, after, number + 1)

/-- A request is answered by the world that was there, which may just have been cancelled. -/
theorem exists_answerRaising (raised : Nat → Bool) (runner : Runner ρ) (request : Request)
    (state : World ρ × Nat) : ∃ world : World ρ, world.files = state.1.files ∧
      world.events = state.1.events ∧ answerRaising raised runner request state =
        ((answer runner request world).1, (answer runner request world).2, state.2 + 1) := by
  obtain ⟨world, number⟩ := state
  cases hraised : raised number with
  | true => exact ⟨world.raise, rfl, rfl, by simp [answerRaising, hraised]⟩
  | false => exact ⟨world, rfl, rfl, by simp [answerRaising, hraised]⟩

/-- The files of a run at some request. -/
def holds (state : World ρ × Nat) (file : Path) : Bool := state.1.files.isFile file

theorem views_holds (raised : Nat → Bool) (runner : Runner ρ) :
    Trial.Views holds (answerRaising raised runner) := by
  intro file state
  obtain ⟨world, hfiles, -, hanswer⟩ := exists_answerRaising raised runner (.isFile file) state
  rw [hanswer, holds, ← hfiles]
  rfl

end World

namespace Trial

section

variable {σ : Type} {settings : Settings} {stage : Stage} {fixture : Fixture}
  {exchanges : List (Exchange σ)}

theorem discard_onFiles {files : List Path} {result : Unit}
    (hyields : (discard files).Yields exchanges result) : OnFiles exchanges := by
  induction files generalizing exchanges with
  | nil =>
    obtain ⟨rfl, -⟩ := hyields
    exact onFiles_nil
  | cons file rest ih =>
    rw [discard, Job.yields_request_bind_iff] at hyields
    obtain ⟨answer, after, later, rfl, hyields⟩ := hyields
    exact onFiles_cons_iff.2 ⟨rfl, ih hyields⟩

/-- What a trial does with its artifacts after its steps. -/
def clearance (settings : Settings) (pair : Pair) : Job Unit :=
  if settings.keepArtifacts then .done () else discard pair.artifacts.paths

/-- A trial is driven, does with its artifacts what its settings say, and ends with the event that
    closes it. -/
theorem perform_closing {trial : Trial}
    (hyields : (perform settings stage fixture).Yields exchanges trial) :
    ∃ driven cleared told records failure,
      exchanges = driven ++ (cleared ++
        [⟨.emit (finished (.of settings stage fixture) trial), (), told⟩]) ∧
      Driven settings (.of settings stage fixture) driven records failure ∧
      (clearance settings (.of settings stage fixture)).Yields cleared () ∧
      trial = finish (.of settings stage fixture) records failure := by
  rw [perform, Job.yields_bind_iff] at hyields
  obtain ⟨driven, tail, ⟨records, failure⟩, rfl, hdriven, hyields⟩ := hyields
  rw [clearance]
  cases hkeep : settings.keepArtifacts with
  | true =>
    simp only [hkeep, Bool.not_true, Bool.false_eq_true, if_false] at hyields
    rw [Job.yields_request_bind_iff] at hyields
    obtain ⟨_, told, _, rfl, rfl, rfl⟩ := hyields
    exact ⟨driven, [], told, records, failure, rfl, driven_of_yields hdriven, ⟨rfl, rfl⟩, rfl⟩
  | false =>
    simp only [hkeep, Bool.not_false, if_true] at hyields
    rw [Job.yields_bind_iff] at hyields
    obtain ⟨cleared, last, _, rfl, hcleared, hyields⟩ := hyields
    rw [Job.yields_request_bind_iff] at hyields
    obtain ⟨_, told, _, rfl, rfl, rfl⟩ := hyields
    exact ⟨driven, cleared, told, records, failure, rfl, driven_of_yields hdriven, hcleared, rfl⟩

theorem clearance_onFiles {pair : Pair} (hyields : (clearance settings pair).Yields exchanges ()) :
    OnFiles exchanges := by
  unfold clearance at hyields
  split at hyields
  · obtain ⟨rfl, -⟩ := hyields
    exact onFiles_nil
  · exact discard_onFiles hyields

/-- A trial is driven, takes no step after that, and reports what its steps came to. -/
theorem perform_yields {trial : Trial}
    (hyields : (perform settings stage fixture).Yields exchanges trial) :
    ∃ driven tail records failure, exchanges = driven ++ tail ∧
      Driven settings (.of settings stage fixture) driven records failure ∧ Aside tail ∧
      trial = finish (.of settings stage fixture) records failure := by
  obtain ⟨driven, cleared, told, records, failure, rfl, hdriven, hcleared, htrial⟩ :=
    perform_closing hyields
  refine ⟨driven, _, records, failure, rfl, hdriven, ?_, htrial⟩
  exact aside_append_iff.2 ⟨(clearance_onFiles hcleared).aside, by simp [Aside]⟩

end

/-- What a trial has to say about the exchanges that it took: which calls it made, what it kept of
    them, where and why it failed, and what its program printed if it did not. -/
structure Accounted {σ : Type} (isFile : σ → Path → Bool) (settings : Settings) (pair : Pair)
    (exchanges : List (Exchange σ)) (trial : Trial) : Prop where
  generation_eq : trial.generation = pair.stage.generation
  fixture_eq : trial.fixture = pair.fixture.id
  /-- The calls are the first of three: of the compiler, of the linker, and of the program itself. -/
  commands_eq : (attempts exchanges).map (·.command) =
    [⟨pair.stage.binary, settings.compileArgs.render
        ⟨pair.fixture.source, pair.artifacts.object, pair.artifacts.executable⟩⟩,
      ⟨settings.toolchain, settings.linkArgs.render
        ⟨pair.fixture.source, pair.artifacts.object, pair.artifacts.executable⟩⟩,
      ⟨pair.artifacts.executable, []⟩].take (attempts exchanges).length
  limitMs_eq : ∀ attempt ∈ attempts exchanges, attempt.limitMs = settings.limitMs
  heeds : Heeds exchanges
  attempts_eq_nil_of_obstructed : ∀ first rest e, exchanges = first ++ rest →
    Obstructed settings pair first e → attempts exchanges = []
  /-- All calls but the last one did their steps: the compiler's and the linker's, if they are. -/
  earlier_passed :
    ∀ taken ∈ [pair.artifacts.object, pair.artifacts.executable].zip (attempts exchanges).dropLast,
      taken.2.ExitsZero ∧ isFile taken.2.after taken.1 = true
  steps_eq : trial.steps = ([.compile, .link, .execute].zip (attempts exchanges)).filterMap
    fun (step, attempt) => attempt.record? step
  failure_eq_none_iff : trial.failure = none ↔ ∃ compiled linked executed,
    attempts exchanges = [compiled, linked, executed] ∧
      (compiled.ExitsZero ∧ isFile compiled.after pair.artifacts.object = true) ∧
      (linked.ExitsZero ∧ isFile linked.after pair.artifacts.executable = true) ∧
      executed.ExitsZero
  failure_eq_some_iff : ∀ failure, trial.failure = some failure ↔
    Blamed isFile settings pair exchanges failure
  stderr_eq : ∀ failure, trial.failure = some failure →
    failure.stderr = ((trial.record? failure.step).map (·.capture.stderrText)).getD ""
  printed : trial.failure = none → ∃ attempt capture, (attempts exchanges)[2]? = some attempt ∧
    attempt.answer = .ok capture ∧ trial.succeeded = true ∧
    trial.stdout = some capture.stdoutText ∧ trial.output? = some capture.stdout
  silent : trial.failure ≠ none →
    trial.succeeded = false ∧ trial.stdout = none ∧ trial.output? = none

section

variable {σ : Type} {isFile : σ → Path → Bool} {settings : Settings} {pair : Pair}
  {exchanges : List (Exchange σ)} {records : List StepRecord} {ending : Option Failure}
  {failure : Failure}

theorem nodup_steps_plan (settings : Settings) (pair : Pair) :
    ((pair.plan settings).map (·.step)).Nodup := by
  simp [Pair.plan]

/-- All three steps are done just if all three calls were made, their programs exited with code zero
    and the first two of them left the artifacts. -/
theorem all_pass_iff {calls : List (Attempt σ)} : (calls.length = (pair.plan settings).length ∧
      ∀ taken ∈ (pair.plan settings).zip calls, taken.2.Passes isFile taken.1) ↔
    ∃ compiled linked executed, calls = [compiled, linked, executed] ∧
      (compiled.ExitsZero ∧ isFile compiled.after pair.artifacts.object = true) ∧
      (linked.ExitsZero ∧ isFile linked.after pair.artifacts.executable = true) ∧
      executed.ExitsZero := by
  constructor
  · rintro ⟨hlength, hpassed⟩
    obtain ⟨compiled, linked, executed, rfl⟩ := List.length_eq_three.1 hlength
    refine ⟨compiled, linked, executed, rfl, ?_⟩
    simpa [Pair.plan, Attempt.passes_iff] using hpassed
  · rintro ⟨compiled, linked, executed, rfl, hpassed⟩
    refine ⟨rfl, ?_⟩
    simpa [Pair.plan, Attempt.passes_iff] using hpassed

/-- The steps with a call after their own one are those that have a product. -/
theorem earlier_pass_iff {calls : List (Attempt σ)} :
    (∀ taken ∈ ((pair.plan settings).zip calls).dropLast, taken.2.Passes isFile taken.1) ↔
    ∀ taken ∈ [pair.artifacts.object, pair.artifacts.executable].zip calls.dropLast,
      taken.2.ExitsZero ∧ isFile taken.2.after taken.1 = true := by
  rcases calls with _ | ⟨compiled, _ | ⟨linked, _ | ⟨executed, rest⟩⟩⟩ <;>
    simp [Pair.plan, Attempt.passes_iff]

/-- What a failure quotes as error output is that of the record of its own step, or nothing. -/
theorem Blamed.stderr_eq (hblamed : Blamed isFile settings pair exchanges failure)
    (hheeds : Heeds exchanges)
    (hnone : ∀ first rest e, exchanges = first ++ rest → Obstructed settings pair first e →
      attempts exchanges = []) :
    failure.stderr = (((recordsOf (pair.plan settings) (attempts exchanges)).find? fun record =>
      record.step = failure.step).map (·.capture.stderrText)).getD "" := by
  have hsteps := nodup_steps_plan settings pair
  cases hblamed with
  | obstructed hexchanges hobstructed =>
    rw [hnone _ _ _ hexchanges hobstructed, recordsOf_nil]
    rfl
  | stopped hstopped =>
    cases hstopped with
    | @cancelled planned before after seen hexchanges hnext =>
      have hafter := hheeds.idle _ _ _ hexchanges
      have hseen : attempts (⟨.isCancelled, true, seen⟩ :: after) = [] := hafter
      rw [hexchanges, attempts_append, hseen, List.append_nil, find?_recordsOf hsteps hnext]
      simp
    | @called planned attempt _ htaken hfault =>
      obtain ⟨index, hindex⟩ := List.mem_iff_getElem?.1 htaken
      obtain ⟨hplanned, hattempt⟩ := List.getElem?_zip_eq_some.1 hindex
      rw [hfault.step_eq, find?_recordsOf hsteps hplanned, hattempt, Option.bind_some,
        hfault.stderr_eq planned.step]

/-- The record of the program's own step is there once nothing has failed. -/
theorem Account.executed
    (haccount : Account isFile settings (pair.plan settings) (attempts exchanges) records none) :
    ∃ attempt capture, (attempts exchanges)[2]? = some attempt ∧ attempt.answer = .ok capture ∧
      records.find? (fun record => record.step = .execute) = some ⟨.execute, capture⟩ := by
  obtain ⟨hlength, hpassed⟩ := haccount.failure_eq_none_iff.1 rfl
  have hplanned : (pair.plan settings)[2]? = some ⟨.execute, pair.executeCommand, none⟩ := rfl
  have hcalled : 2 < (attempts exchanges).length := by simp [hlength, Pair.plan]
  obtain ⟨executed, hexecuted⟩ : ∃ executed, (attempts exchanges)[2]? = some executed :=
    ⟨_, List.getElem?_eq_getElem hcalled⟩
  have htaken : ((pair.plan settings).zip (attempts exchanges))[2]? =
      some (⟨.execute, pair.executeCommand, none⟩, executed) :=
    List.getElem?_zip_eq_some.2 ⟨hplanned, hexecuted⟩
  obtain ⟨capture, hanswer, -, -⟩ := hpassed _ (List.mem_of_getElem? htaken)
  refine ⟨executed, capture, hexecuted, hanswer, ?_⟩
  rw [haccount.records_eq, find?_recordsOf (nodup_steps_plan settings pair) hplanned, hexecuted,
    Option.bind_some, Attempt.record?_of_ok hanswer]

theorem accounted_finish
    (haccount : Account isFile settings (pair.plan settings) (attempts exchanges) records ending)
    (hheeds : Heeds exchanges)
    (hnone : ∀ first rest e, exchanges = first ++ rest → Obstructed settings pair first e →
      attempts exchanges = [])
    (hblamed : ∀ failure, ending = some failure ↔ Blamed isFile settings pair exchanges failure) :
    Accounted isFile settings pair exchanges (finish pair records ending) where
  generation_eq := rfl
  fixture_eq := rfl
  commands_eq := haccount.commands_eq
  limitMs_eq := haccount.limitMs_eq
  heeds := hheeds
  attempts_eq_nil_of_obstructed := hnone
  earlier_passed := earlier_pass_iff.1 haccount.earlier_passed
  steps_eq := haccount.records_eq.trans (recordsOf_eq _ _)
  failure_eq_none_iff := haccount.failure_eq_none_iff.trans all_pass_iff
  failure_eq_some_iff := hblamed
  stderr_eq failure hfailure := by
    rw [((hblamed failure).1 hfailure).stderr_eq hheeds hnone, ← haccount.records_eq]
    rfl
  printed hnone := by
    cases (hnone : ending = none)
    obtain ⟨attempt, capture, hattempt, hanswer, hfind⟩ := haccount.executed
    refine ⟨attempt, capture, hattempt, hanswer, ?_, ?_, ?_⟩
    · simp [succeeded, finish, hfind]
    · simp [finish, hfind]
    · simp [output?, succeeded, record?, finish, hfind]
  silent hsome := by
    have hisSome : ending.isSome = true := Option.isSome_iff_ne_none.2 hsome
    have hsucceeded : (finish pair records ending).succeeded = false := by
      simp [succeeded, finish, hisSome]
    refine ⟨hsucceeded, ?_, ?_⟩
    · simp [finish, hisSome]
    · simp [output?, hsucceeded]

end

/-- Whatever a runner does and whenever the run is cancelled, the trial of a pair accounts for the
    calls that were made: they are the first of the three steps, up to the first that fails; each
    that captured a program is on record; and it fails exactly by the cause that arose, at the step
    at which it arose. -/
theorem accounted_perform {ρ : Type} (runner : Runner ρ) (raised : Nat → Bool)
    (settings : Settings) (stage : Stage) (fixture : Fixture) (world : World ρ) :
    Accounted World.holds settings
      ⟨stage, fixture, .under settings.artifactDir stage.generation fixture.id⟩
      ((perform settings stage fixture).transcript (World.answerRaising raised runner) (world, 0))
      ((perform settings stage fixture).run (World.answerRaising raised runner) (world, 0)).1 := by
  have hviews := World.views_holds raised runner
  have hconsistent := Job.consistent_transcript (World.answerRaising raised runner)
    (perform settings stage fixture) (world, 0)
  have hyields := Job.yields_transcript (World.answerRaising raised runner)
    (perform settings stage fixture) (world, 0)
  obtain ⟨driven, tail, records, failure, hexchanges, hdriven, haside, htrial⟩ :=
    perform_yields hyields
  rw [hexchanges] at hconsistent
  rw [hexchanges, htrial]
  have hcalls : attempts (driven ++ tail) = attempts driven := by
    rw [attempts_append, haside.attempts_eq_nil, List.append_nil]
  apply accounted_finish
  · rw [hcalls]
    exact hdriven.account hviews hconsistent.left
  · refine hdriven.heeds.append (.of_aside haside) ?_
    exact fun _ => haside.attempts_eq_nil
  · intro first rest e hsplit hobstructed
    rw [hcalls]
    exact hdriven.attempts_eq_nil_of_obstructed hsplit hobstructed
  · intro failure
    exact hdriven.failure_eq_some_iff hviews hconsistent.left haside

end Trial

end BootChain
