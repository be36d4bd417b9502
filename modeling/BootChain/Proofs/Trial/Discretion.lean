import BootChain.Proofs.Job.Discipline
import BootChain.Proofs.Trial.Perform

namespace BootChain

/-- What is known of a program that was run, less what it printed. -/
def Capture.blank (capture : Capture) : Capture := { capture with stdout := [], stderr := [] }

theorem Capture.eq_of_blank_eq {capture other : Capture} (hblank : capture.blank = other.blank) :
    capture.line = other.line ∧ capture.ending = other.ending ∧
      capture.elapsedMs = other.elapsedMs := by
  simpa [blank] using hblank

def StepRecord.blank (record : StepRecord) : StepRecord :=
  { record with capture := record.capture.blank }

def Failure.blank (failure : Failure) : Failure := { failure with stderr := "" }

/-- A trial less what its programs printed. It still says whether there is an output. -/
def Trial.blank (trial : Trial) : Trial :=
  { trial with
    steps := trial.steps.map StepRecord.blank
    failure := trial.failure.map Failure.blank
    stdout := trial.stdout.map fun _ => "" }

theorem Trial.succeeded_blank (trial : Trial) : trial.blank.succeeded = trial.succeeded := by
  simp [succeeded, blank]

/-- Answers are alike if they differ in nothing but what a program printed. -/
def alikeButOutput : Job.Likeness
  | .call _ _, answer, other => answer.map Capture.blank = other.map Capture.blank
  | .createDirs _, answer, other => answer = other
  | .removeFile _, answer, other => answer = other
  | .isCancelled, answer, other => answer = other
  | .isFile _, answer, other => answer = other
  | .emit _, answer, other => answer = other

namespace Trial

open Job

variable {settings : Settings} {pair : Pair} {planned : Planned} {capture other : Capture}

/-- Two failures, or none, that differ in nothing but the error output that they quote. -/
def FailuresAlike (first second : Option Failure) : Prop :=
  first.map Failure.blank = second.map Failure.blank

theorem FailuresAlike.labels_eq {first second : Option Failure}
    (halike : FailuresAlike first second) :
    first.map (·.cause.label) = second.map (·.cause.label) := by
  have hlabels := congrArg (Option.map fun failure : Failure => failure.cause.label) halike
  simpa only [Option.map_map, Function.comp_def, Failure.blank] using hlabels

theorem checkProduct_twins (planned : Planned) (capture other : Capture) :
    Twins alikeButOutput FailuresAlike (checkProduct planned capture)
      (checkProduct planned other) := by
  unfold checkProduct
  cases planned.product with
  | none => exact .done rfl
  | some product =>
    refine .request_bind ?_
    rintro isFile _ rfl
    cases isFile with
    | true => exact .done rfl
    | false => exact .done rfl

/-- What becomes of a step does not hang on what its program printed. -/
theorem judge_twins (planned : Planned) (hcaptures : capture.blank = other.blank) :
    Twins alikeButOutput FailuresAlike (judge planned capture) (judge planned other) := by
  obtain ⟨hline, hending, -⟩ := Capture.eq_of_blank_eq hcaptures
  unfold judge
  rw [hending]
  cases causeOfEnding other.ending with
  | some cause =>
    refine .done ?_
    simp [FailuresAlike, Failure.blank, hline]
  | none => exact checkProduct_twins planned capture other

/-- What a step comes to on either side: a record and a failure that differ in output alone. -/
def StepsAlike (first second : Option StepRecord × Option Failure) : Prop :=
  first.1.map StepRecord.blank = second.1.map StepRecord.blank ∧ FailuresAlike first.2 second.2

theorem takeStep_twins (settings : Settings) (pair : Pair) (planned : Planned) :
    Twins alikeButOutput StepsAlike (takeStep settings pair planned)
      (takeStep settings pair planned) := by
  refine .request_bind ?_
  rintro isCancelled _ rfl
  cases isCancelled with
  | true => exact .done ⟨rfl, rfl⟩
  | false =>
    refine .request_bind fun answer other hanswers => ?_
    cases answer with
    | error e =>
      cases other with
      | ok capture => cases hanswers
      | error e =>
        cases hanswers
        exact .request_bind fun _ _ _ => .done ⟨rfl, rfl⟩
    | ok capture =>
      cases other with
      | error e => cases hanswers
      | ok other =>
        have hcaptures : capture.blank = other.blank := Except.ok.inj hanswers
        refine (judge_twins planned hcaptures).bind fun failure found hfailures => ?_
        obtain ⟨-, -, helapsed⟩ := Capture.eq_of_blank_eq hcaptures
        rw [hfailures.labels_eq, helapsed]
        refine .request_bind fun _ _ _ => .done ⟨?_, hfailures⟩
        simp [StepRecord.blank, hcaptures]

/-- What some steps come to on either side: records and a failure that differ in output alone. -/
def CoursesAlike (first second : List StepRecord × Option Failure) : Prop :=
  first.1.map StepRecord.blank = second.1.map StepRecord.blank ∧ FailuresAlike first.2 second.2

theorem takeSteps_twins (settings : Settings) (pair : Pair) (plan : List Planned) :
    Twins alikeButOutput CoursesAlike (takeSteps settings pair plan)
      (takeSteps settings pair plan) := by
  induction plan with
  | nil => exact .done ⟨rfl, rfl⟩
  | cons planned rest ih =>
    refine (takeStep_twins settings pair planned).bind ?_
    rintro ⟨record, failure⟩ ⟨found, stop⟩ ⟨hrecords, hfailures⟩
    have htaken : record.toList.map StepRecord.blank = found.toList.map StepRecord.blank := by
      rw [← Option.toList_map, ← Option.toList_map, hrecords]
    cases failure with
    | some failure =>
      cases stop with
      | none => cases hfailures
      | some stop => exact .done ⟨htaken, hfailures⟩
    | none =>
      cases stop with
      | some stop => cases hfailures
      | none =>
        refine ih.bind ?_
        rintro ⟨records, failure⟩ ⟨others, stop⟩ ⟨hlater, hfailures⟩
        refine .done ⟨?_, hfailures⟩
        simp only [List.map_append, htaken, hlater]

/-- The artifacts are made ready and cleared away without a look at what a program printed. -/
theorem removeStale_twins (files : List Path) :
    Twins alikeButOutput Eq (removeStale files) (removeStale files) := by
  induction files with
  | nil => exact .done rfl
  | cons file rest ih =>
    refine .request_bind ?_
    rintro answer _ rfl
    split
    · exact ih
    · exact ih
    · exact .done rfl

theorem prepare_twins (settings : Settings) (pair : Pair) :
    Twins alikeButOutput Eq (prepare settings pair) (prepare settings pair) := by
  refine .request_bind ?_
  rintro answer _ rfl
  cases answer with
  | error e => exact .done rfl
  | ok => exact removeStale_twins _

theorem discard_twins (files : List Path) :
    Twins alikeButOutput Eq (discard files) (discard files) := by
  induction files with
  | nil => exact .done rfl
  | cons file rest ih => exact .request_bind fun _ _ _ => ih

theorem drive_twins (settings : Settings) (pair : Pair) :
    Twins alikeButOutput CoursesAlike (drive settings pair) (drive settings pair) := by
  refine (prepare_twins settings pair).bind ?_
  rintro prepared _ rfl
  cases prepared with
  | error e => exact .done ⟨rfl, rfl⟩
  | ok => exact takeSteps_twins settings pair _

theorem blank_finish (pair : Pair) {steps others : List StepRecord} {failure found : Option Failure}
    (hsteps : steps.map StepRecord.blank = others.map StepRecord.blank)
    (hfailures : failure.map Failure.blank = found.map Failure.blank) :
    (finish pair steps failure).blank = (finish pair others found).blank := by
  have hstopped : failure.isSome = found.isSome := by
    simpa using congrArg Option.isSome hfailures
  have hexecuted : ∀ records : List StepRecord,
      (records.find? fun record => record.step = .execute).map (fun _ => "") =
        ((records.map StepRecord.blank).find? fun record => record.step = .execute).map
          fun _ => "" := by
    intro records
    rw [List.find?_map, Option.map_map]
    rfl
  have hstdout := (hexecuted steps).trans ((hsteps ▸ (hexecuted others).symm :))
  rw [blank, blank, finish, finish, hstopped]
  cases found.isSome with
  | true => simp [hsteps, hfailures]
  | false => simp [hsteps, hfailures, Function.comp_def, hstdout]

theorem totalMs_map_blank (steps : List StepRecord) :
    totalMs (steps.map StepRecord.blank) = totalMs steps := by
  rw [totalMs, List.foldr_map]
  rfl

/-- The event that closes a trial does not hang on what the programs printed. -/
theorem finished_blank (pair : Pair) (trial : Trial) :
    finished pair trial.blank = finished pair trial := by
  have htotal : totalMs trial.blank.steps = totalMs trial.steps := totalMs_map_blank trial.steps
  have hfailure : trial.blank.failure = trial.failure.map Failure.blank := rfl
  rw [finished, finished, htotal, hfailure]
  cases trial.failure <;> rfl

/-- Two trials that differ in nothing but what their programs printed. -/
def Alike (first second : Trial) : Prop := first.blank = second.blank

/-- A trial asks for the same, events included, whatever its programs print. -/
theorem perform_twins (settings : Settings) (stage : Stage) (fixture : Fixture) :
    Twins alikeButOutput Alike (perform settings stage fixture)
      (perform settings stage fixture) := by
  refine (drive_twins settings _).bind ?_
  rintro ⟨steps, failure⟩ ⟨others, found⟩ ⟨hsteps, hfailures⟩
  have hfinished := blank_finish (.of settings stage fixture) hsteps hfailures
  have hevents : finished (.of settings stage fixture) (finish (.of settings stage fixture) steps
      failure) = finished (.of settings stage fixture) (finish (.of settings stage fixture) others
        found) := by
    rw [← finished_blank, hfinished, finished_blank]
  dsimp only
  rw [hevents]
  split
  · exact (discard_twins _).bind fun _ _ _ => .request_bind fun _ _ _ => .done hfinished
  · exact .request_bind fun _ _ _ => .done hfinished

end Trial

namespace World

variable {ρ τ : Type}

/-- Two worlds that are the same but for what their runners remember, and what they remember is
    related. -/
structure Alike (related : ρ → τ → Prop) (world : World ρ) (twin : World τ) : Prop where
  files_eq : world.files = twin.files
  cancelled_eq : world.cancelled = twin.cancelled
  events_eq : world.events = twin.events
  memory : related world.memory twin.memory

end World

/-- Two runners that answer every call with the same outcome or error, the same command line and
    the same time, and leave the same files, though their programs may print different things. What
    they remember of earlier calls may be different too, as long as it stays related. -/
def Runner.Alike {ρ τ : Type} (related : ρ → τ → Prop) (runner : Runner ρ) (twin : Runner τ) :
    Prop :=
  ∀ command limitMs world mirror, World.Alike related world mirror →
    (runner command limitMs world).1.map Capture.blank =
        (twin command limitMs mirror).1.map Capture.blank ∧
      (runner command limitMs world).2.files = (twin command limitMs mirror).2.files ∧
      (runner command limitMs world).2.cancelled = (twin command limitMs mirror).2.cancelled ∧
      related (runner command limitMs world).2.memory (twin command limitMs mirror).2.memory

namespace World

variable {ρ τ : Type} {related : ρ → τ → Prop} {runner : Runner ρ} {twin : Runner τ}
  {world : World ρ} {mirror : World τ}

theorem Alike.emit (halike : world.Alike related mirror) (event : Event) :
    (world.emit event).Alike related (mirror.emit event) where
  files_eq := halike.files_eq
  cancelled_eq := halike.cancelled_eq
  events_eq := by rw [World.emit, World.emit, halike.events_eq]
  memory := halike.memory

theorem Alike.raise (halike : world.Alike related mirror) :
    world.raise.Alike related mirror.raise where
  files_eq := halike.files_eq
  cancelled_eq := rfl
  events_eq := halike.events_eq
  memory := halike.memory

theorem Alike.withFiles (halike : world.Alike related mirror) (files : FileSystem) :
    Alike related { world with files } { mirror with files } where
  files_eq := rfl
  cancelled_eq := halike.cancelled_eq
  events_eq := halike.events_eq
  memory := halike.memory

/-- Worlds that are alike answer alike, and stay alike. -/
theorem Alike.answer (hrunners : Runner.Alike related runner twin)
    (halike : world.Alike related mirror) (request : Request) :
    alikeButOutput request (World.answer runner request world).1
        (World.answer twin request mirror).1 ∧
      (World.answer runner request world).2.Alike related
        (World.answer twin request mirror).2 := by
  have hfiles := halike.files_eq
  cases request with
  | createDirs directory =>
    simp only [World.answer, hfiles]
    exact ⟨rfl, halike.withFiles _⟩
  | removeFile file =>
    simp only [World.answer, World.update, hfiles]
    cases mirror.files.removeFile file with
    | ok files => exact ⟨rfl, halike.withFiles files⟩
    | error e => exact ⟨rfl, halike⟩
  | isCancelled => exact ⟨halike.cancelled_eq, halike⟩
  | call command limitMs =>
    obtain ⟨hanswer, hleft, hcancelled, hmemory⟩ := hrunners command limitMs world mirror halike
    refine ⟨hanswer, hleft, ?_, halike.events_eq, hmemory⟩
    simp only [World.answer, World.absorb, halike.cancelled_eq, hcancelled]
  | isFile file =>
    have hisFile : world.files.isFile file = mirror.files.isFile file := by rw [hfiles]
    exact ⟨hisFile, halike⟩
  | emit event => exact ⟨rfl, halike.emit event⟩

/-- The same holds if both runs are cancelled right before the requests with the same numbers. -/
theorem Alike.answerRaising (hrunners : Runner.Alike related runner twin)
    (halike : world.Alike related mirror) (raised : Nat → Bool) (number : Nat)
    (request : Request) :
    alikeButOutput request (World.answerRaising raised runner request (world, number)).1
        (World.answerRaising raised twin request (mirror, number)).1 ∧
      (World.answerRaising raised runner request (world, number)).2.1.Alike related
        (World.answerRaising raised twin request (mirror, number)).2.1 := by
  have hraised : (if raised number then world.raise else world).Alike related
      (if raised number then mirror.raise else mirror) := by
    split
    · exact halike.raise
    · exact halike
  exact hraised.answer hrunners request

end World

namespace Trial

variable {ρ τ : Type} {related : ρ → τ → Prop} {runner : Runner ρ} {twin : Runner τ}
  {world : World ρ} {mirror : World τ}

/-- A trial emits the same events whatever its programs print, whenever the run is cancelled. -/
theorem events_perform_eq (hrunners : Runner.Alike related runner twin)
    (halike : world.Alike related mirror) (raised : Nat → Bool) (settings : Settings)
    (stage : Stage) (fixture : Fixture) :
    ((perform settings stage fixture).run (World.answerRaising raised runner)
        (world, 0)).2.1.events =
      ((perform settings stage fixture).run (World.answerRaising raised twin)
        (mirror, 0)).2.1.events := by
  have htwins := perform_twins settings stage fixture
  let alikeAt (state : World ρ × Nat) (reflected : World τ × Nat) : Prop :=
    state.1.Alike related reflected.1 ∧ state.2 = reflected.2
  have hanswer : ∀ request state reflected, alikeAt state reflected →
      alikeButOutput request (World.answerRaising raised runner request state).1
          (World.answerRaising raised twin request reflected).1 ∧
        alikeAt (World.answerRaising raised runner request state).2
          (World.answerRaising raised twin request reflected).2 := by
    rintro request ⟨state, number⟩ ⟨reflected, _⟩ ⟨hstates, rfl⟩
    obtain ⟨hlike, hafter⟩ := hstates.answerRaising hrunners raised number request
    exact ⟨hlike, hafter, rfl⟩
  have hstart : alikeAt (world, 0) (mirror, 0) := ⟨halike, rfl⟩
  obtain ⟨-, hend, -⟩ := htwins.run hanswer hstart
  exact hend.events_eq

end Trial

end BootChain
