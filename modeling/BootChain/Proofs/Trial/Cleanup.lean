import BootChain.Proofs.Artifacts
import BootChain.Proofs.FileSystem.Making
import BootChain.Proofs.Job.Transcript
import BootChain.Proofs.Trial.Perform
import BootChain.Proofs.Trial.Tidy

namespace BootChain

/-- True of the requests that leave the files as they are. -/
def Request.isIdle : Request → Bool
  | .isCancelled => true
  | .isFile _ => true
  | .emit _ => true
  | _ => false

namespace World

variable {ρ : Type}

/-- The files of a run whose requests are counted. -/
def filesAt (state : World ρ × Nat) : FileSystem := state.1.files

theorem files_update_removeFile (world : World ρ) (file : Path) :
    (world.update (world.files.removeFile file)).2.files = world.files.sweep file := by
  rw [FileSystem.sweep]
  cases world.files.removeFile file with
  | ok later => rfl
  | error e => rfl

section

variable (raised : Nat → Bool) (runner : Runner ρ) (state : World ρ × Nat)

theorem filesAt_answerRaising_createDirs (directory : Path) :
    filesAt (answerRaising raised runner (.createDirs directory) state).2 =
      ((filesAt state).createDirs directory).2 := by
  obtain ⟨world, hfiles, -, hanswer⟩ :=
    exists_answerRaising raised runner (.createDirs directory) state
  rw [hanswer, filesAt, filesAt, ← hfiles]
  rfl

theorem filesAt_answerRaising_removeFile (file : Path) :
    filesAt (answerRaising raised runner (.removeFile file) state).2 =
      (filesAt state).sweep file := by
  obtain ⟨world, hfiles, -, hanswer⟩ :=
    exists_answerRaising raised runner (.removeFile file) state
  rw [hanswer, filesAt, filesAt, ← hfiles]
  exact files_update_removeFile world file

/-- A request that is about no files leaves them as they are. -/
theorem filesAt_answerRaising_of_idle {request : Request} (hidle : request.isIdle = true) :
    filesAt (answerRaising raised runner request state).2 = filesAt state := by
  obtain ⟨world, hfiles, -, hanswer⟩ := exists_answerRaising raised runner request state
  rw [hanswer, filesAt, filesAt, ← hfiles]
  cases request with
  | createDirs directory => cases hidle
  | removeFile file => cases hidle
  | call command limitMs => cases hidle
  | isCancelled => rfl
  | isFile file => rfl
  | emit event => rfl

end

end World

namespace Trial

/-- What a trial itself can make of a place among the files: there was one of its artifacts, which
    it has removed, or there was nothing, and there is its directory now or one of those on the way
    up from it. -/
inductive Change (settings : Settings) (artifacts : Artifacts) (before after : FileSystem)
    (place : Location) : Prop
  | removed {file : Path} {node : Node}
    (hfile : file = artifacts.object ∨ file = artifacts.executable)
    (hfound : before.resolve false file = .ok (.found place node false)) (hdir : node ≠ .dir)
    (hgone : after.node? place = none)
  | made {directory : Path} (hup : settings.artifactDir.UpTo directory)
    (hfree : before.node? place = none)
    (hfound : after.resolve false directory = .ok (.found place .dir false))

/-- What a trial does to the files along some exchanges, which bring them from a first state to a
    last one. -/
structure TidiedUp {σ : Type} (files : σ → FileSystem) (settings : Settings)
    (artifacts : Artifacts) (first : σ) (exchanges : List (Exchange σ)) (last : σ) : Prop where
  removeFile_eq : ∀ exchange ∈ exchanges, ∀ file, exchange.request = .removeFile file →
    file = artifacts.object ∨ file = artifacts.executable
  createDirs_eq : ∀ exchange ∈ exchanges, ∀ directory, exchange.request = .createDirs directory →
    directory = settings.artifactDir
  /-- Whatever a turn changes is changed by a call, or is a change of the trial's own. -/
  changed : ∀ turn ∈ Job.turns first exchanges, ∀ place,
    (files turn.after).node? place ≠ (files turn.before).node? place →
      (∃ command limitMs, turn.request = .call command limitMs) ∨
        Change settings artifacts (files turn.before) (files turn.after) place
  /-- What is different in the end was changed by some turn. -/
  differs : ∀ place, (files last).node? place ≠ (files first).node? place →
    ∃ turn ∈ Job.turns first exchanges,
      (files turn.after).node? place ≠ (files turn.before).node? place
  kept : settings.keepArtifacts = true → ∀ before command limitMs answer seen after,
    exchanges = before ++ ⟨.call command limitMs, answer, seen⟩ :: after →
      ∀ exchange ∈ after, ∀ file, exchange.request ≠ .removeFile file
  discarded : settings.keepArtifacts = false → ∀ file node,
    file = artifacts.object ∨ file = artifacts.executable →
      (files last).occupant? file = some node → node = .dir

section

variable {σ : Type} {settings : Settings} {stage : Stage} {fixture : Fixture} {pair : Pair}
  {planned : Planned} {plan : List Planned} {exchanges before after : List (Exchange σ)}
  {record : Option StepRecord} {records : List StepRecord} {ending : Option Failure} {trial : Trial}

/-- None of the exchanges removes a file. -/
def Sparing (exchanges : List (Exchange σ)) : Prop :=
  ∀ exchange ∈ exchanges, ∀ file, exchange.request ≠ .removeFile file

theorem sparing_nil : Sparing ([] : List (Exchange σ)) := List.forall_mem_nil _

theorem sparing_append_iff {first second : List (Exchange σ)} :
    Sparing (first ++ second) ↔ Sparing first ∧ Sparing second :=
  List.forall_mem_append

theorem StepCourse.sparing (hcourse : StepCourse settings pair planned exchanges record ending) :
    Sparing exchanges := by
  cases hcourse <;> simp [Sparing]

theorem Course.sparing (hcourse : Course settings pair plan exchanges records ending) :
    Sparing exchanges := by
  induction hcourse with
  | finished => exact sparing_nil
  | stopped hstep => exact hstep.sparing
  | passed hstep _ ih => exact sparing_append_iff.2 ⟨hstep.sparing, ih⟩

/-- What a trial does before its steps calls for nothing, and what it does in them removes
    nothing. -/
theorem Driven.exists_split (hdriven : Driven settings pair exchanges records ending) :
    ∃ first second, exchanges = first ++ second ∧ Aside first ∧ Sparing second := by
  cases hdriven with
  | unprepared hprepare => exact ⟨exchanges, [], by simp, prepare_aside hprepare, sparing_nil⟩
  | prepared hprepare hcourse => exact ⟨_, _, rfl, prepare_aside hprepare, hcourse.sparing⟩

/-- A trial that keeps its artifacts removes no file once it has called for a program. -/
theorem sparing_of_called {command : Command} {limitMs : Nat} {answer : Except CallError Capture}
    {seen : σ} (hyields : (perform settings stage fixture).Yields exchanges trial)
    (hkeep : settings.keepArtifacts = true)
    (heq : exchanges = before ++ ⟨.call command limitMs, answer, seen⟩ :: after) :
    Sparing after := by
  obtain ⟨driven, cleared, told, records, failure, rfl, hdriven, hcleared, -⟩ :=
    perform_closing hyields
  obtain ⟨first, second, rfl, haside, hsecond⟩ := hdriven.exists_split
  rw [clearance, if_pos hkeep] at hcleared
  obtain ⟨rfl, -⟩ := hcleared
  rw [List.append_assoc] at heq
  obtain ⟨between, rfl, -⟩ | ⟨between, rfl, hcalled⟩ := split_cases heq
  · cases haside _ List.mem_append_cons_self
  · have hlater : Sparing (between ++ ⟨.call command limitMs, answer, seen⟩ :: after) := by
      rw [← hcalled]
      exact sparing_append_iff.2 ⟨hsecond, by simp [Sparing]⟩
    exact (List.forall_mem_cons.1 (sparing_append_iff.1 hlater).2).2

end

section

variable {ρ : Type} {raised : Nat → Bool} {runner : Runner ρ} {settings : Settings} {stage : Stage}
  {fixture : Fixture} {artifacts : Artifacts} {place : Location} {request : Request}

theorem named_of_mem_paths (settings : Settings) (stage : Stage) (fixture : Fixture) :
    ∀ file ∈ (Pair.of settings stage fixture).artifacts.paths,
      ∃ name, Path.IsName name ∧ file = settings.artifactDir.join ⟨name⟩ := by
  intro file hfile
  rw [Pair.of, Artifacts.paths_under] at hfile
  obtain ⟨name, hname, rfl⟩ := List.mem_map.1 hfile
  exact ⟨name, Artifacts.isName_of_mem_fileNames hname, rfl⟩

theorem change_of_sweep {files : FileSystem} {file : Path} (hfile : file ∈ artifacts.paths)
    (hne : (files.sweep file).node? place ≠ files.node? place) :
    Change settings artifacts files (files.sweep file) place := by
  obtain ⟨node, hfound, hdir, hgone⟩ := FileSystem.of_node?_sweep_ne hne
  exact .removed (Artifacts.mem_paths_iff.1 hfile) hfound hdir hgone

theorem change_of_createDirs {files : FileSystem}
    (hne : (files.createDirs settings.artifactDir).2.node? place ≠ files.node? place) :
    Change settings artifacts files (files.createDirs settings.artifactDir).2 place := by
  have hmakes := files.makesDirs_createDirs settings.artifactDir
  obtain ⟨directory, hup, hfound⟩ := hmakes.made place hne
  exact .made hup (hmakes.part.node?_eq_none hne) hfound

/-- What a request of a trial changes among the files is changed by a call, or by the trial. -/
theorem change_of_answer {readiness : Readiness} {state : World ρ × Nat}
    (hallowed : (tidy settings.artifactDir artifacts.paths).allows readiness request)
    (hne : (World.filesAt (World.answerRaising raised runner request state).2).node? place ≠
      (World.filesAt state).node? place) :
    (∃ command limitMs, request = .call command limitMs) ∨
      Change settings artifacts (World.filesAt state)
        (World.filesAt (World.answerRaising raised runner request state).2) place := by
  have hidle : request.isIdle = false := by
    by_contra hidle
    rw [World.filesAt_answerRaising_of_idle _ _ _ (eq_true_of_ne_false hidle)] at hne
    exact hne rfl
  cases request with
  | createDirs directory =>
    cases eq_of_allows hallowed
    rw [World.filesAt_answerRaising_createDirs] at hne ⊢
    exact .inr (change_of_createDirs hne)
  | removeFile file =>
    rw [World.filesAt_answerRaising_removeFile] at hne ⊢
    exact .inr (change_of_sweep (mem_of_allows hallowed) hne)
  | call command limitMs => exact .inl ⟨command, limitMs, rfl⟩
  | isCancelled => cases hidle
  | isFile file => cases hidle
  | emit event => cases hidle

theorem filesAt_run_discard (raised : Nat → Bool) (runner : Runner ρ) (files : List Path)
    (state : World ρ × Nat) :
    World.filesAt ((discard files).run (World.answerRaising raised runner) state).2 =
      files.foldl FileSystem.sweep (World.filesAt state) := by
  induction files generalizing state with
  | nil => rfl
  | cons file rest ih =>
    rw [List.foldl_cons, ← World.filesAt_answerRaising_removeFile raised runner]
    exact ih _

theorem filesAt_run_emit_done (raised : Nat → Bool) (runner : Runner ρ) (event : Event)
    (trial : Trial) (state : World ρ × Nat) :
    World.filesAt ((Job.request (.emit event) >>= fun _ => Job.done trial).run
      (World.answerRaising raised runner) state).2 = World.filesAt state := by
  have hidle : (Request.emit event).isIdle = true := rfl
  exact World.filesAt_answerRaising_of_idle raised runner state hidle

/-- A trial that keeps nothing has removed its artifacts from some files, and leaves those. -/
theorem exists_filesAt_run_perform (raised : Nat → Bool) (runner : Runner ρ)
    (hkeep : settings.keepArtifacts = false) (state : World ρ × Nat) : ∃ files : FileSystem,
      World.filesAt ((perform settings stage fixture).run (World.answerRaising raised runner)
        state).2 =
      (Pair.of settings stage fixture).artifacts.paths.foldl FileSystem.sweep files := by
  rw [perform, Job.run_bind]
  generalize (drive settings (.of settings stage fixture)).run _ state = driven
  obtain ⟨⟨records, failure⟩, between⟩ := driven
  refine ⟨World.filesAt between, ?_⟩
  simp only [hkeep, Bool.not_false, if_true]
  rw [Job.run_bind, ← filesAt_run_discard raised runner]
  exact filesAt_run_emit_done raised runner _ _ _

end

/-- However a trial ends, whatever its runner does and whenever the run is cancelled, it removes
    nothing but its two artifacts and makes nothing but its artifact directory, with the
    directories on the way there. If it is to keep its artifacts, it removes nothing from its first
    call on; if it is not, neither of them is left as a file or a symbolic link. -/
theorem perform_tidiedUp {ρ : Type} (runner : Runner ρ) (raised : Nat → Bool)
    (settings : Settings) (stage : Stage) (fixture : Fixture) (world : World ρ) :
    TidiedUp World.filesAt settings (.under settings.artifactDir stage.generation fixture.id)
      (world, 0)
      ((perform settings stage fixture).transcript (World.answerRaising raised runner) (world, 0))
      ((perform settings stage fixture).run (World.answerRaising raised runner) (world, 0)).2 := by
  have hyields := Job.yields_transcript (World.answerRaising raised runner)
    (perform settings stage fixture) (world, 0)
  have hconsistent := Job.consistent_transcript (World.answerRaising raised runner)
    (perform settings stage fixture) (world, 0)
  have hkeeps := perform_keeps settings stage fixture
  exact {
    removeFile_eq := by
      intro exchange hmem file hrequest
      obtain ⟨readiness, hallowed⟩ := hkeeps.exists_allows hyields hmem
      rw [hrequest] at hallowed
      exact Artifacts.mem_paths_iff.1 (mem_of_allows hallowed)
    createDirs_eq := by
      intro exchange hmem directory hrequest
      obtain ⟨readiness, hallowed⟩ := hkeeps.exists_allows hyields hmem
      rw [hrequest] at hallowed
      exact eq_of_allows hallowed
    changed := by
      intro turn hturn place hne
      obtain ⟨exchange, hmem, hrequest⟩ := Job.exists_exchange_of_mem_turns hturn
      obtain ⟨readiness, hallowed⟩ := hkeeps.exists_allows hyields hmem
      rw [hrequest] at hallowed
      rw [hconsistent.after_eq hturn] at hne ⊢
      exact change_of_answer hallowed hne
    differs := by
      intro place hne
      by_contra hnone
      simp only [not_exists, not_and, not_not] at hnone
      exact hne (Job.view_run_eq (fun state => (World.filesAt state).node? place) hnone)
    kept := fun hkeep before command limitMs answer seen after heq =>
      sparing_of_called hyields hkeep heq
    discarded := by
      intro hkeep file node hfile hoccupant
      obtain ⟨files, hfiles⟩ := exists_filesAt_run_perform raised runner hkeep (world, 0)
      rw [hfiles] at hoccupant
      exact FileSystem.occupant?_foldl_sweep (named_of_mem_paths settings stage fixture)
        (Artifacts.mem_paths_iff.2 hfile) hoccupant }

end Trial

end BootChain
