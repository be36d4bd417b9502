import BootChain.Host
import BootChain.Proofs.FileSystem.Making
import BootChain.Proofs.Matrix.Schedule

namespace BootChain

namespace Host

/-- What comes of the call of a program in a world, with the world afterwards. A program that cannot
    be started has done nothing, and one that is started after the cancellation is stopped before
    it does anything. Of one that is stopped at its limit, what it printed is lost and what it did
    to files is not. -/
inductive Called (command : Command) (limitMs : Nat) (world : World Unit) :
    Except CallError Capture × World Unit → Prop
  | unstarted (cause : StartCause) (message : String) :
    Called command limitMs world (.error (.start command.line cause message), world)
  | cancelled (hcancelled : world.cancelled = true) :
    Called command limitMs world (.ok ⟨command.line, .cancelled, [], [], 0⟩, world)
  | timedOut (hgoing : world.cancelled = false) (files : FileSystem)
    (hplace : files.workingDirectory = world.files.workingDirectory) :
    Called command limitMs world
      (.ok ⟨command.line, .timedOut limitMs, [], [], limitMs⟩, { world with files })
  | ended (hgoing : world.cancelled = false) (code : Option Int)
    (hcode : ∀ status ∈ code, 0 ≤ status ∧ status < 256) (stdout stderr : Bytes) (elapsedMs : Nat)
    (files : FileSystem) (hplace : files.workingDirectory = world.files.workingDirectory) :
    Called command limitMs world
      (.ok ⟨command.line, .exited code, stdout, stderr, elapsedMs⟩, { world with files })

/-- A program that ends by itself ends with a status of one octet, or by a signal. -/
theorem exists_code_of_ofStop? {process : Shell.Process} {result : Except Shell.Stop Unit}
    {ending : Shell.Ending} (hending : Shell.Ending.ofStop? process result = some ending) :
    ∃ code : Option Int, endingOf ending = .exited code ∧
      ∀ status ∈ code, 0 ≤ status ∧ status < 256 := by
  unfold Shell.Ending.ofStop? at hending
  split at hending
  · cases hending
  · cases hending
    exact ⟨none, rfl, fun status hstatus => absurd hstatus (by simp)⟩
  · cases hending
    refine ⟨_, rfl, fun status hstatus => ?_⟩
    cases hstatus
    omega

variable (files : FileSystem) (line : String) (deadline : Deadline) (image : Shell.Image)

/-- Nothing runs in no time. -/
theorem run_of_ms_eq_zero (hms : deadline.ms = 0) :
    run files line deadline image = (⟨line, deadline.ending, [], [], 0⟩, files) := by
  simp only [run, if_pos hms]
  rw [hms]
  rfl

/-- A program is stopped when its time is over, or ends by itself. -/
theorem run_cases :
    (∃ later, run files line deadline image =
      (⟨line, deadline.ending, [], [], deadline.ms⟩, later)) ∨
    ∃ code stdout stderr elapsedMs later, (∀ status ∈ code, 0 ≤ status ∧ status < 256) ∧
      run files line deadline image =
        (⟨line, .exited code, stdout, stderr, elapsedMs⟩, later) := by
  simp only [run]
  split
  · exact .inl ⟨_, rfl⟩
  · next ending hending =>
    obtain ⟨code, hcode, hbound⟩ := exists_code_of_ofStop? hending
    rw [hcode]
    exact .inr ⟨code, _, _, _, _, hbound, rfl⟩

theorem runner_eq (command : Command) (limitMs : Nat) (world : World Unit) :
    let called := call world.files command ⟨limitMs, if world.cancelled then some 0 else none⟩
    runner command limitMs world = (called.1, { world with files := called.2 }) := rfl

theorem called_runner (command : Command) (limitMs : Nat) (world : World Unit) :
    Called command limitMs world (runner command limitMs world) := by
  rw [runner_eq]
  cases himage : Host.image world.files command with
  | error e =>
    rw [call, himage]
    exact .unstarted _ _
  | ok image =>
    rw [call, himage]
    cases hcancelled : world.cancelled with
    | true =>
      have hstopped : run world.files command.line ⟨limitMs, some 0⟩ image =
          (⟨command.line, .cancelled, [], [], 0⟩, world.files) :=
        run_of_ms_eq_zero _ _ _ _ (Nat.min_zero limitMs)
      simp only [if_true, hstopped]
      rw [← hcancelled]
      exact .cancelled hcancelled
    | false =>
      simp only [Bool.false_eq_true, if_false]
      have hms : Deadline.ms ⟨limitMs, none⟩ = limitMs := Nat.min_self limitMs
      obtain ⟨later, hrun⟩ | ⟨code, stdout, stderr, elapsedMs, later, hcode, hrun⟩ :=
        run_cases world.files command.line ⟨limitMs, none⟩ image
      · rw [hrun, hms, ← hcancelled]
        exact .timedOut hcancelled _ rfl
      · rw [hrun, ← hcancelled]
        exact .ended hcancelled code hcode stdout stderr elapsedMs _ rfl

/-- What of a world is the same as long as nobody else takes a hand in it: whether the run has been
    cancelled, and what relative paths start from. -/
structure Abides (world left : World Unit) : Prop where
  cancelled_eq : left.cancelled = world.cancelled
  workingDirectory_eq : left.files.workingDirectory = world.files.workingDirectory

variable {world left later : World Unit}

theorem Abides.refl (world : World Unit) : Abides world world := ⟨rfl, rfl⟩

theorem Abides.trans (hleft : Abides world left) (hlater : Abides left later) :
    Abides world later where
  cancelled_eq := hlater.cancelled_eq.trans hleft.cancelled_eq
  workingDirectory_eq := hlater.workingDirectory_eq.trans hleft.workingDirectory_eq

theorem Called.abides {command : Command} {limitMs : Nat} {answer : Except CallError Capture}
    (hcalled : Called command limitMs world (answer, left)) : Abides world left := by
  cases hcalled with
  | unstarted | cancelled => exact .refl world
  | timedOut _ _ hplace => exact ⟨rfl, hplace⟩
  | ended _ _ _ _ _ _ _ hplace => exact ⟨rfl, hplace⟩

theorem abides_answer (request : Request) (world : World Unit) :
    Abides world (World.answer runner request world).2 := by
  cases request with
  | createDirs directory =>
    have hmakes := world.files.makesDirs_createDirs directory
    exact ⟨rfl, hmakes.part.workingDirectory_eq.symm⟩
  | removeFile file =>
    cases hremoved : world.files.removeFile file with
    | error e =>
      rw [World.answer, hremoved]
      exact .refl world
    | ok files =>
      obtain ⟨place, node, -, -, rfl⟩ := FileSystem.removeFile_eq_ok_iff.1 hremoved
      rw [World.answer, hremoved]
      exact ⟨rfl, rfl⟩
  | call command limitMs =>
    obtain ⟨hcancelled, hplace⟩ := (called_runner command limitMs world).abides
    exact ⟨(congrArg (world.cancelled || ·) hcancelled).trans (Bool.or_self _), hplace⟩
  | isCancelled | isFile | emit => exact ⟨rfl, rfl⟩

section Run

variable {matrix : Matrix} {run : Run Unit} {schedule : List Action}

theorem abides_start (matrix : Matrix) (world : World Unit) :
    Abides world (matrix.start world).world := by
  change Abides world (matrix.opening.foldl World.emit world)
  generalize matrix.opening = events
  induction events generalizing world with
  | nil => exact .refl world
  | cons event rest ih => exact (abides_answer (.emit event) world).trans (ih _)

theorem abides_act {action : Action} (haction : action ≠ .raise) :
    Abides run.world (matrix.act (fun _ _ => runner) run action).world := by
  cases action with
  | raise => exact absurd rfl haction
  | move index move =>
    rw [Matrix.act]
    split
    · exact .refl _
    · split
      · exact .refl _
      · next hadvance =>
        cases Matrix.advance_of_advance? hadvance with
        | ask => exact abides_answer ..
        | _ => exact .refl _

theorem abides_foldl (matrix : Matrix) (run : Run Unit) (hraise : .raise ∉ schedule) :
    Abides run.world (schedule.foldl (matrix.act fun _ _ => runner) run).world := by
  induction schedule generalizing run with
  | nil => exact .refl _
  | cons action rest ih =>
    rw [List.mem_cons, not_or] at hraise
    exact (abides_act (Ne.symm hraise.1)).trans (ih _ hraise.2)

/-- Programs run by the host never cancel the run that they are of, nor do they move it to another
    directory. -/
theorem abides_follow (matrix : Matrix) (world : World Unit) (hraise : .raise ∉ schedule) :
    Abides world (matrix.follow (fun _ _ => runner) world schedule).world :=
  (abides_start matrix world).trans (abides_foldl matrix (matrix.start world) hraise)

/-- A run that nobody cancels from outside leaves no job out. -/
theorem started_follow (hgoing : world.cancelled = false) (hraise : .raise ∉ schedule) :
    ∀ task ∈ (matrix.follow (fun _ _ => runner) world schedule).tasks,
      task.phase.outcome? ≠ some .notStarted := by
  intro task htask houtcome
  have hsound := Matrix.sound_follow matrix (fun _ _ => runner) world schedule
  have hcancelled := hsound.cancelled_of_notStarted task htask houtcome
  rw [(abides_follow matrix world hraise).cancelled_eq, hgoing] at hcancelled
  cases hcancelled

end Run

end Host

end BootChain
