import BootChain.Matrix.Schedule
import Mathlib.Data.List.Basic

namespace BootChain

variable {ρ : Type}

theorem World.cancelled_update (world : World ρ) (result : Except IoError FileSystem) :
    (world.update result).2.cancelled = world.cancelled := by
  cases result <;> rfl

/-- No request takes the cancellation of a run back. -/
theorem World.cancelled_answer {runner : Runner ρ} {request : Request} {world : World ρ}
    (hcancelled : world.cancelled = true) : (answer runner request world).2.cancelled = true := by
  cases request with
  | createDirs directory => exact hcancelled
  | removeFile file => exact (world.cancelled_update _).trans hcancelled
  | isCancelled => exact hcancelled
  | call command limitMs => simp [answer, absorb, hcancelled]
  | isFile file => exact hcancelled
  | emit event => exact hcancelled

/-- The outcome of a job as it is handed in, once it has been. -/
def Task.arrival? (task : Task) : Option Arrival :=
  task.phase.joined?.map (Matrix.arrival task.stage task.fixture)

namespace Matrix

variable {settings : Settings} {runner : Stage → Fixture → Runner ρ} {permitFree : Bool}
  {world left : World ρ} {task : Task} {phase : Phase} {matrix : Matrix} {run : Run ρ}

theorem mem_pairs_iff {stage : Stage} {fixture : Fixture} : (stage, fixture) ∈ matrix.pairs ↔
    stage ∈ matrix.chain.available ∧ fixture ∈ matrix.fixtures := by
  simp [pairs]

/-- All the ways in which a job can go on, with the phase and the world after it. -/
inductive Advance (settings : Settings) (runner : Stage → Fixture → Runner ρ) (permitFree : Bool)
    (world : World ρ) (task : Task) : Phase → World ρ → Prop
  | enter (hphase : task.phase = .waiting) (hfree : permitFree = true) :
    Advance settings runner permitFree world task .admitted world
  | giveUp (hphase : task.phase = .waiting) (hcancelled : world.cancelled = true) :
    Advance settings runner permitFree world task (.ended .notStarted) world
  | turnBack (hphase : task.phase = .admitted) (hcancelled : world.cancelled = true) :
    Advance settings runner permitFree world task (.ended .notStarted) world
  | begin (hphase : task.phase = .admitted) (hgoing : world.cancelled = false) :
    Advance settings runner permitFree world task
      (.running (Trial.perform settings task.stage task.fixture)) world
  | ask {request : Request} {next : request.Answer → Job Trial}
    (hphase : task.phase = .running (.ask request next)) :
    Advance settings runner permitFree world task
      (.running (next (World.answer (runner task.stage task.fixture) request world).1))
      (World.answer (runner task.stage task.fixture) request world).2
  | finish {trial : Trial} (hphase : task.phase = .running (.done trial)) :
    Advance settings runner permitFree world task (.ended (.completed trial)) world
  | breakDown {rest : Job Trial} (hphase : task.phase = .running rest) :
    Advance settings runner permitFree world task (.ended .brokeDown) world
  | join {outcome : Outcome} (hphase : task.phase = .ended outcome) :
    Advance settings runner permitFree world task (.joined outcome) world

theorem advance_of_advance? {move : Move}
    (hadvance : advance? settings runner permitFree world task move = some (phase, left)) :
    Advance settings runner permitFree world task phase left := by
  unfold advance? at hadvance
  split at hadvance
  next hphase =>
    split at hadvance
    next hfree =>
      cases hadvance
      exact .enter hphase hfree
    next => cases hadvance
  next hphase =>
    split at hadvance
    next hcancelled =>
      cases hadvance
      exact .giveUp hphase hcancelled
    next => cases hadvance
  next hphase =>
    split at hadvance
    next hcancelled =>
      cases hadvance
      exact .turnBack hphase hcancelled
    next hgoing =>
      cases hadvance
      exact .begin hphase (Bool.not_eq_true _ ▸ hgoing)
  next hphase =>
    cases hadvance
    exact .finish hphase
  next hphase =>
    cases hadvance
    exact .ask hphase
  next hphase =>
    cases hadvance
    exact .breakDown hphase
  next hphase =>
    cases hadvance
    exact .join hphase
  next => cases hadvance

namespace Advance

variable (hadvance : Advance settings runner permitFree world task phase left)
include hadvance

theorem cancelled_mono (hcancelled : world.cancelled = true) : left.cancelled = true := by
  cases hadvance with
  | ask => exact World.cancelled_answer hcancelled
  | _ => exact hcancelled

/-- A job that is not started has seen the cancellation. -/
theorem cancelled_of_notStarted (hbefore : task.phase.outcome? = some .notStarted →
    world.cancelled = true) (houtcome : phase.outcome? = some .notStarted) :
    left.cancelled = true := by
  cases hadvance with
  | giveUp _ hcancelled => exact hcancelled
  | turnBack _ hcancelled => exact hcancelled
  | join hphase =>
    rw [hphase] at hbefore
    exact hbefore houtcome
  | _ => cases houtcome

theorem joined?_eq_none : task.phase.joined? = none := by
  cases hadvance with
  | _ hphase => rw [hphase]; rfl

end Advance

private theorem exists_split_set {tasks : List Task} {index : Nat}
    (hindex : tasks[index]? = some task) :
    ∃ before after, tasks = before ++ task :: after ∧
      ∀ changed, tasks.set index changed = before ++ changed :: after := by
  obtain ⟨hlt, hget⟩ := List.getElem?_eq_some_iff.1 hindex
  refine ⟨tasks.take index, tasks.drop (index + 1), ?_, fun changed => ?_⟩
  · rw [← hget, ← List.drop_eq_getElem_cons hlt, List.take_append_drop]
  · rw [List.set_eq_take_append_cons_drop, if_pos hlt]

/-- What an action does to a run: nothing, or a cancellation from outside, or one job goes on. -/
theorem act_cases (matrix : Matrix) (runner : Stage → Fixture → Runner ρ) (run : Run ρ)
    (action : Action) :
    matrix.act runner run action = run ∨
    matrix.act runner run action = { run with world := run.world.raise } ∨
    ∃ before task after phase left, run.tasks = before ++ task :: after ∧
      Advance matrix.settings runner (run.permitFree matrix.jobs) run.world task phase left ∧
      matrix.act runner run action =
        { tasks := before ++ { task with phase } :: after, world := left
          arrivals := run.arrivals ++
            (phase.joined?.map (arrival task.stage task.fixture)).toList } := by
  cases action with
  | raise => exact .inr (.inl rfl)
  | move index move =>
    simp only [act]
    split
    next => exact .inl rfl
    next task hindex =>
      split
      next => exact .inl rfl
      next phase left hadvance =>
        obtain ⟨before, after, hsplit, hset⟩ := exists_split_set hindex
        refine .inr (.inr ⟨before, task, after, phase, left, hsplit, ?_, ?_⟩)
        · exact advance_of_advance? hadvance
        · rw [hset]

/-- What stays true in a run: there is one job for each pair, just the outcomes of the joined jobs
    have been handed in, and a job is left out only once the run is cancelled. -/
structure Sound (matrix : Matrix) (run : Run ρ) : Prop where
  pairs_eq : run.tasks.map (fun task => (task.stage, task.fixture)) = matrix.pairs
  arrivals_perm : run.arrivals.Perm (run.tasks.filterMap Task.arrival?)
  cancelled_of_notStarted : ∀ task ∈ run.tasks, task.phase.outcome? = some .notStarted →
    run.world.cancelled = true

theorem sound_start (matrix : Matrix) (world : World ρ) : matrix.Sound (matrix.start world) where
  pairs_eq := by simp [start, Task.ofPair, Function.comp_def]
  arrivals_perm := by
    have hnone : (matrix.start world).tasks.filterMap Task.arrival? = [] := by
      simp [start, Task.ofPair, Task.arrival?, Phase.joined?]
    rw [hnone]
    exact .nil
  cancelled_of_notStarted := by
    intro task htask houtcome
    obtain ⟨pair, -, rfl⟩ := List.mem_map.1 htask
    cases houtcome

theorem Sound.act (hsound : matrix.Sound run) (runner : Stage → Fixture → Runner ρ)
    (action : Action) : matrix.Sound (matrix.act runner run action) := by
  obtain hact | hact | ⟨before, task, after, phase, left, htasks, hadvance, hact⟩ :=
    act_cases matrix runner run action
  · rwa [hact]
  · rw [hact]
    exact ⟨hsound.pairs_eq, hsound.arrivals_perm, fun _ _ _ => rfl⟩
  · have hpairs := hsound.pairs_eq
    have hperm := hsound.arrivals_perm
    have hnotStarted := hsound.cancelled_of_notStarted
    rw [htasks] at hpairs hperm hnotStarted
    rw [hact]
    have hopen : Task.arrival? task = none := by
      rw [Task.arrival?, hadvance.joined?_eq_none]
      rfl
    have hchanged : Task.arrival? { task with phase } =
        phase.joined?.map (arrival task.stage task.fixture) := rfl
    rw [List.filterMap_append, List.filterMap_cons_none hopen] at hperm
    -- the job that moves was not handed in before, so that at most its own arrival is new
    refine ⟨by simpa using hpairs, ?_, fun other hother houtcome => ?_⟩
    · rw [List.filterMap_append, ← hchanged]
      cases hjoined : Task.arrival? { task with phase } with
      | none => rwa [List.filterMap_cons_none hjoined, Option.toList_none, List.append_nil]
      | some found =>
        rw [List.filterMap_cons_some hjoined]
        calc run.arrivals ++ [found]
          _ |>.Perm (found :: run.arrivals) := List.perm_append_singleton ..
          _ |>.Perm (found :: (before.filterMap Task.arrival? ++ after.filterMap Task.arrival?)) :=
            hperm.cons found
          _ |>.Perm (before.filterMap Task.arrival? ++ found :: after.filterMap Task.arrival?) :=
            List.perm_middle.symm
    · rcases List.mem_append.1 hother with hbefore | hrest
      · exact hadvance.cancelled_mono (hnotStarted other (List.mem_append_left _ hbefore) houtcome)
      · rcases List.mem_cons.1 hrest with rfl | hafter
        · exact hadvance.cancelled_of_notStarted (hnotStarted task (by simp)) houtcome
        · exact hadvance.cancelled_mono (hnotStarted other (by simp [hafter]) houtcome)

/-- What each action keeps holds of a run after any schedule. -/
theorem follow_induction {motive : Run ρ → Prop} (matrix : Matrix)
    (runner : Stage → Fixture → Runner ρ) (world : World ρ) (schedule : List Action)
    (hstart : motive (matrix.start world))
    (hact : ∀ run action, motive run → motive (matrix.act runner run action)) :
    motive (matrix.follow runner world schedule) := by
  rw [follow]
  generalize matrix.start world = run at hstart
  induction schedule generalizing run with
  | nil => exact hstart
  | cons action rest ih => exact ih _ (hact run action hstart)

/-- Whatever happens in whatever order, a run stays sound. -/
theorem sound_follow (matrix : Matrix) (runner : Stage → Fixture → Runner ρ) (world : World ρ)
    (schedule : List Action) : matrix.Sound (matrix.follow runner world schedule) :=
  follow_induction matrix runner world schedule (sound_start matrix world)
    fun _ action hsound => hsound.act runner action

theorem arrival?_of_joined {outcome : Outcome} (hjoined : task.phase.joined?.isSome)
    (houtcome : task.phase.outcome? = some outcome) :
    task.arrival? = some (arrival task.stage task.fixture outcome) := by
  rw [Task.arrival?]
  cases hphase : task.phase with
  | joined found =>
    rw [hphase] at houtcome
    cases houtcome
    rfl
  | _ =>
    rw [hphase] at hjoined
    cases hjoined

/-- Once a run is over, the outcome of each pair has been handed in, each just once. -/
theorem Sound.arrivals_perm_of_isOver (hsound : matrix.Sound run) (hover : run.isOver = true)
    {outcome : Stage → Fixture → Outcome}
    (houtcome : ∀ task ∈ run.tasks,
      task.phase.outcome? = some (outcome task.stage task.fixture)) :
    run.arrivals.Perm
      (matrix.pairs.map fun (stage, fixture) => arrival stage fixture (outcome stage fixture)) := by
  have hall : run.tasks.filterMap Task.arrival? = run.tasks.map fun task =>
      arrival task.stage task.fixture (outcome task.stage task.fixture) := by
    rw [List.filterMap_eq_map_iff_forall_eq_some]
    intro task htask
    exact arrival?_of_joined (List.all_eq_true.1 hover task htask) (houtcome task htask)
  rw [← hsound.pairs_eq, List.map_map, Function.comp_def, ← hall]
  exact hsound.arrivals_perm

end Matrix

end BootChain
