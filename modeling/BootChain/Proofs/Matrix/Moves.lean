import BootChain.Proofs.Matrix.History
import Mathlib.Algebra.BigOperators.Group.Finset.Piecewise
import Mathlib.Algebra.Order.BigOperators.Group.Finset

namespace BootChain

/-- The job has at most some number of moves before it. -/
def Phase.Within : Phase → Nat → Prop
  | waiting, count => Trial.mostRequests + 4 ≤ count
  | admitted, count => Trial.mostRequests + 3 ≤ count
  | running rest, count => ∃ requests, rest.AtMost requests ∧ requests + 2 ≤ count
  | ended _, count => 1 ≤ count
  | joined _, _ => True

namespace Matrix

variable {ρ : Type} {settings : Settings} {matrix : Matrix}
  {runner : Stage → Fixture → Runner ρ} {world left : World ρ} {run : Run ρ} {index : Nat}
  {task : Task} {phase : Phase} {permitFree : Bool}

/-- How often something happens along a schedule. -/
def countAlong (matrix : Matrix) (runner : Stage → Fixture → Runner ρ)
    (happens : Run ρ → Action → Bool) : Run ρ → List Action → Nat
  | _, [] => 0
  | run, action :: rest =>
    (happens run action).toNat + countAlong matrix runner happens (matrix.act runner run action) rest

/-- True of an action that is a move of some job, and open to it. -/
def isOpen (matrix : Matrix) (runner : Stage → Fixture → Runner ρ) (run : Run ρ) : Action → Bool
  | .raise => false
  | .move index move => (run.tasks[index]?.bind fun task =>
      advance? matrix.settings runner (run.permitFree matrix.jobs) run.world task move).isSome

/-- True of an action that is a move of the job with some number, and open to it. -/
def isMoveOf (matrix : Matrix) (runner : Stage → Fixture → Runner ρ) (index : Nat) (run : Run ρ)
    (action : Action) : Bool :=
  match action with
  | .raise => false
  | .move other _ => other = index && matrix.isOpen runner run action

/-- Each move of a job leaves it with one move less. -/
theorem Advance.within (hadvance : Advance settings runner permitFree world task phase left)
    {count : Nat} (hwithin : task.phase.Within count) :
    ∃ fewer, count = fewer + 1 ∧ phase.Within fewer := by
  suffices hfewer : 1 ≤ count ∧ phase.Within (count - 1) by
    exact ⟨count - 1, by omega, hfewer.2⟩
  cases hadvance with
  | enter hphase =>
    rw [hphase] at hwithin
    simp only [Phase.Within] at hwithin ⊢
    omega
  | giveUp hphase =>
    rw [hphase] at hwithin
    simp only [Phase.Within] at hwithin ⊢
    omega
  | turnBack hphase =>
    rw [hphase] at hwithin
    simp only [Phase.Within] at hwithin ⊢
    omega
  | begin hphase =>
    rw [hphase] at hwithin
    simp only [Phase.Within] at hwithin
    refine ⟨by omega, Trial.mostRequests, Trial.perform_atMost _ _ _, by omega⟩
  | ask hphase =>
    rw [hphase] at hwithin
    obtain ⟨requests, hrequests, hle⟩ := hwithin
    cases requests with
    | zero => exact hrequests.elim
    | succ requests => exact ⟨by omega, requests, hrequests _, by omega⟩
  | finish hphase =>
    rw [hphase] at hwithin
    obtain ⟨requests, -, hle⟩ := hwithin
    simp only [Phase.Within]
    omega
  | breakDown hphase =>
    rw [hphase] at hwithin
    obtain ⟨requests, -, hle⟩ := hwithin
    simp only [Phase.Within]
    omega
  | join hphase =>
    rw [hphase] at hwithin
    exact ⟨hwithin, trivial⟩

/-- A job goes on by its own moves, and by nothing else. -/
theorem act_of_isMoveOf (matrix : Matrix) (runner : Stage → Fixture → Runner ρ)
    (hindex : run.tasks[index]? = some task) (action : Action) :
    (matrix.isMoveOf runner index run action = false ∧
      (matrix.act runner run action).tasks[index]? = some task) ∨
    ∃ phase left, matrix.isMoveOf runner index run action = true ∧
      Advance matrix.settings runner (run.permitFree matrix.jobs) run.world task phase left ∧
      (matrix.act runner run action).tasks[index]? = some { task with phase } := by
  cases action with
  | raise => exact .inl ⟨rfl, hindex⟩
  | move other move =>
    by_cases hother : other = index
    · subst hother
      simp only [isMoveOf, isOpen, act, hindex, Option.bind_some, decide_true, Bool.true_and]
      split
      next hnone => exact .inl ⟨by rw [hnone]; rfl, hindex⟩
      next phase left hadvance =>
        have hlt := (List.getElem?_eq_some_iff.1 hindex).1
        refine .inr ⟨phase, left, by rw [hadvance]; rfl, advance_of_advance? hadvance, ?_⟩
        exact List.getElem?_set_self hlt
    · refine .inl ⟨by simp [isMoveOf, hother], ?_⟩
      simp only [act]
      split
      · exact hindex
      · split
        · exact hindex
        · rw [List.getElem?_set_ne hother]
          exact hindex

theorem countAlong_isMoveOf_le (hindex : run.tasks[index]? = some task) {count : Nat}
    (hwithin : task.phase.Within count) (schedule : List Action) :
    matrix.countAlong runner (matrix.isMoveOf runner index) run schedule ≤ count := by
  induction schedule generalizing run task count with
  | nil => exact Nat.zero_le _
  | cons action rest ih =>
    rw [countAlong]
    obtain ⟨hnot, hafter⟩ | ⟨phase, left, hmove, hadvance, hafter⟩ :=
      act_of_isMoveOf matrix runner hindex action
    · rw [hnot, Bool.toNat_false, Nat.zero_add]
      exact ih hafter hwithin
    · obtain ⟨fewer, rfl, hfewer⟩ := hadvance.within hwithin
      rw [hmove, Bool.toNat_true, Nat.add_comm]
      exact Nat.succ_le_succ (ih hafter hfewer)

theorem length_tasks_act (action : Action) :
    (matrix.act runner run action).tasks.length = run.tasks.length := by
  cases action with
  | raise => rfl
  | move index move =>
    simp only [act]
    split
    · rfl
    · split
      · rfl
      · exact List.length_set

/-- The moves of a run are those of its jobs. -/
theorem countAlong_isOpen (matrix : Matrix) (runner : Stage → Fixture → Runner ρ) (run : Run ρ)
    (schedule : List Action) :
    matrix.countAlong runner (matrix.isOpen runner) run schedule =
      ∑ index ∈ Finset.range run.tasks.length,
        matrix.countAlong runner (matrix.isMoveOf runner index) run schedule := by
  induction schedule generalizing run with
  | nil => simp [countAlong]
  | cons action rest ih =>
    have hhere : (matrix.isOpen runner run action).toNat =
        ∑ index ∈ Finset.range run.tasks.length,
          (matrix.isMoveOf runner index run action).toNat := by
      cases action with
      | raise => simp [isOpen, isMoveOf]
      | move other move =>
        cases hopen : matrix.isOpen runner run (.move other move) with
        | false => simp [isMoveOf, hopen]
        | true =>
          have hlt : other < run.tasks.length := by
            obtain ⟨next, hnext⟩ := Option.isSome_iff_exists.1 hopen
            obtain ⟨task, htask, -⟩ := Option.bind_eq_some_iff.1 hnext
            exact (List.getElem?_eq_some_iff.1 htask).1
          have hone : ∀ index, (matrix.isMoveOf runner index run (.move other move)).toNat =
              if other = index then 1 else 0 := by
            intro index
            by_cases hother : other = index
            · subst hother
              simp [isMoveOf, hopen]
            · simp [isMoveOf, hother]
          simp only [hone, Finset.sum_ite_eq, Finset.mem_range, hlt, if_true, Bool.toNat_true]
    simp only [countAlong, Finset.sum_add_distrib, ← hhere, ih, length_tasks_act]

/-- All jobs together make a bounded number of moves, whatever happens in whatever order. -/
theorem countAlong_isOpen_le (matrix : Matrix) (runner : Stage → Fixture → Runner ρ)
    (world : World ρ) (schedule : List Action) :
    matrix.countAlong runner (matrix.isOpen runner) (matrix.start world) schedule ≤
      matrix.pairs.length * (Trial.mostRequests + 4) := by
  have hlength : (matrix.start world).tasks.length = matrix.pairs.length := List.length_map _
  rw [countAlong_isOpen, hlength]
  have hbound := Finset.sum_le_card_nsmul (Finset.range matrix.pairs.length)
    (fun index => matrix.countAlong runner (matrix.isMoveOf runner index) (matrix.start world)
      schedule) (Trial.mostRequests + 4) fun index hindex => by
    obtain ⟨first, hfirst, hwaiting⟩ := exists_getElem?_start (Finset.mem_range.1 hindex) world
    refine countAlong_isMoveOf_le hfirst ?_ schedule
    rw [hwaiting]
    exact Nat.le_refl _
  rwa [Finset.card_range, Nat.nsmul_eq_mul] at hbound

/-- As long as a run is not over, some job can go on without breaking down. -/
theorem exists_isOpen (runner : Stage → Fixture → Runner ρ) (hjobs : 0 < matrix.jobs)
    (hover : run.isOver = false) :
    ∃ index move, move ≠ .breakDown ∧ matrix.isOpen runner run (.move index move) = true := by
  have hopen : ∀ task move, task ∈ run.tasks → move ≠ .breakDown →
      (advance? matrix.settings runner (run.permitFree matrix.jobs) run.world task move).isSome →
      ∃ index move, move ≠ .breakDown ∧
        matrix.isOpen runner run (.move index move) = true := by
    intro task move htask hmove hsome
    obtain ⟨index, hindex⟩ := List.mem_iff_getElem?.1 htask
    exact ⟨index, move, hmove, by rwa [isOpen, hindex, Option.bind_some]⟩
  by_cases hholding : ∃ task ∈ run.tasks, task.phase.holdsPermit = true
  · obtain ⟨⟨stage, fixture, phase⟩, htask, hholds⟩ := hholding
    refine hopen _ .step htask Move.noConfusion ?_
    cases phase with
    | admitted => cases hcancelled : run.world.cancelled <;> simp [advance?, hcancelled]
    | running rest => cases rest <;> rfl
    | _ => cases hholds
  · have hfree : run.permitFree matrix.jobs = true := by
      have hnone : run.tasks.countP (·.phase.holdsPermit) = 0 :=
        List.countP_eq_zero.2 fun task htask hholds => hholding ⟨task, htask, hholds⟩
      rw [Run.permitFree, hnone]
      exact decide_eq_true hjobs
    obtain ⟨⟨stage, fixture, phase⟩, htask, hjoined⟩ := List.all_eq_false.1 hover
    cases phase with
    | waiting => exact hopen _ .enter htask Move.noConfusion (by simp [advance?, hfree])
    | ended outcome => exact hopen _ .join htask Move.noConfusion rfl
    | joined outcome => exact absurd rfl hjoined
    | _ => exact absurd ⟨_, htask, rfl⟩ hholding

theorem countAlong_append (happens : Run ρ → Action → Bool) (run : Run ρ)
    (first second : List Action) :
    matrix.countAlong runner happens run (first ++ second) =
      matrix.countAlong runner happens run first +
        matrix.countAlong runner happens (first.foldl (matrix.act runner) run) second := by
  induction first generalizing run with
  | nil => simp [countAlong]
  | cons action rest ih =>
    rw [List.cons_append, countAlong, countAlong, ih, List.foldl_cons, Nat.add_assoc]

/-- Nothing happens any more to a run that is over. -/
theorem isOver_act (hover : run.isOver = true) (action : Action) :
    (matrix.act runner run action).isOver = true := by
  obtain hact | hact | ⟨before, task, after, phase, left, htasks, hadvance, -⟩ :=
    act_cases matrix runner run action
  · rwa [hact]
  · rwa [hact]
  · have hjoined := List.all_eq_true.1 hover task (htasks ▸ List.mem_append_cons_self)
    rw [hadvance.joined?_eq_none] at hjoined
    cases hjoined

theorem isOver_iterate_of_isOver (hover : run.isOver = true) (choose : Run ρ → Action)
    (count : Nat) :
    ((fun run => matrix.act runner run (choose run))^[count] run).isOver = true := by
  induction count generalizing run with
  | zero => exact hover
  | succ count ih => exact ih (isOver_act hover _)

/-- A run that has at most some number of moves before it is over after as many, if there is a move
    whenever it is not over. -/
theorem isOver_iterate (hjobs : 0 < matrix.jobs) {choose : Run ρ → Action}
    (hchoose : ∀ run, run.isOver = false → matrix.isOpen runner run (choose run) = true)
    {count : Nat} (hcount : ∀ schedule, matrix.countAlong runner (matrix.isOpen runner) run
      schedule ≤ count) :
    ((fun run => matrix.act runner run (choose run))^[count] run).isOver = true := by
  induction count generalizing run with
  | zero =>
    rw [Function.iterate_zero_apply]
    by_contra hnot
    obtain ⟨index, move, -, hopen⟩ := exists_isOpen runner hjobs (Bool.eq_false_iff.2 hnot)
    have hnone := hcount [.move index move]
    simp [countAlong, hopen] at hnone
  | succ count ih =>
    cases hover : run.isOver with
    | true => exact isOver_iterate_of_isOver hover choose (count + 1)
    | false =>
      refine ih fun schedule => ?_
      have hmoves := hcount (choose run :: schedule)
      rw [countAlong, hchoose run hover, Bool.toNat_true, Nat.add_comm] at hmoves
      exact Nat.le_of_succ_le_succ hmoves

end Matrix

end BootChain
