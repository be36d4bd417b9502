import BootChain.Proofs.Job.Along
import BootChain.Proofs.Trial.Perform

namespace BootChain.Trial

open Job

variable {σ : Type} {settings : Settings} {stage : Stage} {fixture : Fixture} {pair : Pair}
  {exchanges before after : List (Exchange σ)} {seen : σ} {trial : Trial}

theorem judge_atMost (planned : Planned) (capture : Capture) :
    (judge planned capture).AtMost 1 := by
  unfold judge checkProduct
  split
  · trivial
  · split
    · trivial
    · exact AtMost.request_bind fun answer => by split <;> trivial

theorem takeStep_atMost (planned : Planned) : (takeStep settings pair planned).AtMost 4 := by
  refine AtMost.request_bind fun isCancelled => ?_
  split
  · trivial
  · refine AtMost.request_bind fun answer => ?_
    cases answer with
    | error e => exact AtMost.request_done.mono (by omega)
    | ok capture => exact (judge_atMost planned capture).bind fun _ => AtMost.request_done

theorem takeSteps_atMost (plan : List Planned) :
    (takeSteps settings pair plan).AtMost (4 * plan.length) := by
  induction plan with
  | nil => trivial
  | cons planned rest ih =>
    rw [takeSteps, List.length_cons, Nat.mul_succ, Nat.add_comm]
    refine (takeStep_atMost planned).bind fun taken => ?_
    obtain ⟨record, failure⟩ := taken
    cases failure with
    | some failure => trivial
    | none =>
      change AtMost _ (4 * rest.length + 0)
      exact ih.bind fun _ => trivial

theorem removeStale_atMost (files : List Path) : (removeStale files).AtMost files.length := by
  induction files with
  | nil => trivial
  | cons file rest ih =>
    refine AtMost.request_bind fun answer => ?_
    split
    · exact ih
    · exact ih
    · trivial

theorem discard_atMost (files : List Path) : (discard files).AtMost files.length := by
  induction files with
  | nil => trivial
  | cons file rest ih => exact AtMost.request_bind fun _ => ih

theorem drive_atMost : (drive settings pair).AtMost 15 := by
  have hprepare : (prepare settings pair).AtMost 3 := by
    refine AtMost.request_bind fun answer => ?_
    split
    · exact removeStale_atMost _
    · trivial
  change AtMost (prepare settings pair >>= _) (3 + 12)
  refine hprepare.bind fun prepared => ?_
  split
  · trivial
  · exact takeSteps_atMost _

/-- How many requests a trial makes at most: one for its directory, two each time that it removes
    its artifacts, four for each of its steps, and one to report its end. -/
def mostRequests : Nat := 18

theorem perform_atMost (settings : Settings) (stage : Stage) (fixture : Fixture) :
    (perform settings stage fixture).AtMost mostRequests := by
  change AtMost (drive settings (.of settings stage fixture) >>= _) (15 + (2 + 1))
  refine drive_atMost.bind fun ⟨steps, failure⟩ => ?_
  dsimp only
  split
  · exact (discard_atMost _).bind fun _ => AtMost.request_done
  · exact AtMost.request_done.mono (by omega)

theorem heeds_of_yields (hyields : (perform settings stage fixture).Yields exchanges trial) :
    Heeds exchanges := by
  obtain ⟨driven, tail, records, failure, rfl, hdriven, htail, -⟩ := perform_yields hyields
  exact hdriven.heeds.append (.of_aside htail) fun _ => htail.attempts_eq_nil

/-- A trial that sees the cancellation fails by it at the step that comes next, and keeps the records
    of the steps before. -/
theorem of_seen (hyields : (perform settings stage fixture).Yields exchanges trial)
    (heq : exchanges = before ++ ⟨.isCancelled, true, seen⟩ :: after) :
    ∃ planned, ((Pair.of settings stage fixture).plan settings)[(attempts before).length]? =
        some planned ∧
      trial.failure = some ⟨planned.step, .cancelled, planned.command.line, ""⟩ ∧
      trial.steps = recordsOf ((Pair.of settings stage fixture).plan settings)
        (attempts before) := by
  obtain ⟨driven, tail, records, failure, rfl, hdriven, htail, rfl⟩ := perform_yields hyields
  obtain ⟨between, hsplit, -⟩ | ⟨between, rfl, htailSplit⟩ := split_cases heq
  · exact hdriven.of_seen hsplit
  · exact absurd (htailSplit ▸ List.mem_append_cons_self) (htail.not_mem seen)

theorem Heeds.left {later : List (Exchange σ)} (hheeds : Heeds (exchanges ++ later)) :
    Heeds exchanges where
  looked before command limitMs answer called after heq := by
    refine hheeds.looked before command limitMs answer called (after ++ later) ?_
    rw [heq, List.append_assoc, List.cons_append]
  idle before seen after heq := by
    have hidle := hheeds.idle before seen (after ++ later) (by
      rw [heq, List.append_assoc, List.cons_append])
    rw [attempts_append, List.append_eq_nil_iff] at hidle
    exact hidle.1

/-- However far a trial has come, it has heeded the cancellation. -/
theorem heeds_of_along {rest : Job Trial}
    (halong : (perform settings stage fixture).Along exchanges rest) : Heeds exchanges := by
  cases exchanges with
  | nil => exact .of_aside aside_nil
  | cons first others =>
    obtain ⟨later, trial, hyields⟩ := exists_yields rest first.after
    exact (heeds_of_yields (halong.yields hyields)).left

end BootChain.Trial
