import BootChain.Proofs.Job.Transcript

namespace BootChain.Job

variable {α β σ : Type}

/-- A job that has gone through some exchanges has come to what is left of it. -/
def Along : Job α → List (Exchange σ) → Job α → Prop
  | done result, exchanges, rest => exchanges = [] ∧ rest = done result
  | ask request next, exchanges, rest =>
    (exchanges = [] ∧ rest = ask request next) ∨
      ∃ answer after later, exchanges = ⟨request, answer, after⟩ :: later ∧
        Along (next answer) later rest

theorem along_nil (job : Job α) : job.Along ([] : List (Exchange σ)) job := by
  cases job with
  | done result => exact ⟨rfl, rfl⟩
  | ask request next => exact .inl ⟨rfl, rfl⟩

/-- One more request is answered. -/
theorem Along.answered {job : Job α} {exchanges : List (Exchange σ)} {request : Request}
    {next : request.Answer → Job α} (halong : job.Along exchanges (ask request next))
    (answer : request.Answer) (after : σ) :
    job.Along (exchanges ++ [⟨request, answer, after⟩]) (next answer) := by
  induction job generalizing exchanges with
  | done result =>
    obtain ⟨-, hask⟩ := halong
    cases hask
  | ask first others ih =>
    obtain ⟨rfl, hask⟩ | ⟨found, seen, later, rfl, hlater⟩ := halong
    · cases hask
      exact .inr ⟨answer, after, [], rfl, along_nil _⟩
    · exact .inr ⟨found, seen, _, rfl, ih found hlater⟩

/-- A job comes to whatever the rest of it comes to. -/
theorem Along.yields {job rest : Job α} {exchanges later : List (Exchange σ)} {found : α}
    (halong : job.Along exchanges rest) (hyields : rest.Yields later found) :
    job.Yields (exchanges ++ later) found := by
  induction job generalizing exchanges with
  | done result =>
    obtain ⟨rfl, rfl⟩ := halong
    exact hyields
  | ask request next ih =>
    obtain ⟨rfl, rfl⟩ | ⟨answer, after, more, rfl, hmore⟩ := halong
    · exact hyields
    · exact ⟨answer, after, _, rfl, ih answer hmore⟩

/-- Whatever answers a job gets, it makes at most some number of requests. -/
def AtMost : Job α → Nat → Prop
  | done _, _ => True
  | ask _ _, 0 => False
  | ask _ next, count + 1 => ∀ answer, AtMost (next answer) count

theorem AtMost.mono {job : Job α} {count more : Nat} (hcount : job.AtMost count)
    (hle : count ≤ more) : job.AtMost more := by
  induction job generalizing count more with
  | done result => trivial
  | ask request next ih =>
    cases count with
    | zero => exact hcount.elim
    | succ count =>
      cases more with
      | zero => omega
      | succ more => exact fun answer => ih answer (hcount answer) (by omega)

theorem AtMost.bind {job : Job α} {f : α → Job β} {count more : Nat} (hjob : job.AtMost count)
    (hrest : ∀ result, (f result).AtMost more) : (job >>= f).AtMost (count + more) := by
  induction job generalizing count with
  | done result => exact (hrest result).mono (Nat.le_add_left _ _)
  | ask request next ih =>
    cases count with
    | zero => exact hjob.elim
    | succ count =>
      rw [ask_bind, Nat.add_right_comm]
      exact fun answer => ih answer (hjob answer)

theorem AtMost.request_bind {request : Request} {f : request.Answer → Job β} {count : Nat}
    (hrest : ∀ answer, (f answer).AtMost count) :
    (Job.request request >>= f).AtMost (count + 1) := by
  rw [Job.request, ask_bind]
  exact hrest

theorem AtMost.request_done {request : Request} {f : request.Answer → β} :
    (Job.request request >>= fun answer => done (f answer)).AtMost 1 :=
  request_bind fun _ => trivial

instance (request : Request) : Nonempty request.Answer := by
  cases request with
  | createDirs directory => exact ⟨.ok ()⟩
  | removeFile file => exact ⟨.ok ()⟩
  | isCancelled => exact ⟨true⟩
  | call command limitMs => exact ⟨.error (.lost "" "")⟩
  | isFile file => exact ⟨true⟩
  | emit event => exact ⟨()⟩

/-- Whatever a job is, there are answers that bring it to an end. -/
theorem exists_yields (job : Job α) (state : σ) :
    ∃ (exchanges : List (Exchange σ)) (found : α), job.Yields exchanges found := by
  induction job with
  | done result => exact ⟨[], result, rfl, rfl⟩
  | ask request next ih =>
    obtain ⟨answer⟩ : Nonempty request.Answer := inferInstance
    obtain ⟨later, found, hyields⟩ := ih answer
    exact ⟨⟨request, answer, state⟩ :: later, found, answer, state, later, rfl, hyields⟩

end BootChain.Job
