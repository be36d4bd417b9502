import BootChain.Proofs.Job.Discipline

namespace BootChain

/-- A request of a job with the answer that it got, and the state that its surroundings were in
    after that. -/
structure Exchange (σ : Type) where
  request : Request
  answer : request.Answer
  after : σ

namespace Job

variable {α β σ : Type}

/-- What a job asks of its surroundings in a run, in order, with the answers. -/
def transcript (handler : Handler σ) : Job α → σ → List (Exchange σ)
  | done _, _ => []
  | ask request next, state =>
    let (answer, after) := handler request state
    ⟨request, answer, after⟩ :: transcript handler (next answer) after

/-- A job comes to a result along some exchanges, whoever answers it. -/
def Yields : Job α → List (Exchange σ) → α → Prop
  | done result, exchanges, found => exchanges = [] ∧ found = result
  | ask request next, exchanges, found =>
    ∃ answer after rest, exchanges = ⟨request, answer, after⟩ :: rest ∧
      Yields (next answer) rest found

theorem yields_ask_iff {request : Request} {next : request.Answer → Job α}
    {exchanges : List (Exchange σ)} {found : α} :
    (ask request next).Yields exchanges found ↔
      ∃ answer after rest, exchanges = ⟨request, answer, after⟩ :: rest ∧
        (next answer).Yields rest found := Iff.rfl

/-- A sequence of two jobs comes to a result along the exchanges of the first and then those of the
    second. -/
theorem yields_bind_iff {job : Job α} {f : α → Job β} {exchanges : List (Exchange σ)} {found : β} :
    (job >>= f).Yields exchanges found ↔
      ∃ first second result, exchanges = first ++ second ∧ job.Yields first result ∧
        (f result).Yields second found := by
  induction job generalizing exchanges with
  | done result =>
    rw [done_bind]
    constructor
    · exact fun hsecond => ⟨[], exchanges, result, rfl, ⟨rfl, rfl⟩, hsecond⟩
    · rintro ⟨_, second, _, rfl, ⟨rfl, rfl⟩, hsecond⟩
      exact hsecond
  | ask request next ih =>
    simp only [ask_bind, yields_ask_iff, ih]
    constructor
    · rintro ⟨answer, after, rest, rfl, first, second, result, rfl, hfirst, hsecond⟩
      exact ⟨_ :: first, second, result, rfl, ⟨answer, after, first, rfl, hfirst⟩, hsecond⟩
    · rintro ⟨_, second, result, rfl, ⟨answer, after, first, rfl, hfirst⟩, hsecond⟩
      exact ⟨answer, after, first ++ second, rfl, first, second, result, rfl, hfirst, hsecond⟩

theorem yields_request_bind_iff {request : Request} {f : request.Answer → Job β}
    {exchanges : List (Exchange σ)} {found : β} :
    (Job.request request >>= f).Yields exchanges found ↔
      ∃ answer after rest, exchanges = ⟨request, answer, after⟩ :: rest ∧
        (f answer).Yields rest found := by
  rw [Job.request, ask_bind, yields_ask_iff]
  simp only [done_bind]

theorem yields_transcript (handler : Handler σ) (job : Job α) (state : σ) :
    job.Yields (job.transcript handler state) (job.run handler state).1 := by
  induction job generalizing state with
  | done result => exact ⟨rfl, rfl⟩
  | ask request next ih => exact ⟨_, _, _, rfl, ih _ _⟩

theorem transcript_bind (handler : Handler σ) (job : Job α) (f : α → Job β) (state : σ) :
    (job >>= f).transcript handler state = job.transcript handler state ++
      (f (job.run handler state).1).transcript handler (job.run handler state).2 := by
  induction job generalizing state with
  | done result => rfl
  | ask request next ih => exact congrArg (_ :: ·) (ih _ _)

/-- What a job does is settled by the answers that it gets: of two ways along the same exchanges
    neither goes on for longer than the other, and both come to one result. -/
theorem Yields.unique {job : Job α} {first second rest later : List (Exchange σ)} {found other : α}
    (hfirst : job.Yields first found) (hsecond : job.Yields second other)
    (heq : first ++ rest = second ++ later) : first = second ∧ found = other := by
  induction job generalizing first second with
  | done result =>
    obtain ⟨rfl, rfl⟩ := hfirst
    obtain ⟨rfl, rfl⟩ := hsecond
    exact ⟨rfl, rfl⟩
  | ask request next ih =>
    obtain ⟨answer, after, first, rfl, hfirst⟩ := hfirst
    obtain ⟨_, _, second, rfl, hsecond⟩ := hsecond
    obtain ⟨hexchange, hrest⟩ := List.cons.inj heq
    cases hexchange
    obtain ⟨rfl, rfl⟩ := ih answer hfirst hsecond hrest
    exact ⟨rfl, rfl⟩

/-- Each answer is the one that the surroundings give in the state that the exchange before it left
    them in. -/
def Consistent (handler : Handler σ) : σ → List (Exchange σ) → Prop
  | _, [] => True
  | state, exchange :: rest =>
    handler exchange.request state = (exchange.answer, exchange.after) ∧
      Consistent handler exchange.after rest

theorem consistent_transcript (handler : Handler σ) (job : Job α) (state : σ) :
    Consistent handler state (job.transcript handler state) := by
  induction job generalizing state with
  | done result => trivial
  | ask request next ih => exact ⟨rfl, ih _ _⟩

theorem Consistent.left {handler : Handler σ} {state : σ} {first second : List (Exchange σ)}
    (hconsistent : Consistent handler state (first ++ second)) :
    Consistent handler state first := by
  induction first generalizing state with
  | nil => trivial
  | cons exchange rest ih => exact ⟨hconsistent.1, ih hconsistent.2⟩

theorem Consistent.right {handler : Handler σ} {state : σ} {first second : List (Exchange σ)}
    (hconsistent : Consistent handler state (first ++ second)) :
    ∃ between, Consistent handler between second := by
  induction first generalizing state with
  | nil => exact ⟨state, hconsistent⟩
  | cons exchange rest ih => exact ih hconsistent.2

end Job

/-- A request of a job, between the states that its surroundings were in before it and after it. -/
structure Turn (σ : Type) where
  before : σ
  request : Request
  after : σ

namespace Job

variable {α σ τ : Type} {job : Job α} {handler : Handler σ} {state : σ} {turn : Turn σ}
  {exchange : Exchange σ} {exchanges : List (Exchange σ)}

/-- The turns of some exchanges, the first of which finds the surroundings in some state. -/
def turns : σ → List (Exchange σ) → List (Turn σ)
  | _, [] => []
  | state, exchange :: rest =>
    ⟨state, exchange.request, exchange.after⟩ :: turns exchange.after rest

theorem exists_exchange_of_mem_turns (hturn : turn ∈ turns state exchanges) :
    ∃ exchange ∈ exchanges, exchange.request = turn.request := by
  induction exchanges generalizing state with
  | nil => cases hturn
  | cons first rest ih =>
    rcases List.mem_cons.1 hturn with rfl | hlater
    · exact ⟨first, List.mem_cons_self, rfl⟩
    · obtain ⟨exchange, hmem, hrequest⟩ := ih hlater
      exact ⟨exchange, List.mem_cons_of_mem _ hmem, hrequest⟩

/-- A turn leaves the surroundings as they are after their answer. -/
theorem Consistent.after_eq (hconsistent : Consistent handler state exchanges)
    (hturn : turn ∈ turns state exchanges) :
    turn.after = (handler turn.request turn.before).2 := by
  induction exchanges generalizing state with
  | nil => cases hturn
  | cons first rest ih =>
    obtain ⟨hfirst, hrest⟩ := hconsistent
    rcases List.mem_cons.1 hturn with rfl | hlater
    · exact (congrArg Prod.snd hfirst).symm
    · exact ih hrest hlater

/-- What a look at the surroundings sees is the same after a run, if no turn changes it. -/
theorem view_run_eq (view : σ → τ)
    (hturns : ∀ turn ∈ turns state (job.transcript handler state),
      view turn.after = view turn.before) : view (job.run handler state).2 = view state := by
  induction job generalizing state with
  | done result => rfl
  | ask request next ih =>
    obtain ⟨hfirst, hrest⟩ := List.forall_mem_cons.1 hturns
    exact (ih _ hrest).trans hfirst

/-- Whatever a job asks for was allowed by what had been noted until then. -/
theorem Discipline.Keeps.exists_allows {discipline : Discipline τ} {noted : τ}
    {condition : α → τ → Prop} {found : α} (hkeeps : discipline.Keeps job noted condition)
    (hyields : job.Yields exchanges found) (hmem : exchange ∈ exchanges) :
    ∃ noted, discipline.allows noted exchange.request := by
  induction job generalizing noted exchanges with
  | done result =>
    obtain ⟨rfl, -⟩ := hyields
    cases hmem
  | ask request next ih =>
    obtain ⟨hallowed, hlater⟩ := hkeeps
    obtain ⟨answer, after, rest, rfl, hrest⟩ := hyields
    rcases List.mem_cons.1 hmem with rfl | hmem
    · exact ⟨noted, hallowed⟩
    · exact ih answer (hlater answer) hrest hmem

end Job

end BootChain
