import BootChain.Job

namespace BootChain.Job

variable {α β γ δ σ τ : Type}

/-- Which requests a job may make, depending on what has been noted of the answers so far. -/
structure Discipline (τ : Type) where
  allows : τ → Request → Prop
  note : τ → (request : Request) → request.Answer → τ

namespace Discipline

variable {discipline : Discipline τ} {noted : τ} {condition other : α → τ → Prop}

/-- Whatever answers a job gets, it makes only requests that are allowed, and in the end its result
    and what has been noted meet a condition. -/
def Keeps (discipline : Discipline τ) : Job α → τ → (α → τ → Prop) → Prop
  | done result, noted, condition => condition result noted
  | ask request next, noted, condition =>
    discipline.allows noted request ∧
      ∀ answer, Keeps discipline (next answer) (discipline.note noted request answer) condition

theorem keeps_ask_iff {request : Request} {next : request.Answer → Job α} :
    discipline.Keeps (ask request next) noted condition ↔
      discipline.allows noted request ∧
        ∀ answer, discipline.Keeps (next answer) (discipline.note noted request answer)
          condition := Iff.rfl

theorem Keeps.imp {job : Job α} (hkeeps : discipline.Keeps job noted condition)
    (himp : ∀ result noted, condition result noted → other result noted) :
    discipline.Keeps job noted other := by
  induction job generalizing noted with
  | done result => exact himp result noted hkeeps
  | ask request next ih => exact ⟨hkeeps.1, fun answer => ih answer (hkeeps.2 answer)⟩

theorem keeps_bind_iff {job : Job α} {f : α → Job β} {condition : β → τ → Prop} :
    discipline.Keeps (job >>= f) noted condition ↔
      discipline.Keeps job noted fun result noted =>
        discipline.Keeps (f result) noted condition := by
  induction job generalizing noted with
  | done result => rfl
  | ask request next ih =>
    rw [ask_bind, keeps_ask_iff, keeps_ask_iff]
    simp only [ih]

theorem keeps_request_bind_iff {request : Request} {f : request.Answer → Job β}
    {condition : β → τ → Prop} : discipline.Keeps (Job.request request >>= f) noted condition ↔
      discipline.allows noted request ∧
        ∀ answer, discipline.Keeps (f answer) (discipline.note noted request answer) condition := by
  rw [Job.request, ask_bind, keeps_ask_iff]
  simp only [done_bind]

end Discipline

/-- Which answers to a request count as alike. -/
abbrev Likeness := (request : Request) → request.Answer → request.Answer → Prop

/-- Two jobs ask for the same, as long as the answers that they get are alike, and come to related
    results. -/
inductive Twins (like : Likeness) (related : α → β → Prop) : Job α → Job β → Prop
  | done {result : α} {other : β} (hrelated : related result other) :
    Twins like related (.done result) (.done other)
  | ask {request : Request} {next : request.Answer → Job α} {others : request.Answer → Job β}
    (hnext : ∀ answer other, like request answer other →
      Twins like related (next answer) (others other)) :
    Twins like related (.ask request next) (.ask request others)

namespace Twins

variable {like : Likeness} {related : α → β → Prop} {later : γ → δ → Prop} {job : Job α}
  {other : Job β} {request : Request}

theorem bind {f : α → Job γ} {g : β → Job δ} (htwins : Twins like related job other)
    (hlater : ∀ result found, related result found → Twins like later (f result) (g found)) :
    Twins like later (job >>= f) (other >>= g) := by
  induction htwins with
  | done hrelated => exact hlater _ _ hrelated
  | ask hnext ih => exact .ask fun answer other hlike => ih answer other hlike

/-- What is asked for first is the same, and the rest goes alike after alike answers. -/
theorem request_bind {f : request.Answer → Job γ} {g : request.Answer → Job δ}
    (hlater : ∀ answer other, like request answer other →
      Twins like later (f answer) (g other)) :
    Twins like later (Job.request request >>= f) (Job.request request >>= g) :=
  .ask hlater

/-- Two jobs that are twins come to related results, if what answers them gives alike answers and
    stays related. -/
theorem run {handler : Handler σ} {twin : Handler τ} {relatedStates : σ → τ → Prop}
    (hanswer : ∀ request state mirror, relatedStates state mirror →
      like request (handler request state).1 (twin request mirror).1 ∧
        relatedStates (handler request state).2 (twin request mirror).2)
    (htwins : Twins like related job other) {state : σ} {mirror : τ}
    (hstates : relatedStates state mirror) :
    related (job.run handler state).1 (other.run twin mirror).1 ∧
      relatedStates (job.run handler state).2 (other.run twin mirror).2 := by
  induction htwins generalizing state mirror with
  | done hrelated => exact ⟨hrelated, hstates⟩
  | @ask request next others hnext ih =>
    obtain ⟨hlike, hafter⟩ := hanswer request state mirror hstates
    exact ih _ _ hlike hafter

end Twins

end BootChain.Job
