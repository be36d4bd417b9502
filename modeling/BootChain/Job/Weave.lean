import BootChain.Job

namespace BootChain

/-- A job among others, as far as it is still to be done, and who answers it. -/
structure Strand (σ α : Type) where
  handler : Job.Handler σ
  rest : Job α

namespace Strand

variable {σ α : Type}

/-- What the job has come to, once it is done. -/
def result? (strand : Strand σ α) : Option α :=
  match strand.rest with
  | .done result => some result
  | .ask _ _ => none

/-- Lets the job make its next request. A job that is done makes none. -/
def advance (strand : Strand σ α) (state : σ) : Strand σ α × σ :=
  match strand.rest with
  | .done _ => (strand, state)
  | .ask request next =>
    let (answer, state) := strand.handler request state
    ({ strand with rest := next answer }, state)

/-- Runs the job to its end with nothing in between. -/
def run (strand : Strand σ α) (state : σ) : α × σ :=
  strand.rest.run strand.handler state

end Strand

/-- Jobs that go on side by side, and the state of the surroundings that they share. -/
structure Weave (σ α : Type) where
  strands : List (Strand σ α)
  state : σ

namespace Weave

variable {σ α : Type}

/-- Lets the job with some number make its next request. -/
def advance (weave : Weave σ α) (index : Nat) : Weave σ α :=
  match weave.strands[index]? with
  | none => weave
  | some strand =>
    let (strand, state) := strand.advance weave.state
    { strands := weave.strands.set index strand, state }

/-- The jobs after a schedule, which says whose turn it is. -/
def follow (weave : Weave σ α) (schedule : List Nat) : Weave σ α :=
  schedule.foldl advance weave

/-- What the job with some number has come to, once it is done. -/
def result? (weave : Weave σ α) (index : Nat) : Option α :=
  weave.strands[index]?.bind Strand.result?

end Weave

end BootChain
