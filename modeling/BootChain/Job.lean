import BootChain.Event
import BootChain.FileSystem

namespace BootChain

/-- What a job asks of its surroundings. Each request is answered in one go; between two requests
    anything may happen elsewhere. -/
inductive Request where
  | createDirs (directory : Path)
  | removeFile (file : Path)
  | isCancelled
  | call (command : Command) (limitMs : Nat)
  | isFile (file : Path)
  | emit (event : Event)

/-- The answers that a request can get. -/
abbrev Request.Answer : Request → Type
  | createDirs _ => Except IoError Unit
  | removeFile _ => Except IoError Unit
  | isCancelled => Bool
  | call _ _ => Except CallError Capture
  | isFile _ => Bool
  | emit _ => Unit

/-- A computation that is done, or asks for something and goes on with the answer. -/
inductive Job (α : Type) where
  | done (result : α)
  | ask (request : Request) (next : request.Answer → Job α)

namespace Job

variable {α β σ : Type}

def bind : Job α → (α → Job β) → Job β
  | done result, f => f result
  | ask request next, f => ask request fun answer => bind (next answer) f

instance : Monad Job where
  pure := done
  bind := bind

@[simp]
theorem done_bind (result : α) (f : α → Job β) : done result >>= f = f result := rfl

@[simp]
theorem ask_bind (request : Request) (next : request.Answer → Job α) (f : α → Job β) :
    ask request next >>= f = ask request fun answer => next answer >>= f := rfl

/-- The job that asks one thing and gives the answer. -/
def request (r : Request) : Job r.Answer := ask r done

/-- How surroundings in some state answer a request, and the state that they are in afterwards. -/
abbrev Handler (σ : Type) := (request : Request) → σ → request.Answer × σ

/-- Runs a job to its end with nothing in between. -/
def run (handler : Handler σ) : Job α → σ → α × σ
  | done result, state => (result, state)
  | ask request next, state =>
    let (answer, state) := handler request state
    run handler (next answer) state

theorem run_bind (handler : Handler σ) (job : Job α) (f : α → Job β) (state : σ) :
    (job >>= f).run handler state =
      (f (job.run handler state).1).run handler (job.run handler state).2 := by
  induction job generalizing state with
  | done => rfl
  | ask request next ih => exact ih _ _

end Job

end BootChain
