import MachineClaims.Simulation.World

/-!
# Jobs in a simulated world

A job is a program that may also look at the world it runs in and change it. Going on with a job
replaces it by one of its children, and no chain of children is endless (`child_wellFounded`).
-/

namespace MachineClaims.Simulation

/-- A job with a result of the given type. -/
inductive Job (α : Type) where
  | done (a : α)
  | ask (r : Request) (next : r.Answer → Job α)
  /-- Changes the world, and goes on with what it was before. -/
  | visit (change : World → World) (next : World → Job α)

namespace Job

variable {α β : Type}

/-- Runs a job and goes on with its result. -/
def bind : Job α → (α → Job β) → Job β
  | .done a, f => f a
  | .ask r next, f => .ask r fun answer => (next answer).bind f
  | .visit change next, f => .visit change fun w => (next w).bind f

instance : Monad Job where
  pure := .done
  bind := Job.bind

/-- The job of running a program. -/
def ofProgram : Program α → Job α
  | .done a => .done a
  | .ask r next => .ask r fun answer => ofProgram (next answer)

instance : MonadLift Program Job := ⟨ofProgram⟩

/-- The world as it is. -/
def look : Job World := .visit id .done

/-- Changes the world. -/
def change (f : World → World) : Job Unit := .visit f fun _ => .done ()

/-- What a job can become in one move. -/
inductive Child : Job α → Job α → Prop where
  | ask (r : Request) (next : r.Answer → Job α) (answer : r.Answer) :
    Child (next answer) (.ask r next)
  | visit (change : World → World) (next : World → Job α) (w : World) :
    Child (next w) (.visit change next)

/-- Every chain of moves ends. -/
theorem child_wellFounded : WellFounded (Child (α := α)) := by
  refine ⟨fun t => ?_⟩
  induction t with
  | done a => exact ⟨_, fun _ h => nomatch h⟩
  | ask r next ih => exact ⟨_, fun _ h => by cases h; exact ih _⟩
  | visit change next ih => exact ⟨_, fun _ h => by cases h; exact ih _⟩

/-- Makes one move for a caller with a token, unless it is lost. Waiting gets the answer that is
given. -/
def move (w : World) (token : Option String) (answer : Bool) :
    (t : Job α) → Option (World × { t' : Job α // Child t' t })
  | .done _ => none
  | .visit change next => some (change w, ⟨next w, .visit change next w⟩)
  | .ask (.call c) next =>
    let (result, w') := w.call c
    some (w', ⟨next result, .ask _ next result⟩)
  | .ask (.store op) next =>
    let (result, store) := op.perform w.store
    some ({ w with store }, ⟨next result, .ask _ next result⟩)
  | .ask .clock next => some (w, ⟨next w.clock, .ask _ next _⟩)
  | .ask (.instant past) next =>
    some (w, ⟨next ⟨max past w.now, Nat.le_max_left ..⟩, .ask _ next _⟩)
  | .ask (.deadline time) next =>
    if time ≤ Request.lastInstant then some (w, ⟨next (), .ask _ next ()⟩) else none
  | .ask .cancelled next =>
    some (w, ⟨next (w.isCancelled token), .ask _ next _⟩)
  | .ask (.pause _) next => some (w, ⟨next answer, .ask _ next answer⟩)
  | .ask .lock next => some (w, ⟨next answer, .ask _ next answer⟩)
  | .ask .unlock next => some (w, ⟨next (), .ask _ next ()⟩)

end Job
end MachineClaims.Simulation
