import MachineClaims.Call
import MachineClaims.Store.Operation

/-!
# Programs

What a caller does, apart from who answers: a finite tree of requests, each with a continuation for
every answer. Stored objects, the clock, waiting, cancellation and the lock between callers are all
behind requests, so that a program can be run alone (`alone`), among other writers, or with calls
that fail. A program that waits for a deadline is finite because the clock does not go back, which the
answers to `Request.instant` carry with them. `alone_bind` runs a program in two parts.
-/

namespace MachineClaims

/-- What a program can ask for. -/
inductive Request where
  /-- A call that may fail without effect. -/
  | call (c : Call)
  /-- Direct access to the store. -/
  | store (op : Store.Operation)
  /-- The time in seconds. -/
  | clock
  /-- The time in milliseconds, on a clock that never goes back, by which a given time has come. -/
  | instant (past : Nat)
  /-- Taking a time of that clock for a deadline. There is no answer, and the caller is lost, if it
  lies beyond the last instant. -/
  | deadline (time : Nat)
  /-- Whether the caller has cancelled. -/
  | cancelled
  /-- Waiting for some milliseconds, or until the caller cancels, which the answer tells. -/
  | pause (ms : Nat)
  /-- Waiting for the lock that callers share. The answer tells whether it was taken; it is not
  when the caller cancels. -/
  | lock
  /-- Giving the lock back. -/
  | unlock

/-- The answers to a request. -/
@[reducible] def Request.Answer : Request → Type
  | .call c => Except Failure c.Result
  | .store op => Except Store.Error op.Result
  | .clock => Nat
  | .instant past => { now : Nat // past ≤ now }
  | .deadline _ => Unit
  | .cancelled => Bool
  | .pause _ => Bool
  | .lock => Bool
  | .unlock => Unit

/-- The last instant in milliseconds: whole seconds are counted up to the largest signed number of 64
bits. -/
def Request.lastInstant : Nat := 9223372036854775807 * 1000 + 999

/-- A program with a result of the given type. -/
inductive Program (α : Type) where
  | done (a : α)
  | ask (r : Request) (next : r.Answer → Program α)

namespace Program

variable {α β : Type}

/-- Runs a program and goes on with its result. -/
def bind : Program α → (α → Program β) → Program β
  | .done a, f => f a
  | .ask r next, f => .ask r fun answer => (next answer).bind f

instance : Monad Program where
  pure := .done
  bind := Program.bind

/-- The program that makes one request. -/
def request (r : Request) : Program r.Answer := .ask r .done

theorem bind_assoc {γ : Type} (p : Program α) (f : α → Program β) (g : β → Program γ) :
    (p.bind f).bind g = p.bind fun a => (f a).bind g := by
  induction p with
  | done a => rfl
  | ask r next ih => simp [bind, ih]

@[simp] theorem bind_done (p : Program α) : p.bind .done = p := by
  induction p with
  | done a => rfl
  | ask r next ih => simp [bind, ih]

instance : LawfulMonad Program :=
  LawfulMonad.mk' Program bind_done (fun _ _ => rfl) bind_assoc

/-- The answer of a store that nobody else uses, at a given time, to a caller that never cancels. The
clock has no last instant, and moves just while the caller waits. -/
def answerAlone (clock : Nat) (s : Store) : (r : Request) → r.Answer × Store
  | .call c => c.perform s
  | .store op => op.perform s
  | .clock => (clock, s)
  | .instant past => (⟨past, Nat.le_refl past⟩, s)
  | .deadline _ => ((), s)
  | .cancelled => (false, s)
  | .pause _ => (false, s)
  | .lock => (true, s)
  | .unlock => ((), s)

/-- Runs a program on a store that nobody else uses, at a given time, for a caller that never
cancels. -/
def alone (clock : Nat) : Program α → Store → α × Store
  | .done a, s => (a, s)
  | .ask r next, s =>
    let (answer, s') := answerAlone clock s r
    (next answer).alone clock s'

theorem alone_bind (clock : Nat) (p : Program α) (f : α → Program β) (s : Store) :
    (p.bind f).alone clock s = (f (p.alone clock s).1).alone clock (p.alone clock s).2 := by
  induction p generalizing s with
  | done a => rfl
  | ask r next ih => simp [bind, alone, ih]

end Program

/-- A program that may fail. -/
abbrev Action := ExceptT Failure Program

namespace Action

variable {α : Type}

/-- Makes a call. -/
def call (c : Call) : Action c.Result := ExceptT.mk (.ask (.call c) .done)

/-- Asks for something that cannot fail. -/
def request (r : Request) : Action r.Answer := ExceptT.mk (.ask r fun answer => .done (.ok answer))

/-- The outcome of an action as its result. -/
def outcome (a : Action α) : Action (Except Failure α) :=
  ExceptT.mk (Program.bind a.run fun result => .done (.ok result))

/-- Fails where a value failed. -/
def ofExcept : Except Failure α → Action α := fun e => ExceptT.mk (.done e)

/-- Runs an action on a store that nobody else uses, at a given time, for a caller that never
cancels. -/
def alone (clock : Nat) (a : Action α) (s : Store) : Except Failure α × Store :=
  Program.alone clock a.run s

/-! ### Actions alone, part by part -/

@[simp] theorem alone_pure (clock : Nat) (a : α) (s : Store) :
    (pure a : Action α).alone clock s = (.ok a, s) := rfl

@[simp] theorem alone_throw (clock : Nat) (e : Failure) (s : Store) :
    (throw e : Action α).alone clock s = (.error e, s) := rfl

@[simp] theorem alone_ofExcept (clock : Nat) (e : Except Failure α) (s : Store) :
    (ofExcept e).alone clock s = (e, s) := rfl

@[simp] theorem alone_done (clock : Nat) (result : Except Failure α) (s : Store) :
    Action.alone clock (ExceptT.mk (.done result)) s = (result, s) := rfl

@[simp] theorem alone_ask (clock : Nat) (r : Request)
    (next : r.Answer → Program (Except Failure α)) (s : Store) :
    Action.alone clock (ExceptT.mk (.ask r next)) s =
      Action.alone clock (ExceptT.mk (next (Program.answerAlone clock s r).1))
        (Program.answerAlone clock s r).2 := rfl

@[simp] theorem alone_lift (clock : Nat) (p : Program α) (s : Store) :
    Action.alone clock (ExceptT.lift p) s = (.ok (p.alone clock s).1, (p.alone clock s).2) :=
  Program.alone_bind clock p (fun a => Program.done (Except.ok a)) s

@[simp] theorem alone_outcome (clock : Nat) (a : Action α) (s : Store) :
    a.outcome.alone clock s = (.ok (a.alone clock s).1, (a.alone clock s).2) :=
  Program.alone_bind clock a.run (fun result => Program.done (Except.ok result)) s

/-- What follows an action runs only if the action succeeds. -/
@[simp] theorem alone_bind {β : Type} (clock : Nat) (a : Action α) (f : α → Action β)
    (s : Store) :
    (a >>= f).alone clock s =
      match (a.alone clock s).1 with
      | .ok value => (f value).alone clock (a.alone clock s).2
      | .error e => (.error e, (a.alone clock s).2) := by
  show Program.alone clock (Program.bind a.run _) s = _
  rw [Program.alone_bind]
  show _ = match (Program.alone clock a.run s).1 with | .ok _ => _ | .error _ => _
  cases h : (Program.alone clock a.run s).1 with
  | ok value => rfl
  | error e => rfl

end Action
end MachineClaims
