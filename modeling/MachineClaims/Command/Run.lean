import MachineClaims.Command.Error
import MachineClaims.Program

/-!
# What commands do

A command runs as a program that fails with an error of its own, which says what was being done.
-/

namespace MachineClaims.Command

/-- A program that may fail like a command. -/
abbrev Run := ExceptT Command.Error Program

/-- Makes an operation of the store, and says what was being done if it fails. -/
def request (op : Store.Operation) (context : Store.Error → Command.Error) : Run op.Result :=
  ExceptT.mk do
    match ← Program.request (.store op) with
    | .ok a => return .ok a
    | .error e => return .error (context e)

/-- Takes an action of a provider. -/
def act {α : Type} (a : Action α) : Run α :=
  ExceptT.mk do
    match ← a.run with
    | .ok value => return .ok value
    | .error e => return .error (.failed e)

/-! ### Commands alone, part by part -/

namespace Run

variable {α β : Type}

/-- Runs what a command does on a store that nobody else uses, at a given time, for a caller that
never cancels. -/
def alone (clock : Nat) (r : Run α) (s : Store) : Except Command.Error α × Store :=
  r.run.alone clock s

theorem alone_throw (clock : Nat) (e : Command.Error) (s : Store) :
    (throw e : Run α).alone clock s = (.error e, s) := rfl

theorem alone_lift (clock : Nat) (op : Store.Operation) (s : Store) :
    Run.alone clock (ExceptT.lift (Program.request (.store op))) s =
      (.ok (op.perform s).1, (op.perform s).2) := rfl

variable {clock : Nat} {r : Run α} {s s' : Store}

theorem alone_request_ok {op : Store.Operation} {a : op.Result} (h : op.perform s = (.ok a, s'))
    (context : Store.Error → Command.Error) :
    Run.alone clock (request op context) s = (.ok a, s') := by
  refine (Program.alone_bind clock (.request (.store op)) _ s).trans ?_
  rw [show (Program.request (.store op)).alone clock s = (.ok a, s') from h]
  rfl

/-- What follows goes on with the result of a part that succeeds. -/
theorem alone_bind_ok {a : α} (h : r.alone clock s = (.ok a, s')) (f : α → Run β) :
    (r >>= f).alone clock s = (f a).alone clock s' := by
  refine (Program.alone_bind clock r.run _ s).trans ?_
  rw [show r.run.alone clock s = (.ok a, s') from h]
  rfl

/-- What follows a part that fails does not run. -/
theorem alone_bind_error {e : Command.Error} (h : r.alone clock s = (.error e, s'))
    (f : α → Run β) : (r >>= f).alone clock s = (.error e, s') := by
  refine (Program.alone_bind clock r.run _ s).trans ?_
  rw [show r.run.alone clock s = (.error e, s') from h]
  rfl

end Run
end MachineClaims.Command
