import MachineClaims.Proofs.Scene
import MachineClaims.Provider

/-!
# Serving a program

A program can be run for so many requests by serving each of them, which is one of the ways in which
it may go (`steps_advance`). What others do in between is put between two such parts.
-/

namespace MachineClaims

/-- Serves a request: calls and operations are performed and take no time, nobody has cancelled, and a
free lock is taken. -/
def Scene.serve (w : Scene) (me : Caller) (now : Nat) : (r : Request) → r.Answer × Scene
  | .call c =>
    ((c.perform w.store).1, w.record (.call me c (c.perform w.store).1) (c.perform w.store).2)
  | .store op => ((op.perform w.store).1, w.operate me op)
  | .clock => (now, w)
  | .instant past => (⟨past, Nat.le_refl past⟩, w)
  | .deadline _ => ((), w)
  | .cancelled => (false, w)
  | .pause _ => (false, w)
  | .lock =>
    if w.holders.all (·.provider != me.provider) then
      (true, { w with holders := me :: w.holders })
    else (false, w)
  | .unlock => ((), { w with holders := w.holders.filter (· ≠ me) })

theorem Scene.answers_serve (w : Scene) (me : Caller) (now : Nat) (r : Request) :
    w.Answers me r (w.serve me now r).1 (w.serve me now r).2 := by
  cases r with
  | call c => exact .inl ⟨rfl, rfl⟩
  | store op => exact ⟨rfl, rfl⟩
  | clock => rfl
  | instant past => rfl
  | deadline time => rfl
  | cancelled => rfl
  | pause ms => rfl
  | unlock => rfl
  | lock =>
    unfold serve
    split
    · rename_i h
      refine ⟨fun c hc => ?_, rfl⟩
      simpa using List.all_eq_true.1 h c hc
    · rfl

namespace Program

variable {α : Type}

/-- Serves a program for so many requests. -/
def advance (me : Caller) (now : Nat) : Nat → Program α → Scene → Program α × Scene
  | 0, p, w => (p, w)
  | _, .done a, w => (.done a, w)
  | n + 1, .ask r next, w => (next (w.serve me now r).1).advance me now n (w.serve me now r).2

theorem steps_advance (me : Caller) (others : Scene → Scene → Prop) (now n : Nat) (p : Program α)
    (w : Scene) : Relation.ReflTransGen (Step me others) (p, w) (p.advance me now n w) := by
  induction n generalizing p w with
  | zero => exact .refl
  | succ n ih =>
    cases p with
    | done a => exact .refl
    | ask r next => exact .head (.answer (w.answers_serve me now r)) (ih _ _)

/-- Whether a program is over. -/
def isDone : Program α → Bool
  | .done _ => true
  | .ask _ _ => false

theorem ends_advance (me : Caller) (others : Scene → Scene → Prop) (now n : Nat) {p : Program α}
    {w : Scene} {a : α} (h : (p.advance me now n w).1 = .done a) :
    p.Ends me others w a (p.advance me now n w).2 := by
  have steps := steps_advance me others now n p w
  unfold Ends
  rw [← h]
  exact steps

/-- Whether a program is over and has failed in the given way. -/
def hasFailed (e : Failure) : Program (Except Failure α) → Bool
  | .done (.error e') => decide (e' = e)
  | _ => false

theorem eq_of_hasFailed {e : Failure} {p : Program (Except Failure α)} (h : p.hasFailed e = true) :
    p = .done (.error e) := by
  cases p with
  | ask r next => cases h
  | done x =>
    cases x with
    | ok a => cases h
    | error e' => rw [of_decide_eq_true h]

/-- Whether a program is over and has returned a value. -/
def hasReturned [DecidableEq α] (a : α) : Program (Except Failure α) → Bool
  | .done (.ok a') => decide (a' = a)
  | _ => false

theorem eq_of_hasReturned [DecidableEq α] {a : α} {p : Program (Except Failure α)}
    (h : p.hasReturned a = true) : p = .done (.ok a) := by
  cases p with
  | ask r next => cases h
  | done x =>
    cases x with
    | ok a' => rw [of_decide_eq_true h]
    | error e => cases h

/-- Others act once, after so many requests. -/
theorem ends_interrupted (me : Caller) (others : Scene → Scene → Prop) (now n n' : Nat)
    {p : Program α} {w w' : Scene} {a : α} (unfinished : (p.advance me now n w).1.isDone = false)
    (h : others (p.advance me now n w).2 w')
    (rest : ((p.advance me now n w).1.advance me now n' w').1 = .done a) :
    p.Ends me others w a ((p.advance me now n w).1.advance me now n' w').2 := by
  have before := steps_advance me others now n p w
  have after := ends_advance me others now n' rest
  generalize p.advance me now n w = paused at *
  obtain ⟨q, w₁⟩ := paused
  cases q with
  | done a => cases unfinished
  | ask r next => exact (before.tail (.others h)).trans after

/-- The program after its caller has cut short the wait that it is at, if it is at one. -/
def cut : Program α → Program α
  | .ask (.pause _) next => next true
  | p => p

/-- Others act once while a program waits, and its caller cuts the wait short. -/
theorem ends_cut (me : Caller) (others : Scene → Scene → Prop) (now n n' : Nat)
    {p : Program α} {w w' : Scene} {a : α} (unfinished : (p.advance me now n w).1.isDone = false)
    (h : others (p.advance me now n w).2 w')
    (rest : ((p.advance me now n w).1.cut.advance me now n' w').1 = .done a) :
    p.Ends me others w a ((p.advance me now n w).1.cut.advance me now n' w').2 := by
  have before := steps_advance me others now n p w
  have after := ends_advance me others now n' rest
  generalize p.advance me now n w = paused at *
  obtain ⟨q, w₁⟩ := paused
  cases q with
  | done a => cases unfinished
  | ask r next =>
    have acted := before.tail (.others h)
    cases r with
    | pause ms =>
      have cut : Step me others (.ask (.pause ms) next, w') (next true, w') := .answer rfl
      exact (acted.tail cut).trans after
    | _ => exact acted.trans after

end Program

/-- A small store: a class, and a group of one machine that is managed. -/
def Store.small : Store :=
  ((∅ : Store).put .capacityClass (Kind.capacityClass.bump (.new "small" none))).put .group
    (Kind.group.bump (.new "ns" "workers" (some 1)))

theorem Store.keyed_small : Store.small.Keyed := (keyed_empty.put .capacityClass _).put .group _

/-- The small store with the machine of the group. -/
def Store.sample : Store :=
  Store.small.put .machine
    (Kind.machine.bump { Machine.new "ns" "worker-1" "workers" with providerId := some "vm-1" })

theorem Store.keyed_sample : Store.sample.Keyed := keyed_small.put .machine _

/-- A claim on a machine of the small class. -/
def Claim.sample : Claim := .new "web" (some "small")

/-- A claim on another such machine. -/
def Claim.sample' : Claim := .new "api" (some "small")

/-- The small store with its machine and two claims. -/
def Store.claimed : Store :=
  (Store.sample.put .claim (Kind.claim.bump .sample)).put .claim (Kind.claim.bump .sample')

theorem Store.keyed_claimed : Store.claimed.Keyed := (keyed_sample.put .claim _).put .claim _

/-- A provider that checks once, and once more after a second. -/
def Provider.sample : Provider := ⟨.standard, ⟨1000, 1000⟩⟩

end MachineClaims
