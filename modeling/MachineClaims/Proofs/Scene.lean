import MachineClaims.Program
import MachineClaims.Proofs.Keyed
import Mathlib.Logic.Relation

/-!
# Programs among others

A scene is a store, those who hold the lock of a provider, and all that has been done so far. A
call is answered by the store, or by a failure that leaves the store as it is. Whether a caller has
cancelled, and whether that cuts a wait short, comes out either way at every request, which covers
a token that fires at any moment. Others may act while a program is at a request.
-/

namespace MachineClaims

/-- One call to a provider: which provider, and which of the calls to it. -/
structure Caller where
  provider : Nat
  number : Nat
deriving DecidableEq

/-- What is done in one go. -/
inductive Deed where
  | call (caller : Caller) (c : Call) (answer : Except Failure c.Result)
  | operation (caller : Caller) (op : Store.Operation) (answer : Except Store.Error op.Result)
  /-- A change made by somebody who does not call a provider. -/
  | foreign

/-- A deed between two stores. -/
structure Event where
  before : Store
  deed : Deed
  after : Store

/-- What programs work on. -/
structure Scene where
  store : Store
  /-- Those who hold the lock of their provider. -/
  holders : List Caller
  /-- What has been done, the last first. -/
  events : List Event

namespace Scene

/-- The scene at the start. -/
def start (s : Store) : Scene := ⟨s, [], []⟩

/-- The scene after a deed that leaves a store. -/
def record (w : Scene) (deed : Deed) (s : Store) : Scene :=
  { w with store := s, events := ⟨w.store, deed, s⟩ :: w.events }

@[simp] theorem store_record (w : Scene) (deed : Deed) (s : Store) :
    (w.record deed s).store = s := rfl

@[simp] theorem events_record (w : Scene) (deed : Deed) (s : Store) :
    (w.record deed s).events = ⟨w.store, deed, s⟩ :: w.events := rfl

/-- The scene after a client has operated on the store. -/
def operate (w : Scene) (client : Caller) (op : Store.Operation) : Scene :=
  w.record (.operation client op (op.perform w.store).1) (op.perform w.store).2

/-- The scene after a group was written. -/
def writeGroup (w : Scene) (me : Caller) (g : MachineGroup) : Scene :=
  w.record (.call me (.updateGroup g) (.ok (Kind.group.bump g)))
    (w.store.put .group (Kind.group.bump g))

/-- The scene after a machine was written. -/
def writeMachine (w : Scene) (me : Caller) (m : Machine) : Scene :=
  w.record (.call me (.updateMachine m) (.ok (Kind.machine.bump m)))
    (w.store.put .machine (Kind.machine.bump m))

/-- The scene after a claim was written. -/
def writeClaim (w : Scene) (me : Caller) (c : Claim) : Scene :=
  w.record (.call me (.updateClaim c) (.ok (Kind.claim.bump c)))
    (w.store.put .claim (Kind.claim.bump c))

/-! ### What a write leaves of each table -/

section

variable (w : Scene) (me : Caller) (g : MachineGroup) (m : Machine) (c : Claim)

@[simp] theorem groups_writeGroup : (w.writeGroup me g).store.groups =
    w.store.groups.insert g.header.key (Kind.group.bump g) := rfl

@[simp] theorem machines_writeMachine : (w.writeMachine me m).store.machines =
    w.store.machines.insert m.header.key (Kind.machine.bump m) := rfl

variable {w me g m c}

theorem keyed_writeGroup (h : w.store.Keyed) : (w.writeGroup me g).store.Keyed :=
  h.put .group (Kind.group.bump g)

theorem keyed_writeMachine (h : w.store.Keyed) : (w.writeMachine me m).store.Keyed :=
  h.put .machine (Kind.machine.bump m)

theorem keyed_writeClaim (h : w.store.Keyed) : (w.writeClaim me c).store.Keyed :=
  h.put .claim (Kind.claim.bump c)

end

/-- The ways in which a caller's request may be answered, and the scene afterwards. Any deadline is
taken. -/
def Answers (w : Scene) (me : Caller) : (r : Request) → r.Answer → Scene → Prop
  | .call c, x, w' =>
    (x = (c.perform w.store).1 ∧ w' = w.record (.call me c x) (c.perform w.store).2) ∨
      ∃ activity error, x = .error (.store activity error) ∧ w' = w.record (.call me c x) w.store
  | .store op, x, w' =>
    x = (op.perform w.store).1 ∧ w' = w.operate me op
  | .clock, _, w' => w' = w
  | .instant _, _, w' => w' = w
  | .deadline _, _, w' => w' = w
  | .cancelled, _, w' => w' = w
  | .pause _, _, w' => w' = w
  | .lock, taken, w' =>
    if taken then
      (∀ c ∈ w.holders, c.provider ≠ me.provider) ∧ w' = { w with holders := me :: w.holders }
    else w' = w
  | .unlock, _, w' => w' = { w with holders := w.holders.filter (· ≠ me) }

end Scene

namespace Program

variable {α : Type}

/-- One move of a program: others act, or its request is answered. -/
inductive Step (me : Caller) (others : Scene → Scene → Prop) :
    Program α × Scene → Program α × Scene → Prop where
  | others {r : Request} {next : r.Answer → Program α} {w w' : Scene} (h : others w w') :
    Step me others (.ask r next, w) (.ask r next, w')
  | answer {r : Request} {next : r.Answer → Program α} {w w' : Scene} {x : r.Answer}
    (h : w.Answers me r x w') : Step me others (.ask r next, w) (next x, w')

/-- A run of a program from one scene to another, and its result. -/
def Ends (p : Program α) (me : Caller) (others : Scene → Scene → Prop) (w : Scene) (a : α)
    (w' : Scene) : Prop :=
  Relation.ReflTransGen (Step me others) (p, w) (.done a, w')

end Program

/-- A run of an action from one scene to another, and its result. -/
def Action.Ends {α : Type} (a : Action α) (me : Caller) (others : Scene → Scene → Prop)
    (w : Scene) (result : Except Failure α) (w' : Scene) : Prop :=
  Program.Ends a.run me others w result w'

end MachineClaims
