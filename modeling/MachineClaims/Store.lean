import MachineClaims.Store.Error

/-!
# The versioned store

One table per kind, keyed by `namespace/name`. A new object gets version 1; an update succeeds only
if it is based on the stored version, and stores the next one. An operation that fails returns no
store, so its caller goes on with the one it had.
-/

namespace MachineClaims

/-- The stored objects of each kind. -/
structure Store where
  groups : NameMap MachineGroup
  machines : NameMap Machine
  claims : NameMap Claim
  classes : NameMap CapacityClass
deriving DecidableEq

namespace Store

/-- The store without objects. -/
def empty : Store := ⟨∅, ∅, ∅, ∅⟩

instance : EmptyCollection Store := ⟨empty⟩
instance : Inhabited Store := ⟨empty⟩

/-- The table of a kind. -/
def table (s : Store) : (k : Kind) → NameMap k.Object
  | .group => s.groups
  | .machine => s.machines
  | .claim => s.claims
  | .capacityClass => s.classes

/-- The store with another table of a kind. -/
def setTable (s : Store) : (k : Kind) → NameMap k.Object → Store
  | .group, t => { s with groups := t }
  | .machine, t => { s with machines := t }
  | .claim, t => { s with claims := t }
  | .capacityClass, t => { s with classes := t }

@[simp] theorem table_setTable_self (s : Store) (k : Kind) (t : NameMap k.Object) :
    (s.setTable k t).table k = t := by cases k <;> rfl

theorem table_setTable_of_ne (s : Store) {k k' : Kind} (t : NameMap k.Object) (h : k' ≠ k) :
    (s.setTable k t).table k' = s.table k' := by
  cases k <;> cases k' <;> first | rfl | exact absurd rfl h

/-- Stores with the same tables are equal. -/
theorem ext_table {s t : Store} (h : ∀ k, s.table k = t.table k) : s = t := by
  cases s; cases t
  have hg := h .group
  have hm := h .machine
  have hc := h .claim
  have hk := h .capacityClass
  simp only [table] at hg hm hc hk
  subst hg hm hc hk
  rfl

/-- Stores an object under its key, whatever was there. -/
def put (s : Store) (k : Kind) (o : k.Object) : Store :=
  s.setTable k ((s.table k).insert (k.key o) o)

/-- Reads a stored object back. -/
def read (k : Kind) (o : k.Object) : Except Store.Error k.Object :=
  match k.reread o with
  | .ok o => .ok o
  | .error e => .error (.fault .decoding e.message)

/-- The object stored under a key. -/
def lookup (s : Store) (k : Kind) (key : String) : Except Store.Error k.Object :=
  match (s.table k).get? key with
  | some o => read k o
  | none => .error (.notFound k key)

/-- The object with a name. -/
def get (s : Store) (k : Kind) (space name : String) : Except Store.Error k.Object :=
  s.lookup k (objectKey space name)

/-- The objects of a kind in the order of their keys; those that a selector accepts, if one is
given. -/
def list (s : Store) (k : Kind) (selector : Option Selector) :
    Except Store.Error (List k.Object) :=
  match selector.bind (·.fault?) with
  | some e => .error (.invalidSelector e)
  | none => do
    let all ← (s.table k).values.mapM (read k)
    return all.filter fun o => selector.all (·.accepts (k.header o).labels)

/-- Stores a new object with version 1. Returns the caller's copy and the store. -/
def create (s : Store) (k : Kind) (o : k.Object) : Except Store.Error (k.Object × Store) :=
  if (s.table k).contains (k.key o) then .error (.alreadyExists k (k.key o))
  else
    let o := k.withVersion o 1
    .ok (o, s.put k o)

/-- Replaces the stored object that has the version of the given one. Returns the caller's copy
and the store. -/
def update (s : Store) (k : Kind) (o : k.Object) : Except Store.Error (k.Object × Store) := do
  let current ← s.lookup k (k.key o)
  let stored := (k.header current).version
  let attempted := (k.header o).version
  if stored = attempted then
    let o := k.withVersion o (stored + 1)
    return (o, s.put k o)
  else
    throw (.conflict k (k.key o) stored attempted)

/-- Removes the object with a name. Returns whether there was one. -/
def delete (s : Store) (k : Kind) (space name : String) : Bool × Store :=
  let key := objectKey space name
  ((s.table k).contains key, s.setTable k ((s.table k).erase key))

@[simp] theorem table_put_self (s : Store) (k : Kind) (o : k.Object) :
    (s.put k o).table k = (s.table k).insert (k.key o) o := by simp [put]

theorem table_put_of_ne (s : Store) {k k' : Kind} (o : k.Object) (h : k' ≠ k) :
    (s.put k o).table k' = s.table k' := table_setTable_of_ne s _ h

end Store
end MachineClaims
