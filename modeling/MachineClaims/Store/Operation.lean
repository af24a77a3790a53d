import MachineClaims.Store

/-!
# Operations of the store as values
-/

namespace MachineClaims.Store

/-- One operation of the store. -/
inductive Operation where
  | get (k : Kind) (space name : String)
  | list (k : Kind) (selector : Option Selector)
  | create (k : Kind) (o : k.Object)
  | update (k : Kind) (o : k.Object)
  | delete (k : Kind) (space name : String)

namespace Operation

/-- What an operation answers when it succeeds. The writing ones answer the caller's copy. -/
@[reducible] def Result : Operation → Type
  | .get k _ _ => k.Object
  | .list k _ => List k.Object
  | .create k _ => k.Object
  | .update k _ => k.Object
  | .delete _ _ _ => Bool

/-- Keeps the store if there is no new one. -/
def settle {α : Type} (s : Store) : Except Error (α × Store) → Except Error α × Store
  | .ok (a, s') => (.ok a, s')
  | .error e => (.error e, s)

/-- Performs an operation. -/
def perform (s : Store) : (op : Operation) → Except Error op.Result × Store
  | .get k space name => (s.get k space name, s)
  | .list k selector => (s.list k selector, s)
  | .create k o => settle s (s.create k o)
  | .update k o => settle s (s.update k o)
  | .delete k space name =>
    let (existed, s') := s.delete k space name
    (.ok existed, s')

end Operation
end MachineClaims.Store
