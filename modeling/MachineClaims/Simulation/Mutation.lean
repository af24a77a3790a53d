import MachineClaims.Objects.Decode
import MachineClaims.Objects.Encode
import MachineClaims.Store

/-!
# Changes made by others

What a fleet manager or another client does to the stored objects while a provider is at work. Such
changes go through the store like all others, so they are versioned.
-/

namespace MachineClaims.Simulation

/-- A change to the stored objects. -/
inductive Mutation where
  /-- Stores an object, on top of whatever has its key. -/
  | put (k : Kind) (o : k.Object)
  /-- Applies a merge patch to a stored object. -/
  | edit (k : Kind) (space name : String) (patch : Json)
  | delete (k : Kind) (space name : String)

namespace Mutation

/-- What came of a change. -/
inductive Outcome where
  | written
  | deleted (existed : Bool)
  | refused (error : Store.Error)
  /-- The patched object is no object of its kind. -/
  | unreadable

/-- Stores an object: as a new one, or with the version of the stored one. -/
def overwrite (s : Store) (k : Kind) (o : k.Object) : Outcome × Store :=
  let outcome : Except Store.Error (k.Object × Store) :=
    match s.lookup k (k.key o) with
    | .ok stored => s.update k (k.withVersion o (k.header stored).version)
    | .error (.notFound ..) => s.create k o
    | .error e => .error e
  match outcome with
  | .ok (_, s') => (.written, s')
  | .error e => (.refused e, s)

/-- Makes a change. -/
def perform (s : Store) : Mutation → Outcome × Store
  | .put k o => overwrite s k o
  | .edit k space name patch =>
    match s.get k space name with
    | .error e => (.refused e, s)
    | .ok stored =>
      match k.decode ((k.toJson stored).merge patch) with
      | some o => overwrite s k o
      | none => (.unreadable, s)
  | .delete k space name =>
    let (existed, s') := s.delete k space name
    (.deleted existed, s')

/-- Makes changes one after the other. -/
def performAll (s : Store) (ms : List Mutation) : Store :=
  ms.foldl (fun s m => (m.perform s).2) s

end Mutation
end MachineClaims.Simulation
