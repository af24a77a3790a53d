import MachineClaims.Command.Run
import MachineClaims.Manifest

/-!
# Storing the objects of a manifest

Each object is stored as a new one, or on top of the one that has its key. The versions that the
manifest gives do not count.
-/

namespace MachineClaims.Manifest

/-- Stores one object, with the version of the stored one if there is one. -/
def upsert (k : Kind) (o : k.Object) : Command.Run Unit := do
  let h := k.header o
  match ← ExceptT.lift (Program.request (.store (.get k h.space h.name))) with
  | .ok stored =>
    let o := k.withVersion o (k.header stored).version
    let _ ← Command.request (.update k o) (.updating k h.key)
  | .error (.notFound ..) =>
    let _ ← Command.request (.create k o) (.creating k h.key)
  | .error e => throw (.store e)

/-- Stores objects of a kind one after the other. -/
def upsertAll (k : Kind) (l : List k.Object) : Command.Run Unit := l.forM (upsert k)

/-- Stores the objects of a manifest: first the classes, then groups, machines and claims. -/
def apply (m : Manifest) : Command.Run Unit := do
  upsertAll .capacityClass m.classes
  upsertAll .group m.groups
  upsertAll .machine m.machines
  upsertAll .claim m.claims

end MachineClaims.Manifest
