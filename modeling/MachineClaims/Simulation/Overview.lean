import MachineClaims.Objects.Encode
import MachineClaims.Store

/-!
# Overviews of a store

What matters most in a store: for each object its version, and of a group the replica count, of a
machine whether it has been taken and its mark, of a claim its binding, of a class whether it is
ready.
-/

namespace MachineClaims.Store

/-- The objects of a kind by their keys, each with its version and with some members more. -/
def tableOverview (s : Store) (k : Kind) (members : k.Object → List (String × Json)) : Json :=
  NameMap.toJson (fun o => .obj (("v", .int (k.header o).version) :: members o)) (s.table k)

/-- The overview of a store. -/
def overview (s : Store) : Json :=
  .obj [
    ("groups", s.tableOverview .group fun g =>
      [("replicas", .option (fun n => .int (Int.ofNat n)) (MachineGroup.replicas g))]),
    ("units", s.tableOverview .machine fun m =>
      [("member", .bool (Machine.isMember m)),
        ("mark", .option .str ((Machine.header m).annotations.get? deleteMark))]),
    ("claims", s.tableOverview .claim fun c =>
      [("bind", .option .str (Claim.binding? c))]),
    ("classes", s.tableOverview .capacityClass fun c =>
      [("ready", .str (Condition.status? readyCondition (CapacityClass.conditions c)).name)])]

end MachineClaims.Store
