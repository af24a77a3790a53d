import MachineClaims.Objects.Decode
import MachineClaims.Objects.Encode
import MachineClaims.Store

/-!
# Manifests

A manifest lists objects of all kinds. It is what a store is loaded with, and a store can be written
down as one.
-/

namespace MachineClaims

/-- Objects of all kinds. -/
structure Manifest where
  groups : List MachineGroup
  machines : List Machine
  classes : List CapacityClass
  claims : List Claim
deriving DecidableEq

namespace Manifest

open Json.Decoder in
/-- A manifest written as an object. -/
def decode : Json.Decoder Manifest :=
  closedRecord ["groups", "units", "classes", "claims"] do
    let groups ← defaulted "groups" (list MachineGroup.decode) []
    let machines ← defaulted "units" (list Machine.decode) []
    let classes ← defaulted "classes" (list CapacityClass.decode) []
    let claims ← defaulted "claims" (list Claim.decode) []
    return { groups, machines, classes, claims }

def toJson (m : Manifest) : Json :=
  .obj [("groups", .arr (m.groups.map MachineGroup.toJson)),
    ("units", .arr (m.machines.map Machine.toJson)),
    ("classes", .arr (m.classes.map CapacityClass.toJson)),
    ("claims", .arr (m.claims.map Claim.toJson))]

/-- All objects of a store, with their versions. -/
def ofStore (s : Store) : Manifest where
  groups := s.groups.values
  machines := s.machines.values
  classes := s.classes.values
  claims := s.claims.values

/-- The store that holds the objects of a manifest, with the versions that it gives. -/
def toStore (m : Manifest) : Store :=
  let put (k : Kind) (s : Store) (l : List k.Object) : Store := l.foldl (fun s o => s.put k o) s
  let s := put .group ∅ m.groups
  let s := put .machine s m.machines
  let s := put .capacityClass s m.classes
  put .claim s m.claims

end Manifest
end MachineClaims
