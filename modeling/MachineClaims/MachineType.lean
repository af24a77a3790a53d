import MachineClaims.Propagation
import MachineClaims.Constraints

/-!
# Machine types

What the machines of a group look like to a claim: their labels as constraints, the variants
in which they come, and the amounts they leave for work.
-/

namespace MachineClaims

/-- The label with the way a machine is paid for. -/
def capacityTypeLabel : String := "karpenter.sh/capacity-type"

/-- The only way of paying. -/
def onDemand : String := "on-demand"

/-- A variant of a machine type. All variants are free of charge. -/
structure Variant where
  constraints : Constraints
  available : Bool
deriving DecidableEq

/-- The variant that every group has: available on demand in a zone. -/
def Variant.onDemandIn (zone : String) : Variant :=
  ⟨.ofList [.isIn zoneLabel [zone], .isIn capacityTypeLabel [onDemand]], true⟩

/-- Amounts that are held back on every machine. -/
structure Overhead where
  kubeReserved : Resources
  systemReserved : Resources
  evictionThreshold : Resources
deriving DecidableEq

namespace Overhead

/-- Nothing is held back. -/
def none : Overhead := ⟨∅, ∅, ∅⟩

/-- The amount of a resource in thousandths, none if it is not listed. -/
def amount (l : Resources) (resource : String) : Int := ((l.get? resource).map (·.millis)).getD 0

/-- What is held back of each resource that one of the lists mentions. -/
def total (o : Overhead) : Resources :=
  let mentioned := ((o.kubeReserved.insertAll o.systemReserved.entries).insertAll
    o.evictionThreshold.entries)
  mentioned.mapValues fun resource _ => Quantity.ofMillis
    (amount o.kubeReserved resource + amount o.systemReserved resource +
      amount o.evictionThreshold resource)

end Overhead

/-- Whether every requested amount is there. A resource that is not listed has none. -/
def fits (requests available : Resources) : Bool :=
  requests.entries.all fun e => e.2.millis ≤ ((available.get? e.1).map (·.millis)).getD 0

/-- What a machine of one group offers. -/
structure MachineType where
  /-- The value of the instance type label, empty if the group has none. -/
  name : String
  constraints : Constraints
  variants : List Variant
  capacity : Resources
  overhead : Overhead
  labels : Labels
  groupName : String
  groupSpace : String
deriving DecidableEq

namespace MachineType

/-- The machine type of a group. -/
def ofGroup (policy : Propagation) (group : MachineGroup) : Except Capacity.Error MachineType := do
  let labels := policy.nodeLabels group
  let capacity ← Capacity.declared group.header.annotations
  return {
    name := (labels.get? instanceTypeLabel).getD ""
    constraints := .ofLabels labels
    variants := [.onDemandIn ((labels.get? zoneLabel).getD "")]
    capacity
    overhead := .none
    labels
    groupName := group.header.name
    groupSpace := group.header.space }

/-- Capacity less overhead, at least nothing. -/
def allocatable (t : MachineType) : Resources :=
  let reserved := t.overhead.total
  t.capacity.mapValues fun resource q =>
    match reserved.get? resource with
    | some r => q.minus r
    | none => q

/-- Whether a claim may land on such a machine: its constraints are compatible with the type and with
a variant that is available, and its requests fit. -/
def admits (t : MachineType) (constraints : Constraints) (requests : Resources) : Bool :=
  constraints.compatible t.constraints &&
    t.variants.any (fun v => v.available && constraints.compatible v.constraints) &&
    fits requests t.allocatable

end MachineType
end MachineClaims
