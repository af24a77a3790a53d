import MachineClaims.Provider

/-!
# Showing machines as claims

A machine that has been taken is shown as a claim without a name: bound to the machine, with its
provider id and with the labels and capacity of its group, which has to declare processors and
memory.
-/

namespace MachineClaims.Provider

/-- The claim that shows a machine of a group. -/
def snapshotOf (p : Provider) (machine : Machine) (group : MachineGroup) :
    Except Failure Claim := do
  let t ← p.machineType (.readingCapacity machine.header.key) group
  match [Capacity.cpu, Capacity.memory].find? fun resource => !t.capacity.contains resource with
  | some resource =>
    throw (.missingCapacity machine.header.key group.header.key resource)
  | none =>
    let claim := (Claim.new "" none).bound machine.header.key
    return { claim with
      header := { claim.header with labels := t.labels }
      providerId := machine.providerId.getD ""
      capacity := t.capacity
      allocatable := t.allocatable }

/-- The claim that shows a machine. -/
def snapshot (p : Provider) (machine : Machine) : Action Claim := do
  let group ← owningGroup machine
  Action.ofExcept (p.snapshotOf machine group)

/-- The claim of the machine with a provider id. -/
def get (p : Provider) (providerId : String) : Action Claim := do
  if providerId = "" then throw (.misuse .noProviderId)
  match ← Action.call (.findMachine providerId) with
  | none => throw (.notFound .machine ("with provider id " ++ providerId))
  | some machine => p.snapshot machine

/-- The claims of all machines that have been taken, in the order of their keys. -/
def list (p : Provider) : Action (List Claim) := do
  let machines ← Action.call (.listMachines (some (Selector.everything.withPresent memberLabel)))
  machines.mapM p.snapshot

end MachineClaims.Provider
