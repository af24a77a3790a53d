import MachineClaims.Provider

/-!
# Releasing the machine of a claim

The machine is marked first, so that it is the one that goes when the replica count of its group
drops; then the count is lowered. If that fails, a mark that was set here is taken off again.
-/

namespace MachineClaims.Provider

/-- Marks a machine to be removed first. Answers the caller's copy and whether it was written; a
machine that has a mark keeps it. -/
def mark (machine : Machine) : Action (Machine × Bool) := do
  if machine.isMarked then return (machine, false)
  let now ← Action.request .clock
  let written ← Action.call (.updateMachine (machine.marked (Text.decimal now)))
  return (written, true)

/-- Takes the mark off a machine. Answers the caller's copy and whether it was written. -/
def unmark (machine : Machine) : Action (Machine × Bool) := do
  if machine.isMarked then
    let written ← Action.call (.updateMachine machine.unmarked)
    return (written, true)
  else return (machine, false)

/-- The machine of a claim: by its provider id if that is known, else by the binding. -/
def resolveMachine (claim : Claim) : Action Machine := do
  let (found, name) ←
    if claim.providerId ≠ "" then do
      let found ← Action.call (.findMachine claim.providerId)
      pure (found, "with provider id " ++ claim.providerId)
    else
      match claim.binding? with
      | some binding => do
        let (space, name) ← Action.ofExcept (Binding.parse binding)
        let found ← Action.call (.getMachine space name)
        pure (found, binding)
      | none => throw (.misuse (.unresolvable claim.header.name))
  match found with
  | some machine => return machine
  | none => throw (.notFound .machine name)

/-- Lowers the replica count of a group by one, for a machine that has been marked. -/
def lower (group : MachineGroup) (replicas : Nat) (machine : Machine) (fresh : Bool) :
    Action Unit := do
  match ← (Action.call (.updateGroup { group with replicas := some (replicas - 1) })).outcome with
  | .ok _ => return
  | .error primary =>
    if fresh then
      match ← (unmark machine).outcome with
      | .ok _ => throw primary
      | .error cleanup => throw (.compensationFailed primary cleanup)
    else throw primary

/-- Releases the machine of a claim. There is nothing to do for a machine whose removal has
begun. -/
def delete (claim : Claim) : Action Unit :=
  let name := claim.header.name
  exclusively (.waitingToDelete name) do
    if ← Action.request .cancelled then throw (.cancelled (.startingDelete name))
    let machine ← resolveMachine claim
    if machine.isDeleting then return
    let group ← owningGroup machine
    match group.replicas with
    | none => throw (.unmanaged group.header.key)
    | some 0 => throw (.zeroReplicas group.header.key)
    | some replicas =>
      let (machine, fresh) ← mark machine
      lower group replicas machine fresh

end MachineClaims.Provider
