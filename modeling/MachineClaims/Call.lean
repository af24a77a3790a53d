import MachineClaims.Store
import MachineClaims.Failure

/-!
# Calls to groups, machines, classes and claims

What the protocols for providing and releasing a machine do to stored objects, one call at a time.
Each call may fail, and then it says what was being done.
-/

namespace MachineClaims

/-- One call. -/
inductive Call where
  | getGroup (space name : String)
  | listGroups (selector : Option Selector)
  | updateGroup (group : MachineGroup)
  | getMachine (space name : String)
  | findMachine (providerId : String)
  | listMachines (selector : Option Selector)
  | updateMachine (machine : Machine)
  | getClass (name : String)
  | updateClaim (claim : Claim)

namespace Call

/-- What a call answers when it succeeds. Writing answers the caller's copy, and looking for a
machine may find none. -/
@[reducible] def Result : Call → Type
  | .getGroup _ _ => MachineGroup
  | .listGroups _ => List MachineGroup
  | .updateGroup _ => MachineGroup
  | .getMachine _ _ => Option Machine
  | .findMachine _ => Option Machine
  | .listMachines _ => List Machine
  | .updateMachine _ => Machine
  | .getClass _ => CapacityClass
  | .updateClaim _ => Claim

/-- Says what was being done when the store failed. -/
def during {α : Type} (activity : Activity) : Except Store.Error α → Except Failure α
  | .ok a => .ok a
  | .error e => .error (.store activity e)

/-- The outcome of a write. The store stays as it is if there is no new one. -/
def written {α : Type} (activity : Activity) (s : Store) :
    Except Store.Error (α × Store) → Except Failure α × Store
  | .ok (a, s') => (.ok a, s')
  | .error e => (.error (.store activity e), s)

/-- Performs a call on the store. -/
def perform (s : Store) : (c : Call) → Except Failure c.Result × Store
  | .getGroup space name => (during (.gettingGroup space name) (s.get .group space name), s)
  | .listGroups selector => (during .listingGroups (s.list .group selector), s)
  | .updateGroup group =>
    written (.updatingGroup group.header.key) s (s.update .group group)
  | .getMachine space name =>
    let found : Except Failure (Option Machine) :=
      match s.get .machine space name with
      | .ok machine => .ok (some machine)
      | .error (.notFound ..) => .ok none
      | .error e => .error (.store (.gettingMachine space name) e)
    (found, s)
  | .findMachine providerId =>
    let all : Except Failure (List Machine) :=
      during (.findingMachine providerId) (s.list .machine none)
    (all.map fun machines => machines.find? (·.providerId == some providerId), s)
  | .listMachines selector => (during .listingMachines (s.list .machine selector), s)
  | .updateMachine machine =>
    written (.updatingMachine machine.header.key) s (s.update .machine machine)
  | .getClass name =>
    let found : Except Failure CapacityClass :=
      match s.get .capacityClass "" name with
      | .ok c => .ok c
      | .error (.notFound kind _) => .error (.notFound kind name)
      | .error e => .error (.store (.gettingClass name) e)
    (found, s)
  | .updateClaim claim =>
    written (.updatingClaim claim.header.name) s (s.update .claim claim)

end Call
end MachineClaims
