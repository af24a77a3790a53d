import MachineClaims.Binding
import MachineClaims.MachineType
import MachineClaims.Poll
import MachineClaims.Program

/-!
# The provider of machines

What creating, releasing and showing machines have in common: the settings of a provider, the
turn that creating and releasing take one after the other, and the look-ups between classes, groups
and machines.
-/

namespace MachineClaims

/-- The settings of a provider. -/
structure Provider where
  propagation : Propagation
  poll : Poll
deriving DecidableEq

namespace Provider

/-- The name of this kind of provider. -/
def name : String := "clusterapi"

/-- The provider with the settings that hold unless others are given. -/
def standard : Provider := ⟨.standard, .standard⟩

instance : Inhabited Provider := ⟨standard⟩

/-- Which condition of a machine calls for a new one, and after how many milliseconds. -/
structure RepairPolicy where
  condition : String
  status : Condition.Status
  toleration : Nat
deriving DecidableEq

/-- A provider of this kind has no conditions that call for a new machine. -/
def repairPolicies (_ : Provider) : List RepairPolicy := []

/-- Why a claim no longer fits its machine, if it does not. Machines of this provider always fit. -/
def drift? (_ : Provider) (_ : Claim) : Option String := none

/-- Runs an action while holding the lock that callers share. -/
def exclusively {α : Type} (waiting : Interrupted) (action : Action α) : Action α := do
  if ← Action.request .lock then
    let result ← action.outcome
    Action.request .unlock
    Action.ofExcept result
  else throw (.cancelled waiting)

/-- The class that a reference names. -/
def resolveClass (classRef : Option String) (owner : Owner) : Action CapacityClass := do
  match classRef with
  | none => throw (.misuse (.noClass owner))
  | some name =>
    if name = "" then throw (.misuse (.emptyClass owner))
    match ← (Action.call (.getClass name)).outcome with
    | .error (.notFound ..) => throw (.misuse (.unknownClass name owner))
    | result => Action.ofExcept result

/-- The machine type of a group. -/
def machineType (p : Provider) (activity : Activity) (group : MachineGroup) :
    Except Failure MachineType :=
  match MachineType.ofGroup p.propagation group with
  | .ok t => .ok t
  | .error e => .error (.capacity activity e)

/-- The machine types of the groups that a class selects. -/
def machineTypes (p : Provider) (c : CapacityClass) : Action (List MachineType) := do
  let groups ← Action.call (.listGroups c.selector)
  Action.ofExcept (groups.mapM fun g => p.machineType (.typingGroup g.header.key) g)

/-- The group that a machine was made for, in the name space of the machine. -/
def owningGroup (machine : Machine) : Action MachineGroup := do
  match machine.owner? with
  | none => throw (.misuse (.noOwner machine.header.key))
  | some name => Action.call (.getGroup machine.header.space name)

/-- The machine types that a pool may draw from. -/
def poolTypes (p : Provider) (pool : String) (classRef : Option String) :
    Action (List MachineType) := do
  p.machineTypes (← resolveClass classRef (.pool pool))

end Provider
end MachineClaims
