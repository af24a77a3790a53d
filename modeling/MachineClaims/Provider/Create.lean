import MachineClaims.Provider
import MachineClaims.Reservation
import MachineClaims.Text.Lower

/-!
# Creating the machine of a claim

Of the groups that the class of a claim selects and that admit the claim, the least in a fixed order
gives the machine. A claim that is bound already is a retry: nothing is reserved, and only the
status is filled in.
-/

namespace MachineClaims.Provider

/-- By what groups are ordered: the name in lower case, then the name space, then the name. -/
def rank (t : MachineType) : String × String × String :=
  (Text.lowerCase t.groupName, t.groupSpace, t.groupName)

/-- Whether one rank comes before another. -/
def rankBefore (a b : String × String × String) : Bool :=
  a.1 < b.1 || (a.1 == b.1 && (a.2.1 < b.2.1 || (a.2.1 == b.2.1 && a.2.2 < b.2.2)))

/-- The first type that no other type of the list comes before. -/
def least : List MachineType → Option MachineType
  | [] => none
  | t :: rest =>
    match least rest with
    | none => some t
    | some u => if rankBefore (rank u) (rank t) then some u else some t

/-- The claim with the status that its machine gives it. -/
def populate (claim : Claim) (machine : Machine) (t : MachineType) : Except Failure Claim :=
  match machine.providerId.filter (· != "") with
  | none => .error (.missingProviderId machine.header.key)
  | some providerId =>
    .ok { claim with
      header := { claim.header with labels := claim.header.labels.insertAll t.labels.entries }
      providerId
      capacity := t.capacity
      allocatable := t.allocatable }

/-- Fills in the status of a claim that is bound already. -/
def resume (p : Provider) (claim : Claim) (binding : String) : Action Claim := do
  let (space, name) ← Action.ofExcept (Binding.parse binding)
  match ← Action.call (.getMachine space name) with
  | none => throw (.notFound .machine binding)
  | some machine =>
    let group ← owningGroup machine
    let t ← Action.ofExcept (p.machineType (.typingGroup group.header.key) group)
    Action.ofExcept (populate claim machine t)

/-- Awaits a machine for a reservation and binds the claim to it. A failure before the binding is
stored undoes the reservation. -/
def claimMachine (p : Provider) (claim : Claim) (r : Reservation) : Action (Claim × Machine) := do
  let (r, discovered) ← ExceptT.lift (r.discover p.poll)
  match discovered with
  | .error e => throw (← ExceptT.lift (r.rollback e))
  | .ok machine =>
    if ← Action.request .cancelled then
      throw (← ExceptT.lift (r.rollback (.cancelled (.binding claim.header.name))))
    match ← (Action.call (.updateClaim (claim.bound machine.header.key))).outcome with
    | .error e => throw (← ExceptT.lift (r.rollback e))
    | .ok claim => return (claim, machine)

/-- The type of the group that is to give the machine of a claim. -/
def choose (types : List MachineType) (constraints : Constraints) (requests : Resources) :
    Option MachineType :=
  least (types.filter (·.admits constraints requests))

/-- Creates the machine of a claim that is not bound. -/
def createFresh (p : Provider) (claim : Claim) : Action Claim := do
  let name := claim.header.name
  let c ← resolveClass claim.classRef (.claim name)
  let types ← p.machineTypes c
  let constraints ← match Constraints.ofDemands claim.demands with
    | .ok constraints => pure constraints
    | .error e => throw (.capacity (.readingDemands name) e)
  match choose types constraints claim.requests with
  | none => throw (.insufficientCapacity name types.length c.header.name)
  | some t =>
    let r ← Reservation.request t.groupSpace t.groupName
    let (claim, machine) ← p.claimMachine claim r
    Action.ofExcept (populate claim machine t)

/-- Reserves, awaits and binds a machine for a claim, and returns the claim with its status. -/
def create (p : Provider) (claim : Claim) : Action Claim :=
  let name := claim.header.name
  exclusively (.waitingToCreate name) do
    if ← Action.request .cancelled then throw (.cancelled (.startingCreate name))
    match claim.binding? with
    | some binding => p.resume claim binding
    | none => p.createFresh claim

end MachineClaims.Provider
