import MachineClaims.Store.Error
import MachineClaims.Capacity
import MachineClaims.Text.Duration

/-!
# Why a machine could not be provided or released
-/

namespace MachineClaims

/-- Who refers to a capacity class. -/
inductive Owner where
  | claim (name : String)
  | pool (name : String)
deriving DecidableEq

def Owner.describe : Owner → String
  | .claim name => "claim " ++ name
  | .pool name => "pool " ++ name

/-- What is wrong with what a caller asked for, or with the objects it names. -/
inductive Misuse where
  | noClass (owner : Owner)
  | emptyClass (owner : Owner)
  | unknownClass (className : String) (owner : Owner)
  | replicaOverflow (group : String)
  | lostMachine (claim : String)
  | noOwner (machine : String)
  | unresolvable (claim : String)
  | noProviderId
  | other (reason : String)
deriving DecidableEq

def Misuse.describe : Misuse → String
  | .noClass owner => owner.describe ++ " has no capacity class reference"
  | .emptyClass owner => owner.describe ++ " has an empty capacity class reference"
  | .unknownClass className owner =>
    "capacity class " ++ className ++ " referenced by " ++ owner.describe ++ " does not exist"
  | .replicaOverflow group => "group " ++ group ++ " replica count overflow"
  | .lostMachine claim => "reservation for claim " ++ claim ++ " lost its unit"
  | .noOwner machine => "unit " ++ machine ++ " has no " ++ ownerLabel ++ " label"
  | .unresolvable claim => "claim " ++ claim ++ " has neither a provider id nor a unit binding"
  | .noProviderId => "no provider id supplied"
  | .other reason => reason

/-- What was being done when the store or the reading of capacity failed. -/
inductive Activity where
  | gettingGroup (space name : String)
  | listingGroups
  | updatingGroup (key : String)
  | gettingMachine (space name : String)
  | findingMachine (providerId : String)
  | listingMachines
  | updatingMachine (key : String)
  | gettingClass (name : String)
  | updatingClaim (name : String)
  | listingClasses
  | updatingClass (name : String)
  | typingGroup (key : String)
  | readingCapacity (machine : String)
  | readingDemands (claim : String)
  | other (text : String)
deriving DecidableEq

def Activity.describe : Activity → String
  | .gettingGroup space name => "getting group " ++ objectKey space name
  | .listingGroups => "listing groups"
  | .updatingGroup key => "updating group " ++ key
  | .gettingMachine space name => "getting unit " ++ objectKey space name
  | .findingMachine providerId => "looking up unit with provider id " ++ providerId
  | .listingMachines => "listing units"
  | .updatingMachine key => "updating unit " ++ key
  | .gettingClass name => "getting capacity class " ++ name
  | .updatingClaim name => "updating claim " ++ name
  | .listingClasses => "listing capacity classes"
  | .updatingClass name => "updating capacity class " ++ name
  | .typingGroup key => "translating group " ++ key
  | .readingCapacity machine => "reading capacity of unit " ++ machine
  | .readingDemands claim => "reading requirements of claim " ++ claim
  | .other text => text

/-- What was going on when a caller cancelled. -/
inductive Interrupted where
  | waitingToCreate (claim : String)
  | waitingToDelete (claim : String)
  | startingCreate (claim : String)
  | startingDelete (claim : String)
  | awaitingMachine (group : String)
  | binding (claim : String)
deriving DecidableEq

def Interrupted.describe : Interrupted → String
  | .waitingToCreate claim => "waiting to create claim " ++ claim
  | .waitingToDelete claim => "waiting to delete claim " ++ claim
  | .startingCreate claim => "starting create for claim " ++ claim
  | .startingDelete claim => "starting delete for claim " ++ claim
  | .awaitingMachine group => "waiting for a unit of group " ++ group
  | .binding claim => "binding claim " ++ claim

/-- Why a machine could not be provided, released or shown. -/
inductive Failure where
  /-- Something was missing from the request, and nothing was changed. -/
  | misuse (cause : Misuse)
  | notFound (kind : Kind) (name : String)
  /-- No group can take the claim now, of so many that its class selects. -/
  | insufficientCapacity (claim : String) (selected : Nat) (className : String)
  | store (activity : Activity) (source : Store.Error)
  /-- No machine turned up within so many milliseconds. -/
  | notDiscovered (group : String) (waited : Nat)
  | cancelled (stage : Interrupted)
  | unmanaged (group : String)
  | zeroReplicas (group : String)
  | missingCapacity (machine group resource : String)
  /-- The machine exists but has no identity yet. -/
  | missingProviderId (machine : String)
  | invalidBinding (value : String)
  | capacity (activity : Activity) (source : Capacity.Error)
  /-- Undoing a failed step failed too. -/
  | compensationFailed (primary cleanup : Failure)
deriving DecidableEq

namespace Failure

/-- The wording of a failure. -/
def message : Failure → String
  | .misuse cause => "invalid input: " ++ cause.describe
  | .notFound kind name => kind.name ++ " " ++ name ++ " not found"
  | .insufficientCapacity claim selected className =>
    "insufficient capacity: no compatible scalable group for claim " ++ claim ++ " among " ++
      Text.decimal selected ++ " selected by class " ++ className
  | .store activity source => activity.describe ++ ": " ++ source.message
  | .notDiscovered group waited =>
    "no unclaimed unit found in group " ++ group ++ " within " ++ Text.duration waited
  | .cancelled stage => "cancelled while " ++ stage.describe
  | .unmanaged group => "group " ++ group ++ " has no replica count and cannot be scaled"
  | .zeroReplicas group => "group " ++ group ++ " is already at zero replicas"
  | .missingCapacity machine group resource =>
    "unit " ++ machine ++ ": group " ++ group ++ " does not declare " ++ resource ++ " capacity"
  | .missingProviderId machine => "unit " ++ machine ++ " has no provider id yet"
  | .invalidBinding value =>
    "invalid unit binding " ++ Text.quote value ++ ": expected namespace/name"
  | .capacity activity source => activity.describe ++ ": " ++ source.message
  | .compensationFailed primary cleanup =>
    primary.message ++ "; cleanup also failed: " ++ cleanup.message

/-- Whether something that was asked for does not exist. -/
def isNotFound : Failure → Bool
  | .notFound .. => true
  | _ => false

/-- Whether no group can take the claim. -/
def isInsufficientCapacity : Failure → Bool
  | .insufficientCapacity .. => true
  | _ => false

/-- Whether an object had changed before it was written. -/
def isConflict : Failure → Bool
  | .store _ source => source.isConflict
  | _ => false

end Failure
end MachineClaims
