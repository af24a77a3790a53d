import MachineClaims.Header
import MachineClaims.Quantity
import MachineClaims.Demand

/-!
# Claims
-/

namespace MachineClaims

/-- The annotation of a claim that names its machine as `namespace/name`. -/
def bindKey : String := "cluster.x-k8s.io/machine"

/-- A request for one machine: the capacity class it draws from, what it asks of the labels and
resources of the machine, and, once there is a machine, what that machine offers. -/
structure Claim where
  header : Header
  classRef : Option String
  demands : List Demand
  requests : Resources
  providerId : String
  capacity : Resources
  allocatable : Resources
deriving DecidableEq

namespace Claim

def new (name : String) (classRef : Option String) : Claim :=
  ⟨.new "" name, classRef, [], ∅, "", ∅, ∅⟩

instance : Inhabited Claim := ⟨new "" none⟩

/-- The machine that the claim is bound to, as `namespace/name`. -/
def binding? (c : Claim) : Option String := c.header.annotations.get? bindKey

/-- The claim bound to a machine, given as `namespace/name`. -/
def bound (c : Claim) (machine : String) : Claim :=
  { c with header := c.header.annotate bindKey machine }

end Claim
end MachineClaims
