import MachineClaims.Header

/-!
# Groups of machines
-/

namespace MachineClaims

/-- The largest replica count. -/
def maxReplicas : Nat := Nat.pow 2 32 - 1

/-- A group of identical machines. It is sized by a replica count, unless something else manages
it, and its template labels go to every machine made for it. -/
structure MachineGroup where
  header : Header
  replicas : Option Nat
  template : Labels
deriving DecidableEq

namespace MachineGroup

def new (space name : String) (replicas : Option Nat) : MachineGroup :=
  ⟨.new space name, replicas, ∅⟩

instance : Inhabited MachineGroup := ⟨new "" "" none⟩

end MachineGroup
end MachineClaims
