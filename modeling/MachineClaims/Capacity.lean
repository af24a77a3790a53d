import MachineClaims.Quantity
import MachineClaims.MachineGroup
import MachineClaims.Demand

/-!
# Capacity of the machines of a group

A group says by annotations what its machines will offer. Each annotation stands for one resource,
except that the number of accelerators counts under the name that another annotation gives.
-/

namespace MachineClaims

/-- Why a group or a claim cannot be understood. -/
inductive Capacity.Error where
  | quantity (key : String) (source : Quantity.ParseError)
  | invalidRequirement (key : String) (reason : Demand.Fault)
deriving DecidableEq

/-- The wording of a capacity error. -/
def Capacity.Error.message : Capacity.Error → String
  | .quantity key source =>
    "annotation " ++ key ++ " has an invalid quantity: " ++ source.message
  | .invalidRequirement key reason =>
    "requirement on " ++ Text.quote key ++ " is invalid: " ++ reason.message

namespace Capacity

def cpuKey : String := "capacity.cluster-autoscaler.kubernetes.io/cpu"
def memoryKey : String := "capacity.cluster-autoscaler.kubernetes.io/memory"
def gpuCountKey : String := "capacity.cluster-autoscaler.kubernetes.io/gpu-count"
def gpuTypeKey : String := "capacity.cluster-autoscaler.kubernetes.io/gpu-type"
def diskKey : String := "capacity.cluster-autoscaler.kubernetes.io/ephemeral-disk"
def podsKey : String := "capacity.cluster-autoscaler.kubernetes.io/maxPods"

def cpu : String := "cpu"
def memory : String := "memory"
def disk : String := "ephemeral-storage"
def pods : String := "pods"

/-- The annotations that are read and the resources that they stand for, in the order in which
they are read. -/
def sources (annotations : Labels) : List (String × String) :=
  [(cpuKey, cpu), (memoryKey, memory)] ++
    (annotations.get? gpuTypeKey).toList.map (gpuCountKey, ·) ++
    [(diskKey, disk), (podsKey, pods)]

/-- Adds the amount of one annotation, if it is there. -/
def addSource (annotations : Labels) (capacity : Resources) (source : String × String) :
    Except Capacity.Error Resources :=
  match annotations.get? source.1 with
  | none => .ok capacity
  | some text =>
    match Quantity.parse text with
    | .ok q => .ok (capacity.insert source.2 q)
    | .error e => .error (.quantity source.1 e)

/-- The amounts that annotations declare. A later resource replaces an earlier one of the same
name. -/
def declared (annotations : Labels) : Except Capacity.Error Resources :=
  (sources annotations).foldlM (addSource annotations) ∅

end Capacity
end MachineClaims
