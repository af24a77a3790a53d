import MachineClaims.Header

/-!
# Capacity classes

A capacity class selects the groups that may serve claims and carries conditions such as `Ready`.
-/

namespace MachineClaims

inductive Condition.Status where
  | yes
  | no
  | unknown
deriving DecidableEq, Repr

/-- The name of a status in written conditions. -/
def Condition.Status.name : Condition.Status → String
  | .yes => "True"
  | .no => "False"
  | .unknown => "Unknown"

/-- A named condition, its status and the time of the last change of status. -/
structure Condition where
  kind : String
  status : Condition.Status
  lastTransition : Nat
deriving DecidableEq

/-- The condition that says a class may be used. -/
def readyCondition : String := "Ready"

namespace Condition

/-- The status of the first condition of a kind. -/
def status? (kind : String) (conditions : List Condition) : Condition.Status :=
  (conditions.find? (·.kind == kind)).elim .unknown (·.status)

/-- Gives the first condition of a kind a status, adding the condition at the end if there is none.
The time is kept when the status does not change, and then there is no new list. -/
def set? (kind : String) (status : Condition.Status) (now : Nat) :
    List Condition → Option (List Condition)
  | [] => some [⟨kind, status, now⟩]
  | c :: rest =>
    if c.kind = kind then
      if c.status = status then none else some (⟨c.kind, status, now⟩ :: rest)
    else (set? kind status now rest).map (c :: ·)

end Condition

/-- A policy object that names the groups which may serve claims. -/
structure CapacityClass where
  header : Header
  selector : Option Selector
  conditions : List Condition
deriving DecidableEq

namespace CapacityClass

def new (name : String) (selector : Option Selector) : CapacityClass :=
  ⟨.new "" name, selector, []⟩

instance : Inhabited CapacityClass := ⟨new "" none⟩

end CapacityClass
end MachineClaims
