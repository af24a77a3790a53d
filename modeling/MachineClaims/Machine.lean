import MachineClaims.Header

/-!
# Machines
-/

namespace MachineClaims

/-- The label of a machine that names the group it was made for. -/
def ownerLabel : String := "cluster.x-k8s.io/deployment-name"

/-- The label of a machine that has been taken for a claim. -/
def memberLabel : String := "node.cluster.x-k8s.io/karpenter-member"

/-- The annotation that asks for a machine to be removed first when its group shrinks. -/
def deleteMark : String := "cluster.x-k8s.io/delete-machine"

/-- One machine made for a group. Its provider id is known once the machine exists. -/
structure Machine where
  header : Header
  providerId : Option String
deriving DecidableEq

namespace Machine

def new (space name group : String) : Machine :=
  ⟨(Header.new space name).withLabel ownerLabel group, none⟩

instance : Inhabited Machine := ⟨new "" "" ""⟩

/-- The name of the group that the machine was made for. -/
def owner? (m : Machine) : Option String := m.header.labels.get? ownerLabel

/-- Whether the machine has been taken for a claim. -/
def isMember (m : Machine) : Bool := m.header.labels.contains memberLabel

/-- Whether the machine is marked to be removed first. -/
def isMarked (m : Machine) : Bool := m.header.annotations.contains deleteMark

/-- Whether removal of the machine has begun; the time zero does not count. -/
def isDeleting (m : Machine) : Bool := m.header.deletion.any (· != 0)

/-- The machine with the membership label. -/
def joined (m : Machine) : Machine := { m with header := m.header.withLabel memberLabel "" }

/-- The machine without the membership label. -/
def left (m : Machine) : Machine := { m with header := m.header.withoutLabel memberLabel }

/-- The machine with a deletion mark. -/
def marked (m : Machine) (mark : String) : Machine :=
  { m with header := m.header.annotate deleteMark mark }

/-- The machine without the deletion mark. -/
def unmarked (m : Machine) : Machine := { m with header := m.header.unannotate deleteMark }

end Machine
end MachineClaims
