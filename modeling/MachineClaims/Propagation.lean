import MachineClaims.MachineGroup
import MachineClaims.NameSet

/-!
# Labels that machines get from their group

A policy decides by the domain of a label, the part of its key before the first slash, which
template labels of a group reach its machines. The labels written in an annotation of the group
come on top of those.
-/

namespace MachineClaims

/-- The label with the zone of a machine. -/
def zoneLabel : String := "topology.kubernetes.io/zone"

/-- The label with the instance type of a machine. -/
def instanceTypeLabel : String := "node.kubernetes.io/instance-type"

/-- The annotation of a group that lists labels as `k1=v1,k2=v2`. -/
def labelsKey : String := "capacity.cluster-autoscaler.kubernetes.io/labels"

/-- The part of a text before the first `sep`, and the part after it if there is one. -/
def cutAt (sep : Char) (cs : List Char) : List Char × Option (List Char) :=
  match cs.dropWhile (· != sep) with
  | [] => (cs, none)
  | _ :: rest => (cs.takeWhile (· != sep), some rest)

/-- The label written by one segment; a segment without `=` or without a key writes none. -/
def Labels.ofSegment? (segment : List Char) : Option (String × String) :=
  match cutAt '=' segment with
  | (_ :: _, none) => none
  | ([], _) => none
  | (key, some value) => some (String.ofList key, String.ofList value)

/-- The labels listed in a text, the last one of each key. -/
def Labels.ofText (text : String) : Labels :=
  NameMap.ofList ((text.toList.splitOn ',').filterMap Labels.ofSegment?)

/-- Which template labels reach the machines of a group. -/
structure Propagation where
  exactDomains : NameSet
  subdomainRoots : NameSet
  wellKnown : NameSet
deriving DecidableEq

namespace Propagation

/-- The policy for cluster machines: node roles, two restricted domains with their subdomains, and
four labels that describe the size of a machine. -/
def standard : Propagation where
  exactDomains := .ofNames ["node-role.kubernetes.io"]
  subdomainRoots := .ofNames ["node-restriction.kubernetes.io", "node.cluster.x-k8s.io"]
  wellKnown := .ofNames [
    "karpenter.cluster.x-k8s.io/instance-size",
    "karpenter.cluster.x-k8s.io/instance-family",
    "karpenter.cluster.x-k8s.io/instance-cpu",
    "karpenter.cluster.x-k8s.io/instance-memory"]

instance : Inhabited Propagation := ⟨standard⟩

/-- The part of a label key before the first slash. -/
def domain (key : String) : List Char := key.toList.takeWhile (· != '/')

/-- Whether a domain is a root or ends in a dot and that root. -/
def isUnder (root : String) (domain : List Char) : Bool :=
  domain == root.toList || ('.' :: root.toList).isSuffixOf domain

/-- Whether a template label reaches the machines of its group. -/
def propagates (p : Propagation) (key : String) : Bool :=
  p.wellKnown.contains key ||
    (p.exactDomains.contains (String.ofList (domain key)) ||
      p.subdomainRoots.keys.any fun root => isUnder root (domain key))

/-- The labels that reach the machines. -/
def propagate (p : Propagation) (labels : Labels) : Labels := labels.filter fun key _ => p.propagates key

/-- The labels of the machines of a group. -/
def nodeLabels (p : Propagation) (group : MachineGroup) : Labels :=
  let template := p.propagate group.template
  match group.header.annotations.get? labelsKey with
  | none => template
  | some text => template.insertAll (Labels.ofText text).entries

end Propagation
end MachineClaims
