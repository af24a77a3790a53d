import MachineClaims.Selector

/-!
# Identity and bookkeeping of stored objects
-/

namespace MachineClaims

/-- The key under which an object is stored. -/
def objectKey (space name : String) : String := space ++ "/" ++ name

/-- What every stored object carries: a name in a name space, which is empty for objects of the
whole cluster, labels and annotations, a version and the time when its removal began. -/
structure Header where
  name : String
  space : String
  labels : Labels
  annotations : Labels
  version : Nat
  deletion : Option Nat
deriving DecidableEq

namespace Header

/-- Fresh bookkeeping of a name. -/
def new (space name : String) : Header := ⟨name, space, ∅, ∅, 0, none⟩

instance : Inhabited Header := ⟨new "" ""⟩

/-- The key under which the object is stored. -/
def key (m : Header) : String := objectKey m.space m.name

def withLabel (m : Header) (key value : String) : Header :=
  { m with labels := m.labels.insert key value }

def withoutLabel (m : Header) (key : String) : Header :=
  { m with labels := m.labels.erase key }

def annotate (m : Header) (key value : String) : Header :=
  { m with annotations := m.annotations.insert key value }

def unannotate (m : Header) (key : String) : Header :=
  { m with annotations := m.annotations.erase key }

end Header
end MachineClaims
