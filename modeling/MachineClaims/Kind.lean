import MachineClaims.MachineGroup
import MachineClaims.Machine
import MachineClaims.Claim
import MachineClaims.CapacityClass

/-!
# The kinds of stored objects
-/

namespace MachineClaims

/-- The four kinds of objects that are stored. -/
inductive Kind where
  | group
  | machine
  | claim
  | capacityClass
deriving DecidableEq, Repr

namespace Kind

/-- The objects of a kind. -/
@[reducible] def Object : Kind → Type
  | .group => MachineGroup
  | .machine => Machine
  | .claim => Claim
  | .capacityClass => CapacityClass

/-- The name of a kind in messages. -/
def name : Kind → String
  | .group => "ScalableGroup"
  | .machine => "Unit"
  | .claim => "Claim"
  | .capacityClass => "CapacityClass"

/-- The header of an object. -/
def header : (k : Kind) → k.Object → Header
  | .group, o => MachineGroup.header o
  | .machine, o => Machine.header o
  | .claim, o => Claim.header o
  | .capacityClass, o => CapacityClass.header o

/-- An object with another header. -/
def withHeader : (k : Kind) → k.Object → Header → k.Object
  | .group, o, h => { (o : MachineGroup) with header := h }
  | .machine, o, h => { (o : Machine) with header := h }
  | .claim, o, h => { (o : Claim) with header := h }
  | .capacityClass, o, h => { (o : CapacityClass) with header := h }

/-- An object with another version. -/
def withVersion (k : Kind) (o : k.Object) (version : Nat) : k.Object :=
  k.withHeader o { k.header o with version }

/-- The key under which an object is stored. -/
def key (k : Kind) (o : k.Object) : String := (k.header o).key

@[simp] theorem header_withHeader (k : Kind) (o : k.Object) (h : Header) :
    k.header (k.withHeader o h) = h := by cases k <;> rfl

@[simp] theorem version_withVersion (k : Kind) (o : k.Object) (version : Nat) :
    (k.header (k.withVersion o version)).version = version := by simp [withVersion]

@[simp] theorem key_withVersion (k : Kind) (o : k.Object) (version : Nat) :
    k.key (k.withVersion o version) = k.key o := by simp [key, withVersion, Header.key]

@[simp] theorem withVersion_withVersion (k : Kind) (o : k.Object) (v w : Nat) :
    k.withVersion (k.withVersion o v) w = k.withVersion o w := by cases k <;> rfl

@[simp] theorem withVersion_self (k : Kind) (o : k.Object) :
    k.withVersion o (k.header o).version = o := by cases k <;> rfl

end Kind

/-! ### Amounts as they are stored -/

/-- A stored amount is its text, so reading it back means reading that text. -/
def Quantity.reread (q : Quantity) : Except Quantity.ParseError Quantity := Quantity.parse q.text

/-- Amounts read back from their texts. -/
def Resources.reread (l : Resources) : Except Quantity.ParseError Resources :=
  match l.values.findSome? fun q => match q.reread with | .error e => some e | .ok _ => none with
  | some e => .error e
  | none => .ok (l.mapValues fun _ q => match q.reread with | .ok q' => q' | .error _ => q)

/-- An object read back from its stored form. Only the amounts of a claim can fail to read. -/
def Kind.reread : (k : Kind) → k.Object → Except Quantity.ParseError k.Object
  | .group, o => .ok o
  | .machine, o => .ok o
  | .claim, o => do
    let c : Claim := o
    let requests ← Resources.reread c.requests
    let capacity ← Resources.reread c.capacity
    let allocatable ← Resources.reread c.allocatable
    return { c with requests, capacity, allocatable }
  | .capacityClass, o => .ok o

end MachineClaims
