import MachineClaims.NameSet
import MachineClaims.Claim
import MachineClaims.Capacity

/-!
# Sets of values for a label

What is allowed for one label is a set of strings: finitely many values, or all but finitely many,
narrowed by bounds that only integers satisfy. `has` says what is in the set, `inter` intersects
two sets, and `count?` counts the members.
-/

namespace MachineClaims

/-- A set of allowed values for one label key. -/
structure ValueSet where
  key : String
  /-- Whether `values` lists what is excluded. -/
  complement : Bool
  values : NameSet
  /-- Values have to be integers above this bound. -/
  above : Option Int
  /-- Values have to be integers below this bound. -/
  below : Option Int
  /-- How many values have to remain when sets are intersected. -/
  minValues : Option Nat
deriving DecidableEq

namespace ValueSet

/-- One of the values. -/
def isIn (key : String) (values : List String) : ValueSet :=
  ⟨key, false, .ofNames values, none, none, none⟩

/-- None of the values. -/
def notIn (key : String) (values : List String) : ValueSet :=
  ⟨key, true, .ofNames values, none, none, none⟩

/-- Any value. -/
def present (key : String) : ValueSet := notIn key []

/-- No value. -/
def absent (key : String) : ValueSet := isIn key []

/-- An integer above the bound. -/
def greater (key : String) (bound : Int) : ValueSet := { present key with above := some bound }

/-- An integer below the bound. -/
def less (key : String) (bound : Int) : ValueSet := { present key with below := some bound }

def withMinValues (r : ValueSet) (min : Option Nat) : ValueSet := { r with minValues := min }

/-- The integer of 64 bits that a value writes, blank characters around it aside. -/
def integer? (value : String) : Option Int := Text.signedBits? 64 (Text.trimChars value.toList)

/-- The bound that a demand writes. -/
def bound? (r : Demand) : Except Capacity.Error Int :=
  match r.values with
  | [text] =>
    match integer? text with
    | some n => .ok n
    | none => .error (.invalidRequirement r.key (.boundText text))
  | _ => .error (.invalidRequirement r.key .boundCount)

/-- The values that a demand allows. -/
def ofDemand (r : Demand) : Except Capacity.Error ValueSet := do
  if r.key = "" then throw (.invalidRequirement r.key .emptyKey)
  let set ← match r.operator with
    | .isIn =>
      if r.values = [] then throw (.invalidRequirement r.key .missingValues)
      else pure (isIn r.key r.values)
    | .notIn => pure (notIn r.key r.values)
    | .present => pure (present r.key)
    | .absent => pure (absent r.key)
    | .above => greater r.key <$> bound? r
    | .below => less r.key <$> bound? r
  return set.withMinValues r.minValues

/-- The operator that describes a set best. -/
def operator (r : ValueSet) : Demand.Operator :=
  match r.complement, r.values.entries.isEmpty with
  | false, true => .absent
  | false, false => .isIn
  | true, none? =>
    if r.above.isSome then .above
    else if r.below.isSome then .below
    else if none? then .present else .notIn

/-- Whether a value satisfies the bounds. -/
def inBounds (r : ValueSet) (value : String) : Bool :=
  if r.above.isNone && r.below.isNone then true
  else
    match integer? value with
    | none => false
    | some n => r.above.all (· < n) && r.below.all (n < ·)

/-- Whether a value is allowed. -/
def has (r : ValueSet) (value : String) : Bool :=
  r.inBounds value && (r.values.contains value != r.complement)

/-- Whether no integer satisfies the bounds. -/
def boundsEmpty (r : ValueSet) : Bool :=
  match r.above, r.below with
  | some above, some below => below - above ≤ 1
  | _, _ => false

/-- The larger of two values, where a missing one counts as least. -/
def larger? {α : Type} [LT α] [DecidableLT α] : Option α → Option α → Option α
  | some a, some b => some (if a < b then b else a)
  | some a, none => some a
  | none, b => b

/-- The smaller of two values, where a missing one counts as greatest. -/
def smaller? {α : Type} [LT α] [DecidableLT α] : Option α → Option α → Option α
  | some a, some b => some (if b < a then b else a)
  | some a, none => some a
  | none, b => b

/-- The listed values of the intersection, bounds aside. -/
def interValues (r s : ValueSet) : NameSet :=
  match r.complement, s.complement with
  | true, true => r.values.union s.values
  | true, false => s.values.diff r.values
  | false, true => r.values.diff s.values
  | false, false => r.values.inter s.values

/-- The values that both sets allow, for the key of the first. A finite set keeps only values
within its bounds. -/
def inter (r s : ValueSet) : ValueSet :=
  let joint : ValueSet :=
    { key := r.key
      complement := r.complement && s.complement
      values := r.interValues s
      above := larger? r.above s.above
      below := smaller? r.below s.below
      minValues := larger? r.minValues s.minValues }
  if joint.complement then joint else { joint with values := joint.values.sift joint.inBounds }

/-- The number of allowed values, `none` if there is no end of them. -/
def count? (r : ValueSet) : Option Nat :=
  if r.complement then if r.boundsEmpty then some 0 else none
  else some (r.values.keys.countP r.inBounds)

/-- Whether no value is allowed. -/
def isEmpty (r : ValueSet) : Bool := r.count? == some 0

end ValueSet
end MachineClaims
