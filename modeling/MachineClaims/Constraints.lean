import MachineClaims.ValueSet

/-!
# Constraints on several labels

One set of allowed values for each constrained label key: adding a second set for a key narrows the
first. Constraints are compatible if the keys that both mention can be satisfied at once.
-/

namespace MachineClaims

/-- Sets of allowed values by label key. -/
abbrev Constraints := NameMap ValueSet

/-- Why constraints cannot be satisfied at once. -/
inductive Incompatibility where
  | disjoint (key : String) (ours theirs : Demand.Operator)
  | tooFew (key : String) (count min : Nat)
deriving DecidableEq

/-- The wording of an incompatibility. -/
def Incompatibility.message : Incompatibility → String
  | .disjoint key ours theirs =>
    "key " ++ key ++ ": " ++ ours.name ++ " does not intersect " ++ theirs.name
  | .tooFew key count min =>
    "key " ++ key ++ ": " ++ Text.decimal count ++ " compatible value(s), minimum is " ++
      Text.decimal min

namespace Constraints

/-- Narrows the set of a key, or adds it. -/
def add (rs : Constraints) (r : ValueSet) : Constraints :=
  let merged :=
    match rs.get? r.key with
    | some existing => existing.inter r
    | none => r
  rs.insert merged.key merged

/-- All sets of a list, added in turn. -/
def ofList (l : List ValueSet) : Constraints := l.foldl add ∅

/-- What the demands of a claim allow. -/
def ofDemands (l : List Demand) : Except Capacity.Error Constraints :=
  return ofList (← l.mapM ValueSet.ofDemand)

/-- One value for every label. -/
def ofLabels (labels : Labels) : Constraints :=
  ofList (labels.entries.map fun e => ValueSet.isIn e.1 [e.2])

/-- Whether a set only excludes values, so that a missing label satisfies it. -/
def excludes (r : ValueSet) : Bool := r.operator == .notIn || r.operator == .absent

/-- What stands against two sets for one key. -/
def conflict? (key : String) (ours theirs : ValueSet) : Option Incompatibility :=
  let shared := ours.inter theirs
  match shared.count?, shared.minValues with
  | some 0, _ =>
    if excludes ours && excludes theirs then none
    else some (.disjoint key ours.operator theirs.operator)
  | some count, some min => if count < min then some (.tooFew key count min) else none
  | _, _ => none

/-- The first key that both constrain without a common way to satisfy it. -/
def incompatibility? (ours theirs : Constraints) : Option Incompatibility :=
  ours.entries.findSome? fun e => (theirs.get? e.1).bind (conflict? e.1 e.2)

/-- Whether both can be satisfied at once. -/
def compatible (ours theirs : Constraints) : Bool := (ours.incompatibility? theirs).isNone

end Constraints
end MachineClaims
