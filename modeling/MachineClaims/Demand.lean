import MachineClaims.Text.Quoted

/-!
# Demands

A claim lists what it demands of the labels of its machine. Set operators list values, the two
comparisons take one integer.
-/

namespace MachineClaims

/-- What a demand asks of the value of its label. -/
inductive Demand.Operator where
  | isIn
  | notIn
  | present
  | absent
  | above
  | below
deriving DecidableEq, Repr

/-- The name of an operator in written demands and messages. -/
def Demand.Operator.name : Demand.Operator → String
  | .isIn => "In"
  | .notIn => "NotIn"
  | .present => "Exists"
  | .absent => "DoesNotExist"
  | .above => "Gt"
  | .below => "Lt"

/-- A condition on one label, as it is written on a claim. -/
structure Demand where
  key : String
  operator : Demand.Operator
  values : List String
  minValues : Option Nat
deriving DecidableEq

/-- What can be wrong with a demand. -/
inductive Demand.Fault where
  | emptyKey
  | missingValues
  | boundCount
  | boundText (text : String)
deriving DecidableEq

/-- The wording of what is wrong with a demand. -/
def Demand.Fault.message : Demand.Fault → String
  | .emptyKey => "empty key"
  | .missingValues => "In requires at least one value"
  | .boundCount => "Gt and Lt take exactly one value"
  | .boundText text => Text.quote text ++ " is not an integer"

end MachineClaims
