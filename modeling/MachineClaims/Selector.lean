import MachineClaims.NameMap
import MachineClaims.Text.Quoted

/-!
# Label selectors

A selector asks for labels with given values and for expressions on single keys, all of which must
hold. The empty selector matches every set of labels. Some expressions make no sense; `fault?`
finds the first of them, and `accepts` answers for those too.
-/

namespace MachineClaims

/-- Values by label key, or texts by annotation key. -/
abbrev Labels := NameMap String

/-- What an expression asks of the value of its key. -/
inductive Selector.Operator where
  | isIn
  | notIn
  | present
  | absent
deriving DecidableEq, Repr

/-- The name of an operator in written selectors and messages. -/
def Selector.Operator.name : Selector.Operator → String
  | .isIn => "In"
  | .notIn => "NotIn"
  | .present => "Exists"
  | .absent => "DoesNotExist"

/-- A condition on one label key. -/
structure Selector.Expression where
  key : String
  operator : Selector.Operator
  values : List String
deriving DecidableEq

/-- Why an expression makes no sense. -/
inductive Selector.Fault where
  | emptyKey
  | missingValues (operator : Selector.Operator) (key : String)
  | unexpectedValues (operator : Selector.Operator) (key : String)
deriving DecidableEq

/-- The wording of a selector error. -/
def Selector.Fault.message : Selector.Fault → String
  | .emptyKey => "expression with empty key"
  | .missingValues operator key =>
    operator.name ++ " on " ++ Text.quote key ++ " requires at least one value"
  | .unexpectedValues operator key =>
    operator.name ++ " on " ++ Text.quote key ++ " must not list values"

namespace Selector.Expression

/-- Set operators need a value, the other two must not list any, and the key is never empty. -/
def fault? (e : Selector.Expression) : Option Selector.Fault :=
  if e.key = "" then some .emptyKey
  else
    match e.operator with
    | .isIn | .notIn => if e.values = [] then some (.missingValues e.operator e.key) else none
    | .present | .absent =>
      if e.values = [] then none else some (.unexpectedValues e.operator e.key)

/-- Whether a value, or the absence of one, satisfies the expression. -/
def accepts (e : Selector.Expression) (value : Option String) : Bool :=
  match e.operator, value with
  | .isIn, some v => e.values.contains v
  | .isIn, none => false
  | .notIn, some v => !e.values.contains v
  | .notIn, none => true
  | .present, v => v.isSome
  | .absent, v => v.isNone

end Selector.Expression

/-- A condition on the labels of an object. -/
structure Selector where
  labels : Labels
  expressions : List Selector.Expression
deriving DecidableEq

namespace Selector

/-- The selector that matches every object. -/
def everything : Selector := ⟨∅, []⟩

instance : Inhabited Selector := ⟨everything⟩

/-- Asks also for a label with a value. -/
def withLabel (s : Selector) (key value : String) : Selector :=
  { s with labels := s.labels.insert key value }

/-- Asks also for an expression. -/
def withExpression (s : Selector) (e : Selector.Expression) : Selector :=
  { s with expressions := s.expressions ++ [e] }

/-- Asks also for a label with any value. -/
def withPresent (s : Selector) (key : String) : Selector := s.withExpression ⟨key, .present, []⟩

/-- Asks also that a label be missing. -/
def withAbsent (s : Selector) (key : String) : Selector := s.withExpression ⟨key, .absent, []⟩

/-- Asks also for a label with one of the values. -/
def withIn (s : Selector) (key : String) (values : List String) : Selector :=
  s.withExpression ⟨key, .isIn, values⟩

/-- The first fault of an expression. -/
def fault? (s : Selector) : Option Selector.Fault := s.expressions.findSome? (·.fault?)

/-- Whether labels satisfy the selector. -/
def accepts (s : Selector) (labels : Labels) : Bool :=
  s.labels.entries.all (fun e => labels.get? e.1 == some e.2) &&
    s.expressions.all fun e => e.accepts (labels.get? e.key)

@[simp] theorem accepts_everything (labels : Labels) : everything.accepts labels = true := rfl

theorem accepts_withExpression (s : Selector) (e : Selector.Expression) (labels : Labels) :
    (s.withExpression e).accepts labels = (s.accepts labels && e.accepts (labels.get? e.key)) := by
  simp [accepts, withExpression, Bool.and_assoc]

end Selector
end MachineClaims
