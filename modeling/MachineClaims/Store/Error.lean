import MachineClaims.Kind

/-!
# Failures of the store
-/

namespace MachineClaims

/-- What the medium under the store was doing when it failed. -/
inductive Store.Fault where
  | opening
  | transaction
  | table
  | reading
  | writing
  | encoding
  | decoding
  | selecting
deriving DecidableEq, Repr

/-- How the message of a fault begins. -/
def Store.Fault.message : Store.Fault → String
  | .opening => "failed to open database: "
  | .transaction => "transaction error: "
  | .table => "table error: "
  | .reading => "read error: "
  | .writing => "write error: "
  | .encoding => "serialization error: "
  | .decoding => "deserialization error: "
  | .selecting => "invalid label selector: "

/-- Why an operation of the store failed. -/
inductive Store.Error where
  | fault (activity : Store.Fault) (text : String)
  | notFound (kind : Kind) (key : String)
  | alreadyExists (kind : Kind) (key : String)
  /-- The stored object is not the one that the update was based on. -/
  | conflict (kind : Kind) (key : String) (stored attempted : Nat)
  | invalidSelector (error : Selector.Fault)
deriving DecidableEq

namespace Store.Error

/-- The wording of a store error. -/
def message : Store.Error → String
  | .fault activity text => activity.message ++ text
  | .notFound kind key => kind.name ++ " " ++ key ++ " not found"
  | .alreadyExists kind key => kind.name ++ " " ++ key ++ " already exists"
  | .conflict kind key stored attempted =>
    "conflict writing " ++ kind.name ++ " " ++ key ++ ": stored version is " ++
      Text.decimal stored ++ ", update was based on " ++ Text.decimal attempted
  | .invalidSelector error => "invalid label selector: " ++ error.message

/-- Whether an object was missing. -/
def isNotFound : Store.Error → Bool
  | .notFound .. => true
  | _ => false

/-- Whether an object had changed. -/
def isConflict : Store.Error → Bool
  | .conflict .. => true
  | _ => false

end Store.Error
end MachineClaims
