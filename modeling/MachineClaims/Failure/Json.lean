import MachineClaims.Failure
import MachineClaims.Json

/-!
# Failures in JSON

A failure is written as an object with a name for its kind, its wording, answers to the questions
that callers ask of it, and the failures that caused it.
-/

namespace MachineClaims

/-- The name for the kind of an error. -/
def Quantity.ParseError.name : Quantity.ParseError → String
  | .empty => "Empty"
  | .invalid _ => "Invalid"
  | .unknownSuffix .. => "UnknownSuffix"
  | .outOfRange _ => "OutOfRange"

def Quantity.ParseError.toJson (e : Quantity.ParseError) : Json :=
  .obj [("error", .str e.name), ("message", .str e.message)]

/-- The name for the kind of an error. -/
def Capacity.Error.name : Capacity.Error → String
  | .quantity .. => "Quantity"
  | _ => "InvalidRequirement"

def Capacity.Error.toJson (e : Capacity.Error) : Json :=
  .obj <| [("error", .str e.name), ("message", .str e.message)] ++
    match e with
    | .quantity _ source => [("source", source.toJson)]
    | _ => []

/-- The name for the kind of a fault. -/
def Store.Fault.name : Store.Fault → String
  | .opening => "Open"
  | .transaction => "Transaction"
  | .table => "Table"
  | .reading => "Read"
  | .writing => "Write"
  | .encoding => "Serialize"
  | .decoding => "Deserialize"
  | .selecting => "InvalidSelector"

/-- The fault with a name. -/
def Store.Fault.ofName? (name : String) : Option Store.Fault :=
  [.opening, .transaction, .table, .reading, .writing, .encoding, .decoding, .selecting].find?
    (·.name == name)

/-- The name for the kind of an error. -/
def Store.Error.name : Store.Error → String
  | .fault activity _ => activity.name
  | .notFound .. => "NotFound"
  | .alreadyExists .. => "AlreadyExists"
  | .conflict .. => "Conflict"
  | .invalidSelector _ => "InvalidSelector"

def Store.Error.toJson (e : Store.Error) : Json :=
  .obj [("error", .str e.name), ("message", .str e.message),
    ("is_not_found", .bool e.isNotFound), ("is_conflict", .bool e.isConflict)]

namespace Failure

/-- The name for the kind of a failure. -/
def name : Failure → String
  | .misuse _ => "InvalidInput"
  | .notFound .. => "NotFound"
  | .insufficientCapacity .. => "InsufficientCapacity"
  | .store .. => "Store"
  | .notDiscovered .. => "UnitNotDiscovered"
  | .cancelled _ => "Cancelled"
  | .unmanaged _ => "UnmanagedGroup"
  | .zeroReplicas _ => "ZeroReplicas"
  | .missingCapacity .. => "MissingCapacity"
  | .missingProviderId _ => "MissingProviderId"
  | .invalidBinding _ => "InvalidBinding"
  | .capacity .. => "Capacity"
  | .compensationFailed .. => "CompensationFailed"

/-- The members of a failure that are the same for all kinds. -/
def ownMembers (f : Failure) : List (String × Json) :=
  [("error", .str f.name), ("message", .str f.message), ("is_not_found", .bool f.isNotFound),
    ("is_conflict", .bool f.isConflict),
    ("is_insufficient_capacity", .bool f.isInsufficientCapacity)]

/-- A failure in JSON. -/
def toJson : Failure → Json
  | .store activity source =>
    .obj ((Failure.store activity source).ownMembers ++ [("source", source.toJson)])
  | .capacity activity source =>
    .obj ((Failure.capacity activity source).ownMembers ++ [("source", source.toJson)])
  | .compensationFailed primary cleanup =>
    .obj ((Failure.compensationFailed primary cleanup).ownMembers ++
      [("primary", primary.toJson), ("cleanup", cleanup.toJson)])
  | f => .obj f.ownMembers

end Failure
end MachineClaims
