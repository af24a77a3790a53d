import MachineClaims.Json.Decoder
import MachineClaims.Kind

/-!
# Objects read from JSON

The header needs a name and has defaults for the rest; demands and conditions say what they
need. Amounts are texts that have to read as quantities.
-/

namespace MachineClaims

open Json Json.Decoder

/-- A map of strings. -/
def Labels.decode : Decoder Labels := map string

/-- The text of an amount. -/
def Quantity.decode : Decoder Quantity := fun j => do
  (Quantity.parse (← string j)).toOption

def Resources.decode : Decoder Resources := map Quantity.decode

def Selector.Operator.decode : Decoder Selector.Operator :=
  Decoder.name ([.isIn, .notIn, .present, .absent].map fun o => (Selector.Operator.name o, o))

def Selector.Expression.decode : Decoder Selector.Expression := record do
  let key ← required "key" string
  let operator ← required "operator" Selector.Operator.decode
  let values ← defaulted "values" (list string) []
  return { key, operator, values }

def Selector.decode : Decoder Selector := record do
  let labels ← defaulted "match_labels" Labels.decode ∅
  let expressions ← defaulted "match_expressions" (list Selector.Expression.decode) []
  return { labels, expressions }

def Header.decode : Decoder Header := record do
  let name ← required "name" string
  let space ← defaulted "namespace" string ""
  let labels ← defaulted "labels" Labels.decode ∅
  let annotations ← defaulted "annotations" Labels.decode ∅
  let version ← defaulted "resource_version" (unsigned 64) 0
  let deletion ← optional "deletion_timestamp" (unsigned 64)
  return { name, space, labels, annotations, version, deletion }

def MachineGroup.decode : Decoder MachineGroup := record do
  let header ← required "meta" Header.decode
  let replicas ← positional "replicas" (unsigned 32)
  let template ← defaulted "template" (record (defaulted "labels" Labels.decode ∅)) ∅
  return { header, replicas, template }

def Machine.decode : Decoder Machine := record do
  let header ← required "meta" Header.decode
  let providerId ← optional "provider_id" string
  return { header, providerId }

def Demand.Operator.decode : Decoder Demand.Operator :=
  Decoder.name <| [.isIn, .notIn, .present, .absent, .above, .below].map fun o =>
    (Demand.Operator.name o, o)

def Demand.decode : Decoder Demand := record do
  let key ← required "key" string
  let operator ← required "operator" Demand.Operator.decode
  let values ← defaulted "values" (list string) []
  let minValues ← optional "min_values" (unsigned 64)
  return { key, operator, values, minValues }

/-- The class reference, demands and requests of a claim. -/
def Claim.decodeSpec : Decoder (Option String × List Demand × Resources) := record do
  let classRef ← positional "class_ref" (record (required "name" string))
  let demands ← defaulted "requirements" (list Demand.decode) []
  let requests ← defaulted "requests" Resources.decode ∅
  return (classRef, demands, requests)

/-- The provider id, capacity and allocatable amounts of a claim. -/
def Claim.decodeStatus : Decoder (String × Resources × Resources) := record do
  let providerId ← defaulted "provider_id" string ""
  let capacity ← defaulted "capacity" Resources.decode ∅
  let allocatable ← defaulted "allocatable" Resources.decode ∅
  return (providerId, capacity, allocatable)

def Claim.decode : Decoder Claim := record do
  let header ← required "meta" Header.decode
  let (classRef, demands, requests) ← defaulted "spec" Claim.decodeSpec (none, [], ∅)
  let (providerId, capacity, allocatable) ← defaulted "status" Claim.decodeStatus ("", ∅, ∅)
  return { header, classRef, demands, requests, providerId, capacity, allocatable }

def Condition.Status.decode : Decoder Condition.Status :=
  Decoder.name ([.yes, .no, .unknown].map fun s => (Condition.Status.name s, s))

def Condition.decode : Decoder Condition := record do
  let kind ← required "kind" string
  let status ← required "status" Condition.Status.decode
  let lastTransition ← required "last_transition" (unsigned 64)
  return { kind, status, lastTransition }

/-- The conditions of a class. -/
def Condition.decodeAll : Decoder (List Condition) :=
  record (defaulted "conditions" (list Condition.decode) [])

def CapacityClass.decode : Decoder CapacityClass := record do
  let header ← required "meta" Header.decode
  let selector ← defaulted "spec" (record (positional "scalable_selector" Selector.decode)) none
  let conditions ← defaulted "status" Condition.decodeAll []
  return { header, selector, conditions }

/-- The decoder of a kind. -/
def Kind.decode : (k : Kind) → Decoder k.Object
  | .group => MachineGroup.decode
  | .machine => Machine.decode
  | .claim => Claim.decode
  | .capacityClass => CapacityClass.decode

end MachineClaims
