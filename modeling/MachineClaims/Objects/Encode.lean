import MachineClaims.Json
import MachineClaims.Kind

/-!
# Objects written as JSON

Every field is written, also one that holds its default, and always in the same order.
-/

namespace MachineClaims

/-- The members of a map in the order of their keys. -/
def NameMap.toJson {α : Type} (f : α → Json) (m : NameMap α) : Json :=
  .obj (m.entries.map fun e => (e.1, f e.2))

def Labels.toJson (l : Labels) : Json := NameMap.toJson .str l

/-- An amount is written as its text. -/
def Quantity.toJson (q : Quantity) : Json := .str q.text

def Resources.toJson (l : Resources) : Json := NameMap.toJson Quantity.toJson l

def Selector.Expression.toJson (e : Selector.Expression) : Json :=
  .obj [("key", .str e.key), ("operator", .str e.operator.name), ("values", .strings e.values)]

def Selector.toJson (s : Selector) : Json :=
  .obj [("match_labels", Labels.toJson s.labels),
    ("match_expressions", .arr (s.expressions.map Selector.Expression.toJson))]

def Header.toJson (h : Header) : Json :=
  .obj [("name", .str h.name), ("namespace", .str h.space), ("labels", Labels.toJson h.labels),
    ("annotations", Labels.toJson h.annotations), ("resource_version", .int h.version),
    ("deletion_timestamp", .option (fun t => .int (Int.ofNat t)) h.deletion)]

def MachineGroup.toJson (g : MachineGroup) : Json :=
  .obj [("meta", g.header.toJson), ("replicas", .option (fun n => .int (Int.ofNat n)) g.replicas),
    ("template", .obj [("labels", Labels.toJson g.template)])]

def Machine.toJson (m : Machine) : Json :=
  .obj [("meta", m.header.toJson), ("provider_id", .option .str m.providerId)]

def Demand.toJson (r : Demand) : Json :=
  .obj [("key", .str r.key), ("operator", .str r.operator.name), ("values", .strings r.values),
    ("min_values", .option (fun n => .int (Int.ofNat n)) r.minValues)]

def Claim.toJson (c : Claim) : Json :=
  .obj [("meta", c.header.toJson),
    ("spec", .obj [
      ("class_ref", .option (fun name => .obj [("name", .str name)]) c.classRef),
      ("requirements", .arr (c.demands.map Demand.toJson)),
      ("requests", Resources.toJson c.requests)]),
    ("status", .obj [
      ("provider_id", .str c.providerId),
      ("capacity", Resources.toJson c.capacity),
      ("allocatable", Resources.toJson c.allocatable)])]

def Condition.toJson (c : Condition) : Json :=
  .obj [("kind", .str c.kind), ("status", .str c.status.name),
    ("last_transition", .int c.lastTransition)]

def CapacityClass.toJson (c : CapacityClass) : Json :=
  .obj [("meta", c.header.toJson),
    ("spec", .obj [("scalable_selector", .option Selector.toJson c.selector)]),
    ("status", .obj [("conditions", .arr (c.conditions.map Condition.toJson))])]

/-- An object of a kind in JSON. -/
def Kind.toJson : (k : Kind) → k.Object → Json
  | .group => MachineGroup.toJson
  | .machine => Machine.toJson
  | .claim => Claim.toJson
  | .capacityClass => CapacityClass.toJson

end MachineClaims
