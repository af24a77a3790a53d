import MachineClaims.MachineType
import MachineClaims.Objects.Decode
import MachineClaims.Objects.Encode

/-!
# Machine types and sets of values in JSON
-/

namespace MachineClaims

def ValueSet.toJson (r : ValueSet) : Json :=
  .obj [("key", .str r.key), ("complement", .bool r.complement),
    ("values", .strings r.values.keys), ("greater_than", .option .int r.above),
    ("less_than", .option .int r.below),
    ("min_values", .option (fun n => .int (Int.ofNat n)) r.minValues)]

def Constraints.toJson (c : Constraints) : Json := NameMap.toJson ValueSet.toJson c

open Json.Decoder in
def ValueSet.decode : Json.Decoder ValueSet := record do
  let key ← required "key" string
  let complement ← required "complement" boolean
  let values ← required "values" (list string)
  let above ← positional "greater_than" (signed 64)
  let below ← positional "less_than" (signed 64)
  let minValues ← positional "min_values" (unsigned 64)
  return { key, complement, values := .ofNames values, above, below, minValues }

def Constraints.decode : Json.Decoder Constraints := Json.Decoder.map ValueSet.decode

/-- A variant costs nothing. -/
def Variant.toJson (v : Variant) : Json :=
  .obj [("requirements", Constraints.toJson v.constraints), ("price", .number "0.0"),
    ("available", .bool v.available)]

def Overhead.toJson (o : Overhead) : Json :=
  .obj [("kube_reserved", Resources.toJson o.kubeReserved),
    ("system_reserved", Resources.toJson o.systemReserved),
    ("eviction_threshold", Resources.toJson o.evictionThreshold)]

def MachineType.toJson (t : MachineType) : Json :=
  .obj [("name", .str t.name), ("requirements", Constraints.toJson t.constraints),
    ("offerings", .arr (t.variants.map Variant.toJson)),
    ("capacity", Resources.toJson t.capacity), ("overhead", t.overhead.toJson),
    ("labels", Labels.toJson t.labels), ("group_name", .str t.groupName),
    ("group_namespace", .str t.groupSpace)]

end MachineClaims
