import MachineClaims.Json
import MachineClaims.NameMap

/-!
# Typed reading of JSON values

A decoder reads values of one shape and refuses all others. A record is written as an object, whose
unknown members are skipped, or as the array of its fields in order.
-/

namespace MachineClaims.Json

/-- Reads values of one shape. -/
abbrev Decoder (α : Type) := Json → Option α

namespace Decoder

variable {α : Type}

def string : Decoder String
  | .str s => some s
  | _ => none

def boolean : Decoder Bool
  | .bool b => some b
  | _ => none

/-- A signed integer of the given number of bits. -/
def signed (bits : Nat) : Decoder Int := fun j =>
  j.int?.filter (Text.fitsSigned bits)

/-- An unsigned integer of the given number of bits. -/
def unsigned (bits : Nat) : Decoder Nat := fun j =>
  (j.int?.filter (Text.fitsUnsigned bits)).map Int.toNat

/-- A value or `null`. -/
def nullable (d : Decoder α) : Decoder (Option α)
  | .null => some none
  | j => (d j).map some

def list (d : Decoder α) : Decoder (List α)
  | .arr items => items.mapM d
  | _ => none

/-- An object whose members are all read alike; the last one of a key counts. -/
def map (d : Decoder α) : Decoder (NameMap α)
  | .obj members => (members.mapM fun m => (d m.2).map (m.1, ·)).map NameMap.ofList
  | _ => none

/-- One of the listed names, written as a string or as the key of a `null`. -/
def name (names : List (String × α)) : Decoder α
  | .str s => names.lookup s
  | .obj [(s, .null)] => names.lookup s
  | _ => none

/-- The fields of a record that have not been read yet. -/
inductive Fields where
  | named (members : List (String × Json))
  | listed (items : List Json)

/-- Reads fields one after the other. -/
abbrev FieldReader := StateT Fields Option

/-- The value of the next field: outer `none` if there are two, inner `none` if there is none. -/
def Fields.next (key : String) : Fields → Option (Option Json × Fields)
  | .named members =>
    match members.filter (·.1 == key) with
    | [] => some (none, .named members)
    | [m] => some (some m.2, .named members)
    | _ => none
  | .listed [] => some (none, .listed [])
  | .listed (j :: rest) => some (some j, .listed rest)

/-- A field that has to be there. -/
def required (key : String) (d : Decoder α) : FieldReader α := fun fields => do
  let (value, rest) ← fields.next key
  return (← d (← value), rest)

/-- A field that has a value when it is left out. -/
def defaulted (key : String) (d : Decoder α) (default : α) : FieldReader α := fun fields => do
  let (value, rest) ← fields.next key
  match value with
  | some j => return (← d j, rest)
  | none => return (default, rest)

/-- A field that may be `null` or left out. -/
def optional (key : String) (d : Decoder α) : FieldReader (Option α) :=
  defaulted key (nullable d) none

/-- A field that may be `null`, and left out of an object but not of an array. -/
def positional (key : String) (d : Decoder α) : FieldReader (Option α)
  | .listed [] => none
  | fields => optional key d fields

/-- A record with the given fields. -/
def record (fields : FieldReader α) : Decoder α
  | .obj members => (fields.run (.named members)).map (·.1)
  | .arr items => do
    match ← fields.run (.listed items) with
    | (a, .listed []) => some a
    | _ => none
  | _ => none

/-- A record whose object form has no members but those with the given keys. -/
def closedRecord (keys : List String) (fields : FieldReader α) : Decoder α := fun j =>
  if j.members.all fun m => keys.contains m.1 then record fields j else none

end Decoder
end MachineClaims.Json
