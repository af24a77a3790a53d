import MachineClaims.Text.Decimal

/-!
# JSON values

Numbers keep the text they are written with, so that `1`, `1.0` and integers of any size stay
apart. Objects keep their members in order, repeated keys included.
-/

namespace MachineClaims

/-- A JSON value. -/
inductive Json where
  | null
  | bool (value : Bool)
  /-- A number by its text. -/
  | number (text : String)
  | str (value : String)
  /-- A string with half a surrogate pair, or an object with such a key. It is well formed and may
  be skipped, but it has no value. -/
  | broken
  | arr (items : List Json)
  | obj (members : List (String × Json))
deriving Inhabited

namespace Json

/-- The number that an integer is written as. -/
def int (n : Int) : Json := .number (Text.decimal n)

/-- The value of an optional member. -/
def option {α : Type} (f : α → Json) : Option α → Json
  | none => .null
  | some a => f a

/-- A list of strings. -/
def strings (l : List String) : Json := .arr (l.map .str)

/-- The last member of an object with a key. -/
def get? (key : String) : Json → Option Json
  | .obj members => (members.reverse.find? (·.1 == key)).map (·.2)
  | _ => none

/-- The member of an object with a key, `null` if there is none. -/
def get (key : String) (j : Json) : Json := (j.get? key).getD .null

/-- An integer written without fraction or exponent. The text `-0` is no integer. -/
def int? : Json → Option Int
  | .number text => if text = "-0" then none else Text.signed? text.toList
  | _ => none

/-! ### Merge patches -/

/-- Gives the first member with a key a new value, adding it at the end if there is none. -/
def setMember (key : String) (value : Json) : List (String × Json) → List (String × Json)
  | [] => [(key, value)]
  | m :: rest => if m.1 = key then (key, value) :: rest else m :: setMember key value rest

/-- The members of an object; another value counts as an empty object. -/
def members : Json → List (String × Json)
  | .obj members => members
  | _ => []

mutual

/-- Applies a merge patch: objects merge member by member, where `null` removes the member, and any
other value replaces what was there. -/
def merge (target : Json) : Json → Json
  | .obj patch => .obj (mergeMembers target.members patch)
  | patch => patch

/-- Applies the members of a patch in turn. -/
def mergeMembers (target : List (String × Json)) : List (String × Json) → List (String × Json)
  | [] => target
  | m :: rest => mergeMembers (mergeMember target m) rest

/-- Applies one member of a patch. -/
def mergeMember (target : List (String × Json)) : String × Json → List (String × Json)
  | (key, .null) => target.filter (·.1 != key)
  | (key, patch) => setMember key (merge ((get? key (.obj target)).getD .null) patch) target

end

end Json
end MachineClaims
