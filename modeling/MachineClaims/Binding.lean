import MachineClaims.Failure

/-!
# Bindings

A bound claim names its machine as `namespace/name`, which is the key of the machine. Blank
characters around either part do not count, and neither part may be empty.
-/

namespace MachineClaims.Binding

/-- The name space and the name that a binding gives. -/
def parse (value : String) : Except Failure (String × String) :=
  match value.toList.splitOn '/' with
  | [space, name] =>
    let space := String.ofList (Text.trimChars space)
    let name := String.ofList (Text.trimChars name)
    if space = "" ∨ name = "" then .error (.invalidBinding value) else .ok (space, name)
  | _ => .error (.invalidBinding value)

end MachineClaims.Binding
