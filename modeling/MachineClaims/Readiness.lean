import MachineClaims.Program

/-!
# Readiness of capacity classes

Classes have no health of their own, so every class is marked ready. A class that changed since it
was read is left for the next pass.
-/

namespace MachineClaims.Readiness

/-- Marks one class ready. Answers whether it was written. -/
def markReady (c : CapacityClass) : Action Bool := do
  let now ← Action.request .clock
  match Condition.set? readyCondition .yes now c.conditions with
  | none => return false
  | some conditions =>
    match ← Action.request (.store (.update .capacityClass { c with conditions })) with
    | .ok _ => return true
    | .error (.conflict ..) => return false
    | .error e => throw (.store (.updatingClass c.header.name) e)

/-- Marks every class ready. Answers how many classes were written. -/
def pass : Action Nat := do
  match ← Action.request (.store (.list .capacityClass none)) with
  | .error e => throw (.store .listingClasses e)
  | .ok classes => return ((← classes.mapM markReady).filter id).length

/-- Makes a pass after every interval until cancelled, at most so many. Passes may fail. -/
def watch (interval : Nat) : Nat → Program Unit
  | 0 => .done ()
  | passes + 1 => do
    if ← Program.request (.pause interval) then return
    let _ ← pass.run
    watch interval passes

/-- Makes a pass at once and then one after every interval until cancelled, at most so many. -/
def run (interval passes : Nat) : Program Unit := do
  let _ ← pass.run
  watch interval passes

end MachineClaims.Readiness
