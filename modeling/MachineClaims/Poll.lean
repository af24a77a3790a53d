/-!
# Waiting with repeated checks
-/

namespace MachineClaims

/-- How often to check and when to give up, in milliseconds. -/
structure Poll where
  interval : Nat
  timeout : Nat
deriving DecidableEq, Repr

namespace Poll

/-- A check every second for a minute. -/
def standard : Poll := ⟨1000, 60000⟩

/-- The time between checks is never less than a millisecond. -/
def step (p : Poll) : Nat := max p.interval 1

theorem step_pos (p : Poll) : 0 < p.step := by unfold step; omega

end Poll
end MachineClaims
