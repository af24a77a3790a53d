import MachineClaims.Text.Decimal

/-!
# Durations in words

A number of milliseconds is written in seconds if it is at least one, with as many decimals as it
needs, and else in milliseconds.
-/

namespace MachineClaims.Text

/-- The decimals of a number of thousandths below one, with the point, without trailing zeros. -/
def decimals (thousandths : Nat) : String :=
  let digits := [thousandths / 100, thousandths / 10 % 10, thousandths % 10]
  match (digits.reverse.dropWhile (· == 0)).reverse with
  | [] => ""
  | shown => "." ++ String.join (shown.map Nat.repr)

/-- A number of milliseconds in words. -/
def duration (ms : Nat) : String :=
  if ms = 0 then "0ns"
  else if ms < 1000 then ms.repr ++ "ms"
  else (ms / 1000).repr ++ decimals (ms % 1000) ++ "s"

example : [0, 5, 100, 1500, 60000, 61001].map duration =
    ["0ns", "5ms", "100ms", "1.5s", "60s", "61.001s"] := by decide

end MachineClaims.Text
