/-!
# Cancelling on a virtual clock

A caller listens to one source of cancellation: a handle, which cancels once and for all, a channel,
whose last value counts, or nothing at all. Cancelling may also be put off to a time, and then it
happens while the caller waits, even when the handle is gone by then.
-/

namespace MachineClaims.Simulation

/-- What a caller listens to. -/
inductive Source where
  | handle
  | channel
  | never
deriving DecidableEq, Repr

/-- A handle and a channel, and what a caller makes of them. -/
structure Cancellation where
  source : Source
  /-- Whether somebody holds the handle. -/
  held : Bool
  fired : Bool
  channel : Bool
  /-- When the handle is going to cancel. -/
  pending : List Nat
  now : Nat
deriving DecidableEq, Repr

namespace Cancellation

/-- A handle that has not cancelled, and a caller that listens to it. -/
def new : Cancellation := ⟨.handle, true, false, false, [], 0⟩

/-- Cancels, if somebody holds the handle. -/
def fire (c : Cancellation) : Cancellation := { c with fired := c.fired || c.held }

/-- Cancels after some time, if somebody holds the handle. -/
def fireAfter (c : Cancellation) (ms : Nat) : Cancellation :=
  if c.held then { c with pending := (c.now + ms) :: c.pending } else c

/-- Lets go of the handle. -/
def drop (c : Cancellation) : Cancellation := { c with held := false }

/-- Whether the caller is cancelled. -/
def isCancelled (c : Cancellation) : Bool :=
  match c.source with
  | .handle => c.fired
  | .channel => c.channel
  | .never => false

/-- Moves the clock to a time. What was to happen before it has happened. -/
def advance (c : Cancellation) (time : Nat) : Cancellation :=
  { c with
    now := time
    fired := c.fired || c.pending.any (· < time)
    pending := c.pending.filter (time ≤ ·) }

/-- Waits until the caller is cancelled, for some time at most. -/
def wait (c : Cancellation) (ms : Nat) : Cancellation :=
  if c.isCancelled then c
  else
    match (c.pending.filter (· < c.now + ms)).min? with
    | none => c.advance (c.now + ms)
    | some time =>
      if c.source = .handle then
        let time := max time c.now
        { c with now := time, fired := true, pending := c.pending.filter (time < ·) }
      else c.advance (c.now + ms)

end Cancellation
end MachineClaims.Simulation
