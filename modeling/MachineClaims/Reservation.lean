import MachineClaims.Poll
import MachineClaims.Program

/-!
# Reservations

Taking one machine from a group happens in steps. A request raises the replica count by one; then
a machine that nobody has taken is awaited and labelled; then the claim is bound to it, which ends
the reservation. Until that, a rollback undoes the steps: the machine loses its label and gets the
mark that makes it the first to go, and only then does the replica count go back.
-/

namespace MachineClaims

/-- A replica that was reserved from a group, and the machine that was taken for it. -/
structure Reservation where
  space : String
  group : String
  /-- The replica count before the request. -/
  baseline : Nat
  /-- The machine that is to be released if the reservation is undone. -/
  machine : Option Machine
  /-- Whether the machine carries the label of its taker. -/
  discovered : Bool
deriving DecidableEq

namespace Reservation

/-- The key of the group. -/
def key (r : Reservation) : String := objectKey r.space r.group

/-- Raises the replica count of a group by one. -/
def request (space name : String) : Action Reservation := do
  let key := objectKey space name
  let group ← Action.call (.getGroup space name)
  match group.replicas with
  | none => throw (.unmanaged key)
  | some baseline =>
    if baseline = maxReplicas then throw (.misuse (.replicaOverflow key))
    let _ ← Action.call (.updateGroup { group with replicas := some (baseline + 1) })
    return { space, group := name, baseline, machine := none, discovered := false }

/-- Selects the machines of a group that nobody has taken. -/
def candidates (r : Reservation) : Selector :=
  (Selector.everything.withAbsent memberLabel).withIn ownerLabel [r.group]

/-- Whether a listed machine may be taken. -/
def eligible (r : Reservation) (m : Machine) : Bool :=
  m.header.space == r.space && !m.isDeleting

/-- The failure of a caller that cancels while no machine has been found. -/
def interrupted (r : Reservation) : Failure := .cancelled (.awaitingMachine r.key)

/-- Checks once for a machine that may be taken. -/
def check (r : Reservation) : Action (Option Machine) := do
  if ← Action.request .cancelled then throw r.interrupted
  let listed ← Action.call (.listMachines (some r.candidates))
  return listed.find? r.eligible

/-- Checks for a machine that may be taken, now, after each interval, and when the deadline has come.
The clock has got to `past` by now. -/
def awaitUntil (r : Reservation) (poll : Poll) (deadline past : Nat) : Action Machine := do
  match ← r.check with
  | some machine => return machine
  | none =>
    let now ← Action.request (.instant past)
    if deadline ≤ now then throw (.notDiscovered r.key poll.timeout)
    else
      let wait := min poll.step (deadline - now)
      if ← Action.request (.pause wait) then throw r.interrupted
      else r.awaitUntil poll deadline (now + wait)
termination_by deadline - past
decreasing_by
  have := now.2
  have := poll.step_pos
  omega

/-- Awaits a machine that may be taken, from now on and until the time is up. -/
def awaitMachine (r : Reservation) (poll : Poll) : Action Machine := do
  let started ← Action.request (.instant 0)
  let deadline := started.val + poll.timeout
  Action.request (.deadline deadline)
  r.awaitUntil poll deadline started.val

/-- Awaits a machine and labels it. If the label cannot be written the machine is remembered all
the same, so that a rollback marks it. -/
def discover (r : Reservation) (poll : Poll) : Program (Reservation × Except Failure Machine) := do
  match ← (r.awaitMachine poll).run with
  | .error e => return (r, .error e)
  | .ok machine =>
    match ← (Action.call (.updateMachine machine.joined)).run with
    | .error e => return ({ r with machine := some machine.joined }, .error e)
    | .ok machine => return ({ r with machine := some machine, discovered := true }, .ok machine)

/-- Takes the label off the stored machine and marks it. A mark that is there stays, and a machine
that is gone or needs no change is not written. -/
def releaseMachine (machine : Machine) : Action Unit := do
  match ← Action.call (.getMachine machine.header.space machine.header.name) with
  | none => return
  | some stored =>
    let released ←
      if stored.isMarked then pure stored.left
      else do
        let now ← Action.request .clock
        pure (stored.left.marked (Text.decimal now))
    if stored.isMember || !stored.isMarked then
      let _ ← Action.call (.updateMachine released)

/-- Puts the replica count back to what it was before the request. -/
def restoreReplicas (r : Reservation) : Action Unit := do
  let group ← Action.call (.getGroup r.space r.group)
  let _ ← Action.call (.updateGroup { group with replicas := some r.baseline })

/-- Undoes the reservation after a failure, and says what to report. The replica count is put back
only if the machine, if there is one, has been released. -/
def rollback (r : Reservation) (primary : Failure) : Program Failure := do
  let released ← match r.machine with
    | none => pure (.ok ())
    | some machine => (releaseMachine machine).run
  match released with
  | .error cleanup => return .compensationFailed primary cleanup
  | .ok () =>
    match ← r.restoreReplicas.run with
    | .error cleanup => return .compensationFailed primary cleanup
    | .ok () => return primary

end Reservation
end MachineClaims
