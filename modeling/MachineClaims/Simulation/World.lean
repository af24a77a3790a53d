import MachineClaims.NameMap
import MachineClaims.Program
import MachineClaims.Simulation.Mutation

/-!
# A simulated world

A store on a virtual clock, with all that can happen to a caller: calls that fail, changes made by
others at a call or at a time, and cancellation. Calls are written down as they are made.
-/

namespace MachineClaims

namespace Call

/-- The name of a call. -/
def name : Call → String
  | .getGroup .. => "groups.get"
  | .listGroups _ => "groups.list"
  | .updateGroup _ => "groups.update"
  | .getMachine .. => "units.get"
  | .findMachine _ => "units.find"
  | .listMachines _ => "units.list"
  | .updateMachine _ => "units.update"
  | .getClass _ => "claims.get_class"
  | .updateClaim _ => "claims.update"

/-- What a call is about. -/
def subject : Call → String
  | .getGroup space name => objectKey space name
  | .updateGroup group =>
    group.header.key ++ " replicas=" ++ (group.replicas.map (Text.decimal ·)).getD "none"
  | .getMachine space name => objectKey space name
  | .findMachine providerId => providerId
  | .updateMachine machine => machine.header.key
  | .getClass name => name
  | .updateClaim claim => claim.header.name
  | .listGroups _ | .listMachines _ => ""

end Call

namespace Simulation

/-- What happens at a time of the clock. -/
structure Event where
  time : Nat
  mutations : List Mutation
  token : Option String

/-- What happens at one call: the one with this name and number, before it is made. -/
structure Hook where
  call : String
  number : Nat
  mutations : List Mutation
  token : Option String
  /-- How the call fails, if it does. -/
  failure : Option (Store.Fault × String)

/-- A store with a clock and with all that is going to happen. -/
structure World where
  store : Store
  /-- The virtual clock, in milliseconds. -/
  now : Nat
  /-- The time in seconds that programs are told. -/
  clock : Nat
  /-- What is still to happen, in the order of time. -/
  events : List Event
  hooks : List Hook
  /-- How often each call has been made. -/
  counts : NameMap Nat
  /-- The tokens of callers that have cancelled, in the order in which they did. -/
  fired : List String
  /-- The calls that have been made, the last one first. -/
  calls : List String
  /-- Objects that callers hold on to, by a name of their own. -/
  drafts : NameMap Json

namespace World

/-- A world in which nothing has happened yet. -/
def new (clock : Nat) (events : List Event) (hooks : List Hook) : World where
  store := ∅
  now := 0
  clock
  events := events.mergeSort fun a b => a.time ≤ b.time
  hooks
  counts := ∅
  fired := []
  calls := []
  drafts := ∅

/-- Whether the caller with a token, if it has one, has cancelled. -/
def isCancelled (w : World) (token : Option String) : Bool := token.any w.fired.contains

/-- Cancels for the callers with a token. -/
def fire (w : World) : Option String → World
  | none => w
  | some token =>
    if w.fired.contains token then w else { w with fired := w.fired ++ [token] }

/-- The tokens that have been cancelled since an earlier time. -/
def firedSince (w before : World) : List String := w.fired.drop before.fired.length

/-- Lets changes and a cancellation happen. -/
def happen (w : World) (mutations : List Mutation) (token : Option String) : World :=
  { w with store := Mutation.performAll w.store mutations }.fire token

/-- Lets the hooks of a call happen, up to the first one that makes it fail. -/
def meet (w : World) (call : String) (number : Nat) : List Hook → Option Failure × World
  | [] => (none, w)
  | h :: rest =>
    if h.call = call ∧ h.number = number then
      let w := w.happen h.mutations h.token
      match h.failure with
      | some (fault, text) =>
        (some (.store (.other (call ++ " #" ++ Text.decimal number)) (.fault fault text)), w)
      | none => w.meet call number rest
    else w.meet call number rest

/-- Makes a call: writes it down, lets its hooks happen and then performs it, unless one of them
makes it fail. -/
def call (w : World) (c : Call) : Except Failure c.Result × World :=
  let number := (w.counts.get? c.name).getD 0 + 1
  let line := "@" ++ Text.decimal w.now ++ " " ++ c.name ++ " " ++ c.subject
  let w := { w with
    counts := w.counts.insert c.name number
    calls := Text.trimEnd line :: w.calls }
  match w.meet c.name number w.hooks with
  | (some failure, w) => (.error failure, w)
  | (none, w) =>
    let (result, store) := c.perform w.store
    (result, { w with store })

/-- Moves the clock to a time and lets all happen that was to happen until then. -/
def pass (w : World) (time : Nat) : World :=
  let due := w.events.takeWhile (·.time ≤ time)
  let w := { w with now := max w.now time, events := w.events.dropWhile (·.time ≤ time) }
  due.foldl (fun w e => w.happen e.mutations e.token) w

private theorem events_fire (w : World) (token : Option String) :
    (w.fire token).events = w.events := by
  unfold fire
  split
  · rfl
  · split <;> rfl

private theorem events_foldl (due : List Event) (w : World) :
    (due.foldl (fun w e => w.happen e.mutations e.token) w).events = w.events := by
  induction due generalizing w with
  | nil => rfl
  | cons e due ih => rw [List.foldl_cons, ih, happen, events_fire]

theorem events_pass (w : World) (time : Nat) :
    (w.pass time).events = w.events.dropWhile (·.time ≤ time) := events_foldl _ _

/-- Something that was to happen by a time is no longer to happen after it. -/
theorem length_events_pass_lt {w : World} {e : Event} {rest : List Event} {time : Nat}
    (h : w.events = e :: rest) (he : e.time ≤ time) :
    (w.pass time).events.length < w.events.length := by
  rw [events_pass, h, List.dropWhile_cons_of_pos (by simpa using he), List.length_cons]
  exact Nat.lt_succ_of_le (List.IsSuffix.length_le (List.dropWhile_suffix _))

end World
end Simulation
end MachineClaims
