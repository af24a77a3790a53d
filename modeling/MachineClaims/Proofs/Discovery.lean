import MachineClaims.Proofs.Timeline
import MachineClaims.Proofs.Undisturbed
import MachineClaims.Settings
import Mathlib.Algebra.Order.Floor.Semiring
import Mathlib.Data.Rat.Floor

/-!
# When machines are looked for

Waiting for a machine in a world where others change things at any time: each pause ends at one of some
fixed instants (`Poll.instant_succ`), the last of which is the deadline, so that the machines are listed
just then, until there is a machine to take or the caller cancels. What a wait comes to is one of the cases
of `Reservation.Awaited`. The main statement is `discovery_on_schedule`.
-/

namespace MachineClaims

open Simulation

namespace Settings

theorem positive_ok {setting : String} {n seconds : Nat} (h : positive setting n = .ok seconds) :
    0 < seconds := by
  cases n with
  | zero => cases h
  | succ n =>
    obtain rfl := Except.ok.inj h
    exact Nat.succ_pos n

private theorem exists_of_bind_ok {ε α β : Type} {x : Except ε α} {f : α → Except ε β} {b : β}
    (h : (x >>= f) = .ok b) : ∃ a, x = .ok a ∧ f a = .ok b := by
  cases x with
  | error e => cases h
  | ok a => exact ⟨a, rfl, h⟩

/-- Settings in force never ask for checks without a pause. -/
theorem interval_pos {choices : Choices} {settings : Settings}
    (h : ofChoices choices = .ok settings) : 0 < settings.poll.interval := by
  obtain ⟨interval, hinterval, h⟩ := exists_of_bind_ok h
  obtain ⟨timeout, -, h⟩ := exists_of_bind_ok h
  obtain ⟨readiness, -, h⟩ := exists_of_bind_ok h
  obtain rfl := Except.ok.inj h
  exact Nat.mul_pos (positive_ok hinterval) (by decide)

end Settings

/-! ### The instants of the checks -/

namespace Poll

variable {p : Poll}

/-- When a check is made, counted from the start. -/
def instant (p : Poll) (k : Nat) : Nat := min (k * p.interval) p.timeout

/-- The number of the check at which the time is up. -/
def last (p : Poll) : Nat := ⌈(p.timeout / p.interval : ℚ)⌉₊

theorem step_eq (h : 0 < p.interval) : p.step = p.interval := Nat.max_eq_left h

theorem lt_last_iff (h : 0 < p.interval) {k : Nat} : k < p.last ↔ k * p.interval < p.timeout := by
  have hinterval : (0 : ℚ) < p.interval := by exact_mod_cast h
  rw [last, Nat.lt_ceil, lt_div_iff₀ hinterval]
  exact_mod_cast Iff.rfl

@[simp] theorem instant_zero (p : Poll) : p.instant 0 = 0 := by simp [instant]

/-- The time is up at the last check. -/
theorem instant_last (h : 0 < p.interval) : p.instant p.last = p.timeout := by
  have hlast := (lt_last_iff h).not.1 (lt_irrefl p.last)
  exact Nat.min_eq_right (Nat.not_lt.1 hlast)

theorem instant_lt_timeout_iff (h : 0 < p.interval) {k : Nat} :
    p.instant k < p.timeout ↔ k < p.last := by
  rw [lt_last_iff h, instant, min_lt_iff, or_iff_left (lt_irrefl p.timeout)]

/-- A pause that ends after the interval, or when the time is up, ends when the next check is to be
made. -/
theorem instant_succ (h : 0 < p.interval) {k : Nat} (hk : k < p.last) :
    p.instant (k + 1) = p.instant k + min p.step (p.timeout - p.instant k) := by
  have hbefore := (lt_last_iff h).1 hk
  unfold instant
  rw [step_eq h, Nat.succ_mul]
  omega

theorem instant_lt_succ (h : 0 < p.interval) {k : Nat} (hk : k < p.last) :
    p.instant k < p.instant (k + 1) := by
  have hbefore := (instant_lt_timeout_iff h).2 hk
  have hstep := p.step_pos
  rw [instant_succ h hk]
  omega

end Poll

/-! ### Listings in a simulated world -/

/-- What is written down when the machines are listed. -/
def listing (time : Nat) : String := "@" ++ Text.decimal time ++ " units.list"

theorem trimEnd_listing (time : Nat) :
    Text.trimEnd ("@" ++ Text.decimal time ++ " " ++ "units.list" ++ " " ++ "") = listing time := by
  have hblank : Text.isBlank ' ' = true := rfl
  have hletter : Text.isBlank 't' = false := rfl
  apply String.toList_inj.1
  simp [Text.trimEnd, Text.trimRight, listing, hblank, hletter]

namespace Simulation.World

variable {w : World}

/-- Nothing comes between a call and the store if no hook is for it. -/
theorem meet_of_none {call : String} {l : List Hook} (h : ∀ hook ∈ l, hook.call ≠ call)
    (w : World) (number : Nat) : w.meet call number l = (none, w) := by
  induction l with
  | nil => rfl
  | cons hook l ih =>
    have hother : ¬ (hook.call = call ∧ hook.number = number) := fun heq =>
      h hook List.mem_cons_self heq.1
    rw [meet, if_neg hother, ih fun hook hmem => h hook (List.mem_cons_of_mem _ hmem)]

/-- A listing changes nothing but what is written down. -/
theorem call_listMachines (h : ∀ hook ∈ w.hooks, hook.call ≠ "units.list") (r : Reservation) :
    ∃ counts, w.call (.listMachines (some r.candidates)) =
      (.ok (w.store.machines.values.filter fun m => r.candidates.accepts m.header.labels),
        { w with counts := counts, calls := listing w.now :: w.calls }) := by
  refine ⟨w.counts.insert "units.list" ((w.counts.get? "units.list").getD 0 + 1), ?_⟩
  simp only [call, Call.name, Call.subject, trimEnd_listing, meet_of_none h, Call.perform,
    r.list_candidates, Call.during]

end Simulation.World

namespace Simulation

namespace Mutation

variable {s : Store}

theorem keyed_overwrite (hs : s.Keyed) (k : Kind) (o : k.Object) : (overwrite s k o).2.Keyed := by
  unfold overwrite
  split
  · rename_i stored _
    cases hwritten : s.update k (k.withVersion o (k.header stored).version) with
    | error e => exact hs
    | ok written => exact hs.update hwritten
  · cases hwritten : s.create k o with
    | error e => exact hs
    | ok written => exact hs.create hwritten
  · exact hs

theorem keyed_perform (hs : s.Keyed) (m : Mutation) : (m.perform s).2.Keyed := by
  cases m with
  | put k o => exact keyed_overwrite hs k o
  | delete k space name => exact hs.delete k space name
  | edit k space name patch =>
    simp only [perform]
    split
    · exact hs
    · split
      · exact keyed_overwrite hs k _
      · exact hs

theorem keyed_performAll (hs : s.Keyed) (l : List Mutation) : (performAll s l).Keyed := by
  unfold performAll
  induction l generalizing s with
  | nil => exact hs
  | cons m l ih => exact ih (keyed_perform hs m)

end Mutation

theorem World.keyed_pass {w : World} (hs : w.store.Keyed) (time : Nat) :
    (w.pass time).store.Keyed := by
  rw [pass_eq]
  generalize w.events.takeWhile (·.time ≤ time) = due
  generalize w.store = s at hs
  induction due generalizing s with
  | nil => exact hs
  | cons e due ih => exact ih _ (Mutation.keyed_performAll hs e.mutations)

end Simulation

namespace Reservation

/-- The first machine in the order of keys that may be taken. -/
def Finds (r : Reservation) (s : Store) (m : Machine) : Prop :=
  ∃ key, s.machines.get? key = some m ∧ r.Free m ∧
    ∀ key' m', s.machines.get? key' = some m' → r.Free m' → key' = key ∨ key < key'

/-- There is no machine that may be taken. -/
def Vacant (r : Reservation) (s : Store) : Prop :=
  ∀ key m, s.machines.get? key = some m → ¬ r.Free m

variable {r : Reservation} {s : Store} {poll : Poll} {w : World} {token : Option String}

theorem first?_eq_some_iff_finds {m : Machine} : r.first? s = some m ↔ r.Finds s m := by
  unfold first? Finds
  rw [List.find?_filter, NameMap.find?_values_eq_some_iff]
  simp only [decide_eq_true_eq, ← free_iff]

theorem first?_eq_none_iff_vacant : r.first? s = none ↔ r.Vacant s := by
  unfold first? Vacant
  rw [List.find?_filter, List.find?_eq_none]
  simp only [decide_eq_true_eq, ← free_iff, NameMap.mem_values_iff, forall_exists_index]
  exact forall_comm

/-- The world at a time, after so many listings at their instants: but for what is written down, all
is as if nobody waited. -/
structure Watched (poll : Poll) (w : World) (listings time : Nat) (v : World) : Prop where
  now : v.now = time
  passed : ∃ counts calls, v = { w.pass time with counts := counts, calls := calls }
  log : v.calls =
    ((List.range listings).map fun k => listing (w.now + poll.instant k)).reverse ++ w.calls

/-- What waiting comes to, and the world then. -/
inductive Awaited (r : Reservation) (poll : Poll) (w : World) (token : Option String) :
    World → Except Failure Machine → Prop where
  /-- The caller has cancelled before. -/
  | refused (cancelled : w.isCancelled token = true) : Awaited r poll w token w (.error r.interrupted)
  /-- A check finds a machine, and none did before. -/
  | found {n : Nat} {v : World} {m : Machine} (le : n ≤ poll.last)
    (watched : Watched poll w (n + 1) (w.now + poll.instant n) v)
    (heeded : v.isCancelled token = false)
    (vacant : ∀ k < n, r.Vacant (w.pass (w.now + poll.instant k)).store)
    (finds : r.Finds v.store m) : Awaited r poll w token v (.ok m)
  /-- The caller cancels after a check that was not the last. -/
  | cancelled {n time : Nat} {v : World} (lt : n < poll.last)
    (after : w.now + poll.instant n < time) (before : time ≤ w.now + poll.instant (n + 1))
    (watched : Watched poll w (n + 1) time v) (cancels : w.CancelsAt token time)
    (vacant : ∀ k ≤ n, r.Vacant (w.pass (w.now + poll.instant k)).store) :
    Awaited r poll w token v (.error r.interrupted)
  /-- The time is up, and the last check finds nothing either. -/
  | late {v : World} (watched : Watched poll w (poll.last + 1) (w.now + poll.timeout) v)
    (heeded : v.isCancelled token = false)
    (vacant : ∀ k ≤ poll.last, r.Vacant (w.pass (w.now + poll.instant k)).store) :
    Awaited r poll w token v (.error (.notDiscovered r.key poll.timeout))

namespace Watched

variable {listings time : Nat} {v : World}

theorem start (h : ∀ e ∈ w.events, w.now < e.time) : Watched poll w 0 (w.now + poll.instant 0) w := by
  have hpass : w.pass w.now = w := by
    rw [World.pass_of_none_due fun e he => h e (List.mem_of_mem_head? he), Nat.max_self]
  refine ⟨by simp, ⟨w.counts, w.calls, ?_⟩, rfl⟩
  rw [Poll.instant_zero, Nat.add_zero, hpass]

theorem store_eq (h : Watched poll w listings time v) : v.store = (w.pass time).store := by
  obtain ⟨counts, calls, rfl⟩ := h.passed
  rfl

theorem hooks_eq (h : Watched poll w listings time v) : v.hooks = w.hooks := by
  obtain ⟨counts, calls, rfl⟩ := h.passed
  exact w.hooks_pass time

theorem isCancelled_eq (h : Watched poll w listings time v) :
    v.isCancelled token = (w.pass time).isCancelled token := by
  obtain ⟨counts, calls, rfl⟩ := h.passed
  rfl

theorem pass (h : Watched poll w listings time v) {t : Nat} (ht : time ≤ t) :
    Watched poll w listings t (v.pass t) := by
  refine ⟨?_, ?_, ?_⟩
  · rw [World.now_pass, h.now, Nat.max_eq_right ht]
  · obtain ⟨counts, calls, hv⟩ := h.passed
    exact ⟨counts, calls, by rw [hv, World.pass_logged, w.pass_pass ht]⟩
  · rw [World.pass_eq]
    exact h.log

theorem listed (h : Watched poll w listings (w.now + poll.instant listings) v) (counts : NameMap Nat) :
    Watched poll w (listings + 1) (w.now + poll.instant listings)
      { v with counts := counts, calls := listing v.now :: v.calls } := by
  refine ⟨h.now, ?_, ?_⟩
  · obtain ⟨counts', calls', hv⟩ := h.passed
    exact ⟨counts, listing v.now :: v.calls, by rw [hv]⟩
  · rw [List.range_succ, List.map_append, List.reverse_append, List.append_assoc, ← h.log, h.now]
    rfl

/-- A caller that cancels while time passes does so for those who watch, too. -/
theorem cancelsAt (h : Watched poll w listings time v) {t : Nat} (ht : time < t)
    (hcancels : w.CancelsAt token t) : v.CancelsAt token t := by
  obtain ⟨hafter, hbefore⟩ := hcancels
  refine ⟨?_, fun t' ht' => ?_⟩
  · rw [(h.pass ht.le).isCancelled_eq, hafter]
  · have hlatest : (v.pass (max time t')).isCancelled token = false := by
      rw [(h.pass (le_max_left time t')).isCancelled_eq, hbefore _ (max_lt ht ht')]
    exact World.not_isCancelled_mono (le_max_right time t') hlatest

end Watched

/-! ### One check -/

variable {α : Type}

/-- A check, and what follows it: something with what it found or why it failed, or something else if
it found nothing. -/
private def attempt (r : Reservation) (taken : Except Failure Machine → Program α)
    (otherwise : Program α) : Program α :=
  .ask .cancelled fun cancelled =>
    if cancelled then taken (.error r.interrupted)
    else .ask (.call (.listMachines (some r.candidates))) fun listed =>
      match listed with
      | .error e => taken (.error e)
      | .ok machines =>
        match machines.find? r.eligible with
        | some m => taken (.ok m)
        | none => otherwise

/-- What follows a check depends on what it found. -/
private theorem check_bind (r : Reservation) (g : Option Machine → Action Machine)
    (f : Except Failure Machine → Program α) (found : ∀ m, g (some m) = pure m) :
    Program.bind (ExceptT.bind r.check g).run f = r.attempt f (Program.bind (g none).run f) := by
  refine congrArg (Program.ask .cancelled) (funext fun cancelled => ?_)
  cases cancelled with
  | true => rfl
  | false =>
    refine congrArg (Program.ask _) (funext fun listed => ?_)
    cases listed with
    | error e => rfl
    | ok machines =>
      show Program.bind (g (machines.find? r.eligible)).run f = _
      dsimp only
      cases machines.find? r.eligible with
      | none => rfl
      | some m => rw [found]; rfl

/-- What follows a pause: the caller may have cancelled, or more checks are made. -/
private def proceed (r : Reservation) (poll : Poll) (deadline past : Nat)
    (f : Except Failure Machine → Program α) (cancelled : Bool) : Program α :=
  if cancelled then f (.error r.interrupted)
  else Program.bind (r.awaitUntil poll deadline past).run f

/-- What follows a check that finds nothing: the deadline may have come, or there is a pause. -/
private def resume (r : Reservation) (poll : Poll) (deadline : Nat)
    (f : Except Failure Machine → Program α) (now : Nat) : Program α :=
  if deadline ≤ now then f (.error (.notDiscovered r.key poll.timeout))
  else .ask (.pause (min poll.step (deadline - now)))
    (r.proceed poll deadline (now + min poll.step (deadline - now)) f)

private theorem awaitUntil_bind (r : Reservation) (poll : Poll) (deadline past : Nat)
    (f : Except Failure Machine → Program α) :
    Program.bind (r.awaitUntil poll deadline past).run f =
      r.attempt f (.ask (.instant past) fun now => r.resume poll deadline f now) := by
  unfold awaitUntil
  refine (r.check_bind _ f fun _ => rfl).trans (congrArg (r.attempt f) ?_)
  refine congrArg (Program.ask _) (funext fun now => ?_)
  show Program.bind (ExceptT.run (if deadline ≤ now.1 then _ else _)) f = r.resume poll deadline f now.1
  unfold resume
  by_cases hlate : deadline ≤ now.1
  · rw [if_pos hlate, if_pos hlate]
    rfl
  · rw [if_neg hlate, if_neg hlate]
    refine congrArg (Program.ask _) (funext fun cancelled => ?_)
    cases cancelled <;> rfl

/-- What a check comes to in a world where listings are let be. -/
private theorem run_attempt (hheeded : w.isCancelled token = false)
    (hhooks : ∀ hook ∈ w.hooks, hook.call ≠ "units.list") (taken : Except Failure Machine → Program α)
    (otherwise : Program α) : ∃ counts, ∀ v,
      v = { w with counts := counts, calls := listing w.now :: w.calls } →
      (Pool.running w token (Job.ofProgram (r.attempt taken otherwise))).run w =
        (Pool.running v token (Job.ofProgram
          (match r.first? w.store with
          | some m => taken (.ok m)
          | none => otherwise))).run v := by
  obtain ⟨counts, hcall⟩ := World.call_listMachines hhooks r
  refine ⟨counts, ?_⟩
  rintro v rfl
  have hfirst : (w.store.machines.values.filter fun m => r.candidates.accepts m.header.labels).find?
      r.eligible = r.first? w.store := rfl
  unfold attempt
  simp only [Job.ofProgram, Pool.run_cancelled, hheeded, Bool.false_eq_true, if_false]
  rw [Pool.run_call, hcall]
  dsimp only
  rw [hfirst]

/-! ### All checks -/

private theorem exists_cancelsAt {time : Nat} (h : (w.pass time).isCancelled token = true) :
    ∃ t ≤ time, w.CancelsAt token t := by
  have hexists : ∃ t, (w.pass t).isCancelled token = true := ⟨time, h⟩
  exact ⟨Nat.find hexists, Nat.find_min' hexists h, Nat.find_spec hexists, fun t ht =>
    Bool.eq_false_iff.2 (Nat.find_min hexists ht)⟩

/-- A pause of one who watches is over when its time has come, or ends when the caller cancels. -/
private theorem run_pause_watched {n time ms : Nat} {v : World} (hwatched : Watched poll w n time v)
    (hheeded : v.isCancelled token = false) (hms : 0 < ms) (next : Bool → Program α) :
    ((v.pass (time + ms)).isCancelled token = false ∧
      (Pool.running v token (Job.ofProgram (.ask (.pause ms) next))).run v =
        (Pool.running (v.pass (time + ms)) token (Job.ofProgram (next false))).run
          (v.pass (time + ms))) ∨
    ∃ t, time < t ∧ t ≤ time + ms ∧ w.CancelsAt token t ∧
      (Pool.running v token (Job.ofProgram (.ask (.pause ms) next))).run v =
        (Pool.running (v.pass t) token (Job.ofProgram (next true))).run (v.pass t) := by
  have hle : time ≤ time + ms := Nat.le_add_right ..
  rw [Job.ofProgram, Pool.run_pause hheeded hms, hwatched.now]
  cases hlater : (v.pass (time + ms)).isCancelled token with
  | false => exact .inl ⟨rfl, Pool.run_waiting (hwatched.now.le.trans hle) hlater⟩
  | true =>
    rw [(hwatched.pass hle).isCancelled_eq] at hlater
    obtain ⟨t, ht, hcancels⟩ := exists_cancelsAt hlater
    have hafter : time < t := by
      by_contra hnot
      rw [hwatched.isCancelled_eq] at hheeded
      have hearly := World.not_isCancelled_mono (Nat.not_lt.1 hnot) hheeded
      exact Bool.false_ne_true (hearly.symm.trans hcancels.1)
    exact .inr ⟨t, hafter, ht, hcancels, Pool.run_waiting_cancelled
      (hwatched.cancelsAt hafter hcancels) (hwatched.now.trans_lt hafter) ht⟩

/-- A check that finds nothing is one more. -/
private theorem vacant_of_first? {n : Nat} {v : World}
    (hwatched : Watched poll w n (w.now + poll.instant n) v) (hfirst : r.first? v.store = none)
    (hvacant : ∀ k < n, r.Vacant (w.pass (w.now + poll.instant k)).store) :
    ∀ k ≤ n, r.Vacant (w.pass (w.now + poll.instant k)).store := by
  intro k hk
  obtain hlt | rfl := hk.lt_or_eq
  · exact hvacant k hlt
  · rw [← hwatched.store_eq]
    exact first?_eq_none_iff_vacant.1 hfirst

/-- After a check that finds nothing and is not the last one there is a pause until the next one, unless
the caller cancels before. -/
private theorem run_resume (hinterval : 0 < poll.interval) (f : Except Failure Machine → Program α)
    {n : Nat} {v : World} (hlt : n < poll.last)
    (hwatched : Watched poll w (n + 1) (w.now + poll.instant n) v)
    (hheeded : v.isCancelled token = false) :
    ((v.pass (w.now + poll.instant (n + 1))).isCancelled token = false ∧
      (Pool.running v token (Job.ofProgram
        (r.resume poll (w.now + poll.timeout) f (w.now + poll.instant n)))).run v =
        (Pool.running (v.pass (w.now + poll.instant (n + 1))) token (Job.ofProgram (Program.bind
          (r.awaitUntil poll (w.now + poll.timeout) (w.now + poll.instant (n + 1))).run f))).run
          (v.pass (w.now + poll.instant (n + 1)))) ∨
    ∃ t, w.now + poll.instant n < t ∧ t ≤ w.now + poll.instant (n + 1) ∧ w.CancelsAt token t ∧
      (Pool.running v token (Job.ofProgram
        (r.resume poll (w.now + poll.timeout) f (w.now + poll.instant n)))).run v =
        (Pool.running (v.pass t) token (Job.ofProgram (f (.error r.interrupted)))).run (v.pass t) := by
  have hbefore : poll.instant n < poll.timeout := (Poll.instant_lt_timeout_iff hinterval).2 hlt
  have hearly : ¬ w.now + poll.timeout ≤ w.now + poll.instant n := by omega
  have hwait : 0 < min poll.step (poll.timeout - poll.instant n) := by
    have := poll.step_pos
    omega
  unfold resume
  rw [if_neg hearly, Nat.add_sub_add_left, Poll.instant_succ hinterval hlt, ← Nat.add_assoc]
  exact run_pause_watched hwatched hheeded hwait (r.proceed poll (w.now + poll.timeout)
    (w.now + poll.instant n + min poll.step (poll.timeout - poll.instant n)) f)

/-- Waiting comes to one of its ends, and then what follows it goes on. -/
private theorem run_awaitUntil (hinterval : 0 < poll.interval)
    (hhooks : ∀ hook ∈ w.hooks, hook.call ≠ "units.list") (f : Except Failure Machine → Program α)
    {n : Nat} {v : World} (hn : n ≤ poll.last)
    (hwatched : Watched poll w n (w.now + poll.instant n) v) (hheeded : v.isCancelled token = false)
    (hvacant : ∀ k < n, r.Vacant (w.pass (w.now + poll.instant k)).store) :
    ∃ v' outcome, Awaited r poll w token v' outcome ∧
      (Pool.running v token (Job.ofProgram (Program.bind
        (r.awaitUntil poll (w.now + poll.timeout) (w.now + poll.instant n)).run f))).run v =
        (Pool.running v' token (Job.ofProgram (f outcome))).run v' := by
  -- By induction on the time that is left. What has been seen so far is `hwatched` and `hvacant`; each
  -- check that finds nothing adds one listing to the one and one instant to the other.
  induction hleft : poll.timeout - poll.instant n using Nat.strongRecOn generalizing n v with
  | ind left ih =>
    rw [awaitUntil_bind]
    obtain ⟨counts, hrun⟩ := run_attempt (r := r) hheeded (hwatched.hooks_eq ▸ hhooks) f
      (.ask (.instant (w.now + poll.instant n)) fun now => r.resume poll (w.now + poll.timeout) f now)
    have hwatched' := hwatched.listed counts
    rw [hrun _ rfl]
    cases hfirst : r.first? v.store with
    | some m =>
      exact ⟨_, _, .found hn hwatched' hheeded hvacant (first?_eq_some_iff_finds.1 hfirst), rfl⟩
    | none =>
      have hall := vacant_of_first? hwatched hfirst hvacant
      have hnow : max (w.now + poll.instant n) v.now = w.now + poll.instant n := by
        rw [hwatched.now, Nat.max_self]
      dsimp only
      rw [Job.ofProgram, Pool.run_instant]
      dsimp only
      rw [hnow]
      obtain rfl | hlt := hn.eq_or_lt
      · rw [Poll.instant_last hinterval] at hwatched' ⊢
        unfold resume
        rw [if_pos (Nat.le_refl _)]
        exact ⟨_, _, .late hwatched' hheeded hall, rfl⟩
      · obtain ⟨hheeded', hnext⟩ | ⟨t, hafter, hle, hcancels, hnext⟩ :=
          run_resume hinterval f hlt hwatched' hheeded
        · have hlater := Poll.instant_lt_succ hinterval hlt
          have hless : poll.timeout - poll.instant (n + 1) < left := by
            have := (Poll.instant_lt_timeout_iff hinterval).2 hlt
            omega
          have hpassed := hwatched'.pass (Nat.add_le_add_left hlater.le w.now)
          obtain ⟨v', outcome, hawaited, hrest⟩ := ih _ hless hlt hpassed hheeded'
            (fun k hk => hall k (Nat.le_of_lt_succ hk)) rfl
          exact ⟨v', outcome, hawaited, hnext.trans hrest⟩
        · exact ⟨_, _, .cancelled hlt hafter hle (hwatched'.pass hafter.le) hcancels hall, hnext⟩

/-! ### Waiting and labelling -/

/-- What is reported once a found machine has been labelled, or could not be. -/
def labelling (r : Reservation) (m : Machine) :
    Except Failure Machine → Reservation × Except Failure Machine
  | .error e => ({ r with machine := some m.joined }, .error e)
  | .ok labelled => ({ r with machine := some labelled, discovered := true }, .ok labelled)

/-- What follows waiting: a machine that was found is labelled. -/
def concluded (r : Reservation) (v : World) :
    Except Failure Machine → World × Reservation × Except Failure Machine
  | .error e => (v, r, .error e)
  | .ok m =>
    let (answer, v') := v.call (.updateMachine m.joined)
    (v', r.labelling m answer)

/-- The program of labelling what was found. -/
private def conclude (r : Reservation) :
    Except Failure Machine → Program (Reservation × Except Failure Machine)
  | .error e => .done (r, .error e)
  | .ok m => .ask (.call (.updateMachine m.joined)) fun answer => .done (r.labelling m answer)

private theorem discover_eq (r : Reservation) (poll : Poll) :
    r.discover poll = Program.bind (r.awaitMachine poll).run r.conclude := by
  refine congrArg (Program.bind _) (funext fun outcome => ?_)
  cases outcome with
  | error e => rfl
  | ok m =>
    refine congrArg (Program.ask _) (funext fun answer => ?_)
    cases answer <;> rfl

private theorem run_conclude (v : World) (outcome : Except Failure Machine) :
    (Pool.running v token (Job.ofProgram (r.conclude outcome))).run v =
      (Pool.running (r.concluded v outcome).1 token (.done (r.concluded v outcome).2)).run
        (r.concluded v outcome).1 := by
  cases outcome with
  | error e => rfl
  | ok m => exact Pool.run_call v token _

/-- Waiting starts with the time and the deadline. -/
private theorem awaitMachine_bind (r : Reservation) (poll : Poll) (f : Except Failure Machine → Program α) :
    Program.bind (r.awaitMachine poll).run f = .ask (.instant 0) fun started =>
      .ask (.deadline (started.1 + poll.timeout)) fun _ =>
        Program.bind (r.awaitUntil poll (started.1 + poll.timeout) started.1).run f := rfl

private theorem run_started (r : Reservation) (poll : Poll) (w : World) (token : Option String)
    (f : Except Failure Machine → Program α) :
    (Pool.running w token (Job.ofProgram (Program.bind (r.awaitMachine poll).run f))).run w =
      (Pool.running w token (Job.ofProgram (.ask (.deadline (w.now + poll.timeout)) fun _ =>
        Program.bind (r.awaitUntil poll (w.now + poll.timeout) w.now).run f))).run w := by
  rw [awaitMachine_bind, Job.ofProgram, Pool.run_instant]
  dsimp only
  rw [Nat.zero_max]

/-- A caller that has cancelled before is answered at once. -/
private theorem run_refused (hcancelled : w.isCancelled token = true)
    (f : Except Failure Machine → Program α) (deadline past : Nat) :
    (Pool.running w token
        (Job.ofProgram (Program.bind (r.awaitUntil poll deadline past).run f))).run w =
      (Pool.running w token (Job.ofProgram (f (.error r.interrupted)))).run w := by
  rw [awaitUntil_bind]
  unfold attempt
  simp only [Job.ofProgram, Pool.run_cancelled, hcancelled, if_true]

/-- Waiting for a time that has an end comes to one of its ends, and then what follows it goes on. -/
private theorem run_awaitMachine (hinterval : 0 < poll.interval) (hevents : ∀ e ∈ w.events, w.now < e.time)
    (hhooks : ∀ hook ∈ w.hooks, hook.call ≠ "units.list")
    (hend : w.now + poll.timeout ≤ Request.lastInstant) (token : Option String)
    (f : Except Failure Machine → Program α) :
    ∃ v outcome, Awaited r poll w token v outcome ∧
      (Pool.running w token (Job.ofProgram (Program.bind (r.awaitMachine poll).run f))).run w =
        (Pool.running v token (Job.ofProgram (f outcome))).run v := by
  rw [run_started, Job.ofProgram, Pool.run_deadline w token hend]
  cases hcancelled : w.isCancelled token with
  | true => exact ⟨w, _, .refused hcancelled, run_refused hcancelled f _ _⟩
  | false =>
    have hrun := run_awaitUntil (r := r) hinterval hhooks f (Nat.zero_le poll.last) (.start hevents)
      hcancelled nofun
    rwa [Poll.instant_zero, Nat.add_zero] at hrun

/-- Nobody waits for a deadline that no instant can hold: the caller is lost. -/
theorem runOne_discover_lost (r : Reservation) (token : Option String)
    (lost : Request.lastInstant < w.now + poll.timeout) :
    Pool.runOne w token (Job.ofProgram (r.discover poll)) = (w, none) := by
  have hrun := r.run_started poll w token r.conclude
  rw [← discover_eq] at hrun
  exact Pool.runOne_of_lost lost hrun

/-- A machine that was found can be labelled if nothing comes between. -/
theorem call_updateMachine_of_finds {v : World} {m : Machine} (keyed : v.store.Keyed)
    (finds : r.Finds v.store m) (hhooks : ∀ hook ∈ v.hooks, hook.call ≠ "units.update") :
    (v.call (.updateMachine m.joined)).1 = .ok (Kind.machine.bump m.joined) ∧
      (v.call (.updateMachine m.joined)).2.now = v.now ∧
      (v.call (.updateMachine m.joined)).2.store =
        v.store.put .machine (Kind.machine.bump m.joined) := by
  obtain ⟨key, hget, -, -⟩ := finds
  obtain rfl : m.header.key = key := keyed .machine key m hget
  have current : v.store.Current .machine m.joined := ⟨m, hget, rfl⟩
  simp [World.call, Call.name, World.meet_of_none hhooks, Call.perform,
    Store.update_of_accepts (current.accepts fun _ => rfl), Call.written]

end Reservation

/-- Waiting for a machine of a group, with an interval that is not zero and where listings are let be:
if there is an instant at which the time is up, the machines are listed at the multiples of the interval
until then, and then once more; the first machine that may be taken at the earliest check that finds one
is labelled; a caller that cancels before is answered at once; and otherwise the wait fails when the time
is up. (What is due at the instant of a check happens before it.) If there is no such instant, the caller
is lost before the first check. -/
theorem discovery_on_schedule (r : Reservation) {poll : Poll} {w : World} (token : Option String)
    (interval : 0 < poll.interval) (later : ∀ e ∈ w.events, w.now < e.time)
    (listed : ∀ hook ∈ w.hooks, hook.call ≠ "units.list") :
    (∀ choices settings, Settings.ofChoices choices = .ok settings → 0 < settings.poll.interval) ∧
    (w.now + poll.timeout ≤ Request.lastInstant →
      ∃ v outcome, r.Awaited poll w token v outcome ∧
        Pool.runOne w token (Job.ofProgram (r.discover poll)) =
          ((r.concluded v outcome).1, some (r.concluded v outcome).2) ∧
        ∀ m, outcome = .ok m → w.store.Keyed → (∀ hook ∈ w.hooks, hook.call ≠ "units.update") →
          (r.concluded v outcome).2 = (r.taking m, .ok (Kind.machine.bump m.joined)) ∧
          (r.concluded v outcome).1.now = v.now ∧
          (r.concluded v outcome).1.store = v.store.put .machine (Kind.machine.bump m.joined)) ∧
    (Request.lastInstant < w.now + poll.timeout →
      Pool.runOne w token (Job.ofProgram (r.discover poll)) = (w, none)) := by
  refine ⟨fun choices settings => Settings.interval_pos, fun hend => ?_, r.runOne_discover_lost token⟩
  obtain ⟨v, outcome, hawaited, hrun⟩ :=
    Reservation.run_awaitMachine (r := r) interval later listed hend token r.conclude
  rw [← r.discover_eq] at hrun
  refine ⟨v, outcome, hawaited, Pool.runOne_of_run (hrun.trans (Reservation.run_conclude v outcome)), ?_⟩
  rintro m rfl keyed hupdates
  cases hawaited with
  | found _ hwatched _ _ hfinds =>
    have hkeyed : v.store.Keyed := hwatched.store_eq ▸ World.keyed_pass keyed _
    obtain ⟨hlabel, hstore⟩ :=
      Reservation.call_updateMachine_of_finds hkeyed hfinds (hwatched.hooks_eq ▸ hupdates)
    refine ⟨?_, hstore⟩
    show r.labelling m (v.call (.updateMachine m.joined)).1 = _
    rw [hlabel]
    rfl

/-- A machine that comes to be between two checks is found at the later one. -/
theorem discovery_on_schedule_between :
    ∃ v, Pool.runOne ⟨∅, 0, 0, [⟨3, [.put .machine (Machine.new "capi" "u-1" "md-1")], none⟩], [], ∅, [],
        [], ∅⟩ none (Job.ofProgram ((Reservation.fresh "capi" "md-1" 0).discover ⟨2, 5⟩)) =
      (v, some ((Reservation.fresh "capi" "md-1" 0).taking
        (Kind.machine.withVersion (Machine.new "capi" "u-1" "md-1") 1),
          .ok (Kind.machine.withVersion (Machine.new "capi" "u-1" "md-1").joined 2))) ∧
      v.now = 4 := by
  generalize hw : (⟨∅, 0, 0, [⟨3, [.put .machine (Machine.new "capi" "u-1" "md-1")], none⟩], [], ∅, [],
    [], ∅⟩ : World) = w
  generalize hr : Reservation.fresh "capi" "md-1" 0 = r
  have hevents : ∀ e ∈ w.events, w.now < e.time := by subst hw; decide
  have hlast : (⟨2, 5⟩ : Poll).last = 3 := by
    have htwo : 2 < (⟨2, 5⟩ : Poll).last := (Poll.lt_last_iff (by decide)).2 (by decide)
    have hthree : ¬ 3 < (⟨2, 5⟩ : Poll).last := (Poll.lt_last_iff (by decide)).not.2 (by decide)
    omega
  have hnothing : ∀ t ≤ 2, r.first? (w.pass t).store = none := by subst hw hr; decide
  have hthere : r.first? (w.pass 4).store =
      some (Kind.machine.withVersion (Machine.new "capi" "u-1" "md-1") 1) := by subst hw hr; decide
  have hnow : w.now = 0 := by subst hw; rfl
  have hend : w.now + (⟨2, 5⟩ : Poll).timeout ≤ Request.lastInstant := by rw [hnow]; decide
  obtain ⟨v, outcome, hawaited, hrun, hlabel⟩ :=
    (discovery_on_schedule r none (by decide) hevents (by subst hw; nofun)).2.1 hend
  have htimes : (⟨2, 5⟩ : Poll).instant 0 = 0 ∧ (⟨2, 5⟩ : Poll).instant 1 = 2 ∧
      (⟨2, 5⟩ : Poll).instant 2 = 4 := ⟨rfl, rfl, rfl⟩
  have hoccupied : ¬ r.Vacant (w.pass (w.now + (⟨2, 5⟩ : Poll).instant 2)).store := by
    rw [hnow, htimes.2.2, Nat.zero_add, ← Reservation.first?_eq_none_iff_vacant, hthere]
    nofun
  cases hawaited with
  | refused h => cases h
  | cancelled _ _ _ _ hcancels => cases hcancels.1
  | late _ _ hall => exact absurd (hall 2 (by rw [hlast]; decide)) hoccupied
  | @found n _ m hle hwatched _ hall hfinds =>
    have hfirst := Reservation.first?_eq_some_iff_finds.2 hfinds
    rw [hwatched.store_eq, hnow, Nat.zero_add] at hfirst
    rw [hlast] at hle
    have hn : n = 2 := by
      have hthree : n ≠ 3 := by
        rintro rfl
        exact hoccupied (hall 2 (by decide))
      have hearly : ¬ n ≤ 1 := by
        intro hle
        have htime : (⟨2, 5⟩ : Poll).instant n ≤ 2 := by
          obtain rfl | rfl : n = 0 ∨ n = 1 := by omega
          · decide
          · decide
        rw [hnothing _ htime] at hfirst
        cases hfirst
      omega
    subst hn
    rw [htimes.2.2, hthere] at hfirst
    obtain rfl := Option.some.inj hfirst
    have hkeyed : w.store.Keyed := by subst hw; exact Store.keyed_empty
    obtain ⟨hresult, hnow', -⟩ := hlabel _ rfl hkeyed (by subst hw; nofun)
    refine ⟨_, by rw [hrun, hresult]; rfl, ?_⟩
    rw [hnow', hwatched.now, hnow]
    rfl

/-- Settings may ask to wait for longer than there is time, and then the wait never fails. -/
theorem discovery_lost_in_endless_wait :
    ∃ settings : Settings,
      Settings.ofChoices { pollTimeout := some (2 ^ 64 - 1) } = .ok settings ∧
        Pool.runOne (.new 0 [] []) none
          (Job.ofProgram ((Reservation.fresh "capi" "md-1" 0).discover settings.poll)) =
          (.new 0 [] [], none) :=
  ⟨_, rfl, Reservation.runOne_discover_lost _ _ (by decide)⟩

end MachineClaims
