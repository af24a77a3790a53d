import MachineClaims.Simulation.Pool

/-!
# The clock of a simulated world, and a job that runs alone in it

What is due by a time happens when the clock passes it (`World.pass_eq`), no matter in how many steps the
clock gets there (`World.pass_pass`). A job that runs alone goes on at once when it makes a call
(`Pool.run_call`), and never again after it has asked for a deadline that no instant can hold
(`Pool.run_lost`). A pause ends when its caller cancels (`Pool.run_waiting_cancelled`), and when it is
over if the caller does not (`Pool.run_waiting`).
-/

namespace MachineClaims.Simulation

namespace World

variable {w : World} {time : Nat} {token : Option String}

/-- The tokens that are cancelled after one more cancellation. -/
def withToken (fired : List String) : Option String → List String
  | none => fired
  | some token => if fired.contains token then fired else fired ++ [token]

theorem happen_eq (w : World) (mutations : List Mutation) (token : Option String) :
    w.happen mutations token =
      { w with store := Mutation.performAll w.store mutations, fired := withToken w.fired token } := by
  cases token with
  | none => rfl
  | some token =>
    simp only [happen, fire, withToken]
    split <;> rfl

private theorem foldl_happen (due : List Event) (w : World) :
    due.foldl (fun w e => w.happen e.mutations e.token) w =
      { w with
        store := due.foldl (fun s e => Mutation.performAll s e.mutations) w.store
        fired := due.foldl (fun fired e => withToken fired e.token) w.fired } := by
  induction due generalizing w with
  | nil => rfl
  | cons e due ih => rw [List.foldl_cons, ih, happen_eq]; rfl

/-- Passing a time changes the clock, the events, the stored objects and the tokens. -/
theorem pass_eq (w : World) (time : Nat) : w.pass time =
    { w with
      now := max w.now time
      events := w.events.dropWhile (·.time ≤ time)
      store := (w.events.takeWhile (·.time ≤ time)).foldl
        (fun s e => Mutation.performAll s e.mutations) w.store
      fired := (w.events.takeWhile (·.time ≤ time)).foldl
        (fun fired e => withToken fired e.token) w.fired } := foldl_happen _ _

@[simp] theorem now_pass (w : World) (time : Nat) : (w.pass time).now = max w.now time := by
  rw [pass_eq]

@[simp] theorem hooks_pass (w : World) (time : Nat) : (w.pass time).hooks = w.hooks := by
  rw [pass_eq]

/-- What is written down has no part in what happens. -/
theorem pass_logged (w : World) (time : Nat) (counts : NameMap Nat) (calls : List String) :
    { w with counts := counts, calls := calls }.pass time =
      { w.pass time with counts := counts, calls := calls } := by
  simp only [pass_eq]

private theorem span_span {t t' : Nat} (h : t ≤ t') (l : List Event) :
    l.takeWhile (·.time ≤ t) ++ (l.dropWhile (·.time ≤ t)).takeWhile (·.time ≤ t') =
        l.takeWhile (·.time ≤ t') ∧
      (l.dropWhile (·.time ≤ t)).dropWhile (·.time ≤ t') = l.dropWhile (·.time ≤ t') := by
  induction l with
  | nil => exact ⟨rfl, rfl⟩
  | cons e l ih =>
    by_cases he : e.time ≤ t
    · have he' : e.time ≤ t' := Nat.le_trans he h
      simpa [he, he'] using ih
    · simp [he]

/-- The clock may stop on its way. -/
theorem pass_pass (w : World) {t t' : Nat} (h : t ≤ t') : (w.pass t).pass t' = w.pass t' := by
  obtain ⟨htake, hdrop⟩ := span_span h w.events
  simp only [pass_eq, hdrop, ← htake, List.foldl_append, Nat.max_assoc, Nat.max_eq_right h]

/-- Nothing happens until something is due. -/
theorem pass_of_none_due (h : ∀ e, w.events.head? = some e → time < e.time) :
    w.pass time = { w with now := max w.now time } := by
  have hnone : w.events.takeWhile (·.time ≤ time) = [] ∧
      w.events.dropWhile (·.time ≤ time) = w.events := by
    cases hevents : w.events with
    | nil => exact ⟨rfl, rfl⟩
    | cons e rest =>
      have hlater := h e (by rw [hevents]; rfl)
      simp [Nat.not_le.2 hlater]
  rw [pass_eq, hnone.1, hnone.2]
  rfl

private theorem exists_fired (l : List Event) (fired : List String) :
    ∃ more, l.foldl (fun fired e => withToken fired e.token) fired = fired ++ more := by
  induction l generalizing fired with
  | nil => exact ⟨[], by simp⟩
  | cons e l ih =>
    obtain ⟨more, hmore⟩ := ih (withToken fired e.token)
    rw [List.foldl_cons, hmore]
    unfold withToken
    split
    · exact ⟨more, rfl⟩
    · split
      · exact ⟨more, rfl⟩
      · exact ⟨_, List.append_assoc ..⟩

/-- A token is cancelled after a time if it was before, or has been since. -/
theorem isCancelled_pass (w : World) (time : Nat) (token : Option String) :
    (w.pass time).isCancelled token =
      (w.isCancelled token || token.any ((w.pass time).firedSince w).contains) := by
  obtain ⟨more, hmore⟩ := exists_fired (w.events.takeWhile (·.time ≤ time)) w.fired
  have hfired : (w.pass time).fired = w.fired ++ more := by rw [pass_eq]; exact hmore
  unfold isCancelled firedSince
  rw [hfired, List.drop_left]
  cases token with
  | none => rfl
  | some token => simp

theorem isCancelled_mono {t t' : Nat} (h : t ≤ t') (hcancelled : (w.pass t).isCancelled token = true) :
    (w.pass t').isCancelled token = true := by
  rw [← w.pass_pass h, isCancelled_pass, hcancelled, Bool.true_or]

theorem isCancelled_pass_eq_false_iff : (w.pass time).isCancelled token = false ↔
    w.isCancelled token = false ∧ token.any ((w.pass time).firedSince w).contains = false := by
  rw [isCancelled_pass, Bool.or_eq_false_iff]

theorem not_isCancelled_mono {t t' : Nat} (h : t ≤ t')
    (hheeded : (w.pass t').isCancelled token = false) : (w.pass t).isCancelled token = false :=
  Bool.eq_false_iff.2 fun hcancelled => Bool.eq_false_iff.1 hheeded (isCancelled_mono h hcancelled)

/-- A caller cancels only through something that happens. -/
theorem exists_due (hheeded : w.isCancelled token = false)
    (hcancelled : (w.pass time).isCancelled token = true) :
    ∃ e rest, w.events = e :: rest ∧ e.time ≤ time := by
  have hnot : ¬ ∀ e, w.events.head? = some e → time < e.time := by
    intro hlater
    rw [pass_of_none_due hlater] at hcancelled
    exact Bool.false_ne_true (hheeded.symm.trans hcancelled)
  obtain ⟨e, hhead, hdue⟩ : ∃ e, w.events.head? = some e ∧ e.time ≤ time := by simpa using hnot
  obtain ⟨rest, hevents⟩ := List.head?_eq_some_iff.1 hhead
  exact ⟨e, rest, hevents, hdue⟩

/-- The caller cancels at a time, and not before. -/
def CancelsAt (w : World) (token : Option String) (time : Nat) : Prop :=
  (w.pass time).isCancelled token = true ∧ ∀ t < time, (w.pass t).isCancelled token = false

end World

namespace Pool

variable {α : Type} {w : World} {token : Option String}

theorem run_of_step {w w' : World} {p p' : Pool α} (h : p.step w = some (w', p')) :
    p.run w = p'.run w' := by
  rw [run]
  split <;> simp_all

theorem run_of_rest {w : World} {p : Pool α} (h : p.step w = none) : p.run w = (w, p) := by
  rw [run]
  split <;> simp_all

/-- The pool of a single job that is to run. -/
def running (w : World) (token : Option String) (t : Job α) : Pool α :=
  ⟨[⟨token, t, wakeOf w t⟩], [0], [], none⟩

/-- The pool of a single job that waits, in line again or not. -/
def waitingAlone (token : Option String) (t : Job α) (wake : Nat) (called : Bool) : Pool α :=
  ⟨[⟨token, t, wake⟩], if called then [0] else [], [0], none⟩

/-- Nobody gets in line where nobody waits. -/
private theorem callTokens_of_none_waiting {p : Pool α} (h : p.waiting = []) (tokens : List String) :
    p.callTokens tokens = p := by
  have hcall : ∀ test, p.call (p.waitingFor test) = p := by
    intro test
    obtain ⟨members, ready, waiting, holder⟩ := p
    obtain rfl : waiting = [] := h
    simp [call, waitingFor]
  induction tokens with
  | nil => rfl
  | cons token tokens ih =>
    unfold callTokens at ih ⊢
    rw [List.foldl_cons, hcall, ih]

/-- A job that waits gets in line when its token is cancelled. -/
private theorem callTokens_waitingAlone (token : Option String) (t : Job α) (wake : Nat) (called : Bool)
    (tokens : List String) : (waitingAlone token t wake called).callTokens tokens =
      waitingAlone token t wake (called || token.any tokens.contains) := by
  induction tokens generalizing called with
  | nil => cases token <;> simp [callTokens]
  | cons fired tokens ih =>
    have hcall : (waitingAlone token t wake called).call
        ((waitingAlone token t wake called).waitingFor fun m => m.token = some fired) =
          waitingAlone token t wake (called || token == some fired) := by
      by_cases htoken : token = some fired
      · cases called <;> simp [call, waitingFor, waitingAlone, htoken]
      · cases called <;> simp [call, waitingFor, waitingAlone, htoken]
    show ((waitingAlone token t wake called).call _).callTokens tokens = _
    rw [hcall, ih]
    cases token with
    | none => simp
    | some token => simp [Bool.or_assoc, Bool.beq_eq_decide_eq]

/-- A move of a job that is alone, if it is not about the lock. -/
private theorem resume_alone {t t' : Job α} {w w' : World} {wake : Nat} {waiting : List Nat}
    {answer : Bool} (child : Job.Child t' t) (hmove : t.move w token answer = some (w', ⟨t', child⟩))
    (hsettle : settle ⟨[⟨token, t, wake⟩], [0], waiting, none⟩ 0 answer t =
      ⟨[⟨token, t, wake⟩], [0], [], none⟩) :
    resume w ⟨[⟨token, t, wake⟩], [0], waiting, none⟩ 0 answer = some (w', running w' token t') := by
  have hmember : (⟨[⟨token, t, wake⟩], [0], waiting, none⟩ : Pool α).members[0]? =
      some ⟨token, t, wake⟩ := rfl
  simp only [resume, hmember, hmove, hsettle]
  rw [callTokens_of_none_waiting rfl]
  rfl

/-! ### What comes of a request -/

theorem run_done (w : World) (token : Option String) (a : α) :
    (running w token (.done a)).run w = (w, ⟨[⟨token, .done a, w.now⟩], [], [], none⟩) := by
  have hleave : (running w token (.done a)).step w =
      some (w, ⟨[⟨token, .done a, w.now⟩], [], [], none⟩) := rfl
  rw [run_of_step hleave, run_of_rest rfl]

theorem run_cancelled (w : World) (token : Option String) (next : Bool → Job α) :
    (running w token (.ask .cancelled next)).run w =
      (running w token (next (w.isCancelled token))).run w := by
  have hstep : (running w token (.ask .cancelled next)).step w =
      (running w token (.ask .cancelled next)).resume w 0 true := rfl
  have hmove : (Job.ask .cancelled next).move w token true =
      some (w, ⟨next (w.isCancelled token), .ask .cancelled next _⟩) := rfl
  exact run_of_step (hstep.trans (resume_alone _ hmove rfl))

/-- A clock that has got to a time says what time it is. -/
theorem run_instant (w : World) (token : Option String) {past : Nat}
    (next : { now : Nat // past ≤ now } → Job α) :
    (running w token (.ask (.instant past) next)).run w =
      (running w token (next ⟨max past w.now, Nat.le_max_left ..⟩)).run w := by
  have hstep : (running w token (.ask (.instant past) next)).step w =
      (running w token (.ask (.instant past) next)).resume w 0 true := rfl
  have hmove : (Job.ask (.instant past) next).move w token true =
      some (w, ⟨next ⟨max past w.now, Nat.le_max_left ..⟩, .ask (.instant past) next _⟩) := rfl
  exact run_of_step (hstep.trans (resume_alone _ hmove rfl))

theorem run_deadline (w : World) (token : Option String) {time : Nat}
    (h : time ≤ Request.lastInstant) (next : Unit → Job α) :
    (running w token (.ask (.deadline time) next)).run w = (running w token (next ())).run w := by
  have hstep : (running w token (.ask (.deadline time) next)).step w =
      (running w token (.ask (.deadline time) next)).resume w 0 true := rfl
  have hmove : (Job.ask (.deadline time) next).move w token true =
      some (w, ⟨next (), .ask (.deadline time) next ()⟩) := if_pos h
  exact run_of_step (hstep.trans (resume_alone _ hmove rfl))

/-- A job is lost with a deadline that no instant can hold. -/
theorem run_lost (w : World) (token : Option String) {time : Nat}
    (h : Request.lastInstant < time) (next : Unit → Job α) :
    (running w token (.ask (.deadline time) next)).run w =
      (w, running w token (.ask (.deadline time) next)) := by
  have hmove : (Job.ask (.deadline time) next).move w token true = none := if_neg (Nat.not_le.2 h)
  have hmember : (running w token (.ask (.deadline time) next)).members[0]? =
      some ⟨token, .ask (.deadline time) next, w.now⟩ := rfl
  have hstep : (running w token (.ask (.deadline time) next)).step w =
      (running w token (.ask (.deadline time) next)).resume w 0 true := rfl
  refine run_of_rest (hstep.trans ?_)
  simp only [resume, hmember, hmove]

theorem run_call (w : World) (token : Option String) {c : Call}
    (next : Except Failure c.Result → Job α) :
    (running w token (.ask (.call c) next)).run w =
      (running (w.call c).2 token (next (w.call c).1)).run (w.call c).2 := by
  have hstep : (running w token (.ask (.call c) next)).step w =
      (running w token (.ask (.call c) next)).resume w 0 true := rfl
  have hmove : (Job.ask (.call c) next).move w token true =
      some ((w.call c).2, ⟨next (w.call c).1, .ask (.call c) next _⟩) := rfl
  exact run_of_step (hstep.trans (resume_alone _ hmove rfl))

/-- A job that comes to a pause waits, unless its caller has cancelled. -/
theorem run_pause (hheeded : w.isCancelled token = false) {ms : Nat} (hms : 0 < ms)
    (next : Bool → Job α) : (running w token (.ask (.pause ms) next)).run w =
      (waitingAlone token (.ask (.pause ms) next) (w.now + ms) false).run w := by
  refine run_of_step ?_
  have hnone : (running w token (.ask (.pause ms) next)).answer? w 0 = none := by
    simp [answer?, running, hheeded, wakeOf]
    omega
  have hready : (running w token (.ask (.pause ms) next)).ready = [0] := rfl
  simp only [step, hready, hnone]
  rfl

section Waiting

variable {ms wake : Nat} {next : Bool → Job α}

/-- While the job waits, the clock moves to what is due first, or else to the end of the pause. -/
private theorem step_waiting (w : World) (token : Option String) :
    (waitingAlone token (.ask (.pause ms) next) wake false).step w =
      if w.events.head?.any (·.time ≤ wake) then
        w.events.head?.map fun e =>
          (waitingAlone token (.ask (.pause ms) next) wake false).happen w e.time
      else (waitingAlone token (.ask (.pause ms) next) wake false).awake w wake := by
  have hwake : (waitingAlone token (.ask (.pause ms) next) wake false).wake? = some wake := rfl
  have hover : (waitingAlone token (.ask (.pause ms) next) wake false).members.all (·.isOver) =
    false := rfl
  have hready : (waitingAlone token (.ask (.pause ms) next) wake false).ready = [] := rfl
  simp only [step, hready, hover, hwake]
  cases w.events <;> simp

/-- Something that is due before the pause ends happens while the job waits. -/
private theorem step_happens {e : Event} {rest : List Event} (hevents : w.events = e :: rest)
    (hdue : e.time ≤ wake) :
    (waitingAlone token (.ask (.pause ms) next) wake false).step w = some (w.pass e.time,
      waitingAlone token (.ask (.pause ms) next) wake
        (token.any ((w.pass e.time).firedSince w).contains)) := by
  have hany : w.events.head?.any (·.time ≤ wake) = true := by simp [hevents, hdue]
  rw [step_waiting, if_pos hany, hevents, List.head?_cons, Option.map_some, happen,
    callTokens_waitingAlone, Bool.false_or]

/-- A job in line goes on from its pause, and is told whether its caller has cancelled. -/
private theorem resume_waiting (w : World) (token : Option String) (wake : Nat) (answer : Bool) :
    (waitingAlone token (.ask (.pause ms) next) wake true).resume w 0 answer =
      some (w, running w token (next answer)) := by
  have hmove : (Job.ask (.pause ms) next).move w token answer =
      some (w, ⟨next answer, .ask (.pause ms) next _⟩) := rfl
  exact resume_alone _ hmove rfl

/-- If nothing is due before the pause ends, the clock moves to its end. -/
private theorem step_awakes (hlater : ∀ e, w.events.head? = some e → wake < e.time)
    (hheeded : w.isCancelled token = false) (hnow : w.now ≤ wake) :
    (waitingAlone token (.ask (.pause ms) next) wake false).step w =
      some (w.pass wake, running (w.pass wake) token (next false)) := by
  have hpass : w.pass wake = { w with now := wake } := by
    rw [World.pass_of_none_due hlater, Nat.max_eq_right hnow]
  have hnone : ¬ w.events.head?.any (·.time ≤ wake) = true := by
    rw [Option.any_eq_true]
    rintro ⟨e, hhead, hdue⟩
    exact Nat.not_le.2 (hlater e hhead) (of_decide_eq_true hdue)
  have hcall : (waitingAlone token (.ask (.pause ms) next) wake false).call
      ((waitingAlone token (.ask (.pause ms) next) wake false).waitingFor
        fun m => m.wake?.any (· ≤ wake)) = waitingAlone token (.ask (.pause ms) next) wake true := by
    simp [call, waitingFor, waitingAlone, Member.wake?]
  have hheeded' : World.isCancelled { w with now := wake } token = false := hheeded
  have hanswer : (waitingAlone token (.ask (.pause ms) next) wake true).answer?
      { w with now := wake } 0 = some false := by
    simp [answer?, waitingAlone, hheeded']
  have hready : (waitingAlone token (.ask (.pause ms) next) wake true).ready = [0] := rfl
  rw [step_waiting, if_neg hnone, hpass]
  simp only [awake, hcall, hready, hanswer, Option.bind_some]
  exact resume_waiting _ token wake false

/-- A pause that the caller does not cut short is over when its time has come. -/
theorem run_waiting (hnow : w.now ≤ wake) (hheeded : (w.pass wake).isCancelled token = false) :
    (waitingAlone token (.ask (.pause ms) next) wake false).run w =
      (running (w.pass wake) token (next false)).run (w.pass wake) := by
  -- By induction on what is still to happen: what is due before the end leaves the job waiting.
  induction hn : w.events.length using Nat.strongRecOn generalizing w with
  | ind n ih =>
    by_cases hlater : ∀ e, w.events.head? = some e → wake < e.time
    · have hheeded' := (World.isCancelled_pass_eq_false_iff.1 hheeded).1
      exact run_of_step (step_awakes hlater hheeded' hnow)
    · obtain ⟨e, hhead, hdue⟩ : ∃ e, w.events.head? = some e ∧ e.time ≤ wake := by
        simpa using hlater
      obtain ⟨rest, hevents⟩ := List.head?_eq_some_iff.1 hhead
      have hnone := (World.isCancelled_pass_eq_false_iff.1 (World.not_isCancelled_mono hdue hheeded)).2
      have hfewer : (w.pass e.time).events.length < n :=
        hn ▸ World.length_events_pass_lt hevents (Nat.le_refl _)
      have hnow' : (w.pass e.time).now ≤ wake := by
        rw [World.now_pass]
        exact Nat.max_le.2 ⟨hnow, hdue⟩
      have hpass := w.pass_pass hdue
      rw [run_of_step (step_happens hevents hdue), hnone,
        ih _ hfewer hnow' (by rw [hpass, hheeded]) rfl, hpass]

/-- A pause ends at once when the caller cancels. -/
theorem run_waiting_cancelled {time : Nat} (hcancels : w.CancelsAt token time) (hnow : w.now < time)
    (hwake : time ≤ wake) : (waitingAlone token (.ask (.pause ms) next) wake false).run w =
      (running (w.pass time) token (next true)).run (w.pass time) := by
  -- By the same induction. Something is due by `time`, or nobody could cancel then.
  induction hn : w.events.length using Nat.strongRecOn generalizing w with
  | ind n ih =>
    obtain ⟨hafter, hbefore⟩ := hcancels
    have hheeded := (World.isCancelled_pass_eq_false_iff.1 (hbefore _ hnow)).1
    obtain ⟨e, rest, hevents, hdue⟩ := World.exists_due hheeded hafter
    rw [run_of_step (step_happens hevents (Nat.le_trans hdue hwake))]
    obtain heq | hlt := Nat.eq_or_lt_of_le hdue
    · -- The caller cancels with what is due first: the job is in line now, with the answer `true`.
      subst heq
      have hfired : token.any ((w.pass e.time).firedSince w).contains = true := by
        rw [World.isCancelled_pass, hheeded, Bool.false_or] at hafter
        exact hafter
      have hanswer : (waitingAlone token (.ask (.pause ms) next) wake true).answer?
          (w.pass e.time) 0 = some true := by
        simp [answer?, waitingAlone, hafter]
      have hready : (waitingAlone token (.ask (.pause ms) next) wake true).ready = [0] := rfl
      rw [hfired]
      refine run_of_step ?_
      simp only [step, hready, hanswer]
      exact resume_waiting _ token wake true
    · have hnone := (World.isCancelled_pass_eq_false_iff.1 (hbefore _ hlt)).2
      have hfewer : (w.pass e.time).events.length < n :=
        hn ▸ World.length_events_pass_lt hevents (Nat.le_refl _)
      have hpass := w.pass_pass hdue
      have hcancels' : (w.pass e.time).CancelsAt token time := by
        refine ⟨by rw [hpass, hafter], fun t ht => ?_⟩
        have hlatest := hbefore (max e.time t) (Nat.max_lt.2 ⟨hlt, ht⟩)
        rw [← w.pass_pass (Nat.le_max_left ..)] at hlatest
        exact World.not_isCancelled_mono (Nat.le_max_right ..) hlatest
      have hnow' : (w.pass e.time).now < time := by
        rw [World.now_pass]
        exact Nat.max_lt.2 ⟨hnow, hlt⟩
      rw [hnone, ih _ hfewer hcancels' hnow' rfl, hpass]

end Waiting

/-- The result of a job that runs alone is the one at which it comes to its end. -/
theorem runOne_of_run {w' : World} {t : Job α} {a : α}
    (h : (running w token t).run w = (running w' token (.done a)).run w') :
    runOne w token t = (w', some a) := by
  rw [run_done] at h
  have hpool : ofJobs w [(token, t)] = running w token t := rfl
  simp only [runOne, runAll, hpool, h]
  rfl

theorem runOne_of_lost {w' : World} {t : Job α} {time : Nat} {next : Unit → Job α}
    (lost : Request.lastInstant < time)
    (h : (running w token t).run w = (running w' token (.ask (.deadline time) next)).run w') :
    runOne w token t = (w', none) := by
  rw [run_lost w' token lost] at h
  have hpool : ofJobs w [(token, t)] = running w token t := rfl
  simp only [runOne, runAll, hpool, h]
  rfl

end Pool
end MachineClaims.Simulation
