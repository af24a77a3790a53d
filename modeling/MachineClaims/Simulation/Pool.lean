import MachineClaims.Simulation.Job

/-!
# Jobs that run side by side

One job runs at a time, until it waits for the clock or for the lock that all share. A job whose
waiting is over goes to the end of the line of those that are to run, so that the lock is handed on
to the caller that has asked for it longest, and that caller runs after all that were in line
before. The clock moves only when all jobs wait, straight to the next thing that happens. When a job
is lost, nobody runs any more. A pool always comes to rest, because every move replaces a job by a child of it, lets something happen that
was to happen, or shortens the line (`step_decreases`).
-/

namespace MachineClaims.Simulation

/-- A job in a pool. -/
structure Pool.Member (α : Type) where
  token : Option String
  job : Job α
  /-- When the pause ends that the job is at. -/
  wake : Nat

/-- Jobs that run side by side, each at a position. -/
structure Pool (α : Type) where
  members : List (Pool.Member α)
  /-- The positions of those that are to run, in the order in which they do. -/
  ready : List Nat
  /-- The positions of those that wait, in the order in which they began to. -/
  waiting : List Nat
  /-- Who has the lock. -/
  holder : Option Nat

namespace Pool

variable {α : Type}

/-! ### One job replaced by a child -/

/-- The jobs of a pool. -/
def jobs (p : Pool α) : List (Job α) := p.members.map (·.job)

/-- One of the jobs is replaced by a child of it. -/
inductive Replaced : List (Job α) → List (Job α) → Prop where
  | head {t' t : Job α} (l : List (Job α)) (h : Job.Child t' t) : Replaced (t' :: l) (t :: l)
  | tail (t : Job α) {l' l : List (Job α)} (h : Replaced l' l) : Replaced (t :: l') (t :: l)

private theorem acc_cons {t : Job α} (ht : Acc Job.Child t) {l : List (Job α)}
    (hl : Acc Replaced l) : Acc Replaced (t :: l) := by
  induction ht generalizing l with
  | intro t _ iht =>
    induction hl with
    | intro l hl ihl =>
      refine ⟨_, fun _ h => ?_⟩
      cases h with
      | head _ h => exact iht _ h ⟨l, hl⟩
      | tail _ h => exact ihl _ h

/-- Replacing jobs by children of them comes to an end. -/
theorem replaced_wellFounded : WellFounded (Replaced (α := α)) := by
  refine ⟨fun l => ?_⟩
  induction l with
  | nil => exact ⟨_, fun _ h => nomatch h⟩
  | cons t l ih => exact acc_cons (Job.child_wellFounded.apply t) ih

private theorem replaced_set {l : List (Job α)} {i : Nat} {t t' : Job α}
    (hi : l[i]? = some t) (h : Job.Child t' t) : Replaced (l.set i t') l := by
  induction l generalizing i with
  | nil => simp at hi
  | cons u l ih =>
    cases i with
    | zero =>
      obtain rfl : u = t := by simpa using hi
      exact .head _ h
    | succ i => exact .tail _ (ih (by simpa using hi))

/-! ### Who can go on -/

/-- The answer with which the job at a position can go on, if it can. -/
def answer? (w : World) (p : Pool α) (i : Nat) : Option Bool := do
  let m ← p.members[i]?
  match m.job with
  | .done _ => none
  | .ask (.pause _) _ =>
    if w.isCancelled m.token then some true else if m.wake ≤ w.now then some false else none
  | .ask .lock _ =>
    if p.holder.isNone || p.holder = some i then some true
    else if w.isCancelled m.token then some false else none
  | _ => some true

/-- Whether a job is over. -/
def Member.isOver (m : Member α) : Bool :=
  match m.job with
  | .done _ => true
  | _ => false

/-- When the pause ends that a job is at, if it is at one. -/
def Member.wake? (m : Member α) : Option Nat :=
  match m.job with
  | .ask (.pause _) _ => some m.wake
  | _ => none

/-- Whether a job is at the lock. -/
def Member.isAtLock (m : Member α) : Bool :=
  match m.job with
  | .ask .lock _ => true
  | _ => false

/-- The positions of those that wait and satisfy a test, with the one that waits longest first. -/
def waitingFor (p : Pool α) (test : Member α → Bool) : List Nat :=
  p.waiting.filter fun i => p.members[i]?.any test

/-- When the first pause ends. -/
def wake? (p : Pool α) : Option Nat := (p.members.filterMap (·.wake?)).min?

/-! ### Moves -/

/-- When a job that comes to a pause now is to go on. -/
def wakeOf (w : World) : Job α → Nat
  | .ask (.pause ms) _ => w.now + ms
  | _ => w.now

/-- Those at the given positions get in line, behind all that are there already. -/
def call (p : Pool α) (positions : List Nat) : Pool α :=
  { p with ready := p.ready ++ positions.filter fun i => !p.ready.contains i }

/-- Those that wait while one of the given tokens is cancelled get in line. -/
def callTokens (p : Pool α) (tokens : List String) : Pool α :=
  tokens.foldl (fun p token => p.call (p.waitingFor fun m => m.token = some token)) p

/-- The lock goes to the one that waits for it longest, or to nobody. -/
def handOn (p : Pool α) : Pool α :=
  let next := (p.waitingFor Member.isAtLock).head?
  { p with holder := next }.call next.toList

/-- What becomes of the lock, and of those that wait, once the job at a position has got an answer
to what it was at. -/
def settle (p : Pool α) (i : Nat) (answer : Bool) : Job α → Pool α
  | .ask .unlock _ => p.handOn
  | .ask .lock _ =>
    { p with waiting := p.waiting.erase i, holder := if answer then some i else p.holder }
  | .ask (.pause _) _ => { p with waiting := p.waiting.erase i }
  | _ => p

@[simp] private theorem members_call (p : Pool α) (positions : List Nat) :
    (p.call positions).members = p.members := rfl

@[simp] private theorem members_callTokens (p : Pool α) (tokens : List String) :
    (p.callTokens tokens).members = p.members := by
  unfold callTokens
  induction tokens generalizing p with
  | nil => rfl
  | cons token tokens ih => rw [List.foldl_cons, ih, members_call]

@[simp] private theorem members_settle (p : Pool α) (i : Nat) (answer : Bool) (t : Job α) :
    (p.settle i answer t).members = p.members := by
  unfold settle
  split <;> rfl

/-- The job at a position makes one move. -/
def resume (w : World) (p : Pool α) (i : Nat) (answer : Bool) : Option (World × Pool α) :=
  match p.members[i]? with
  | none => none
  | some m =>
    match m.job.move w m.token answer with
    | none => none
    | some (w', job) =>
      let m' := { m with job := job.1, wake := wakeOf w' job.1 }
      let p := { p.settle i answer m.job with members := p.members.set i m' }
      some (w', p.callTokens (w'.firedSince w))

/-- The first in line leaves it, to wait unless the job is over. -/
def dismiss (p : Pool α) (i : Nat) (rest : List Nat) : Pool α :=
  let waits := p.members[i]?.any (!·.isOver) && !p.waiting.contains i
  { p with ready := rest, waiting := if waits then p.waiting ++ [i] else p.waiting }

/-- What is to happen by a time happens. -/
def happen (w : World) (p : Pool α) (time : Nat) : World × Pool α :=
  let w' := w.pass time
  (w', p.callTokens (w'.firedSince w))

/-- The clock moves to a time, and the first of those whose pause ends then goes on. -/
def awake (w : World) (p : Pool α) (time : Nat) : Option (World × Pool α) :=
  let w := { w with now := time }
  let p := p.call (p.waitingFor fun m => m.wake?.any (· ≤ time))
  match p.ready with
  | [] => none
  | i :: _ => (p.answer? w i).bind (p.resume w i)

/-- One move of the pool: of the first in line, who goes on or leaves the line; if nobody is in
line, of the clock to the next thing that is to happen, or to the end of a pause. -/
def step (w : World) (p : Pool α) : Option (World × Pool α) :=
  match p.ready with
  | i :: rest =>
    match p.answer? w i with
    | some answer => p.resume w i answer
    | none => some (w, p.dismiss i rest)
  | [] =>
    if p.members.all (·.isOver) then none
    else
      match w.events, p.wake? with
      | [], none => none
      | e :: _, none => some (p.happen w e.time)
      | [], some time => p.awake w time
      | e :: _, some time => if e.time ≤ time then some (p.happen w e.time) else p.awake w time

/-- What gets smaller with every move, the first that changes. -/
def measure (w : World) (p : Pool α) : List (Job α) × Nat × Nat :=
  (p.jobs, w.events.length, p.ready.length)

/-- One measure is smaller than another. -/
abbrev Smaller : List (Job α) × Nat × Nat → List (Job α) × Nat × Nat → Prop :=
  Prod.Lex Replaced (Prod.Lex (· < ·) (· < ·))

private theorem resume_replaced {w w' : World} {p p' : Pool α} {i : Nat} {answer : Bool}
    (h : p.resume w i answer = some (w', p')) : Replaced p'.jobs p.jobs := by
  unfold resume at h
  split at h
  · cases h
  · next m hm =>
    split at h
    · cases h
    · next w₁ job hmove =>
      obtain ⟨-, rfl⟩ : w₁ = w' ∧ _ = p' := by simpa using h
      simp only [jobs, members_callTokens, List.map_set]
      exact replaced_set (by simp [hm]) job.2

private theorem awake_replaced {w w' : World} {p p' : Pool α} {time : Nat}
    (h : p.awake w time = some (w', p')) : Replaced p'.jobs p.jobs := by
  simp only [awake] at h
  split at h
  · cases h
  · obtain ⟨answer, -, h⟩ := Option.bind_eq_some_iff.1 h
    have replaced := resume_replaced h
    exact replaced

private theorem happen_smaller {w : World} (p : Pool α) {e : Event} {rest : List Event}
    (he : w.events = e :: rest) :
    Smaller (measure (p.happen w e.time).1 (p.happen w e.time).2) (measure w p) := by
  simp only [measure, jobs, happen, members_callTokens]
  exact .right _ (.left _ _ (World.length_events_pass_lt he (Nat.le_refl _)))

/-- A move replaces a job by a child; or leaves the jobs and lets something happen; or leaves both
and shortens the line. -/
theorem step_decreases {w w' : World} {p p' : Pool α} (h : p.step w = some (w', p')) :
    Smaller (measure w' p') (measure w p) := by
  have event {e : Event} {rest : List Event} (he : w.events = e :: rest)
      (h : some (p.happen w e.time) = some (w', p')) :
      Smaller (measure w' p') (measure w p) := by
    have smaller := happen_smaller p he
    rwa [Option.some.inj h] at smaller
  unfold step at h
  split at h
  · next i rest hready =>
    split at h
    · exact .left _ _ (resume_replaced h)
    · obtain ⟨rfl, rfl⟩ : w = w' ∧ p.dismiss i rest = p' := by simpa using h
      refine .right _ (.right _ ?_)
      simp [dismiss, hready]
  · split at h
    · cases h
    · split at h
      · cases h
      · next he _ => exact event he h
      · exact .left _ _ (awake_replaced h)
      · next he _ =>
        split at h
        · exact event he h
        · exact .left _ _ (awake_replaced h)

instance : WellFoundedRelation (List (Job α)) := ⟨Replaced, replaced_wellFounded⟩

/-- Runs a pool until it comes to rest. -/
def run (w : World) (p : Pool α) : World × Pool α :=
  match _ : p.step w with
  | none => (w, p)
  | some (w', p') => run w' p'
termination_by measure w p
decreasing_by exact step_decreases ‹_›

/-- The result of a job that is over. -/
def Member.result? (m : Member α) : Option α :=
  match m.job with
  | .done a => some a
  | _ => none

/-- The pool of some jobs, each for a caller with its token, at the start. -/
def ofJobs (w : World) (l : List (Option String × Job α)) : Pool α where
  members := l.map fun m => ⟨m.1, m.2, wakeOf w m.2⟩
  ready := List.range l.length
  waiting := []
  holder := none

/-- Runs jobs side by side. Their results come in the order of the jobs. -/
def runAll (w : World) (l : List (Option String × Job α)) : World × List (Option α) :=
  let (w, p) := (ofJobs w l).run w
  (w, p.members.map (·.result?))

/-- Runs one job. -/
def runOne (w : World) (token : Option String) (t : Job α) : World × Option α :=
  let (w, results) := runAll w [(token, t)]
  (w, results.head?.join)

end Pool
end MachineClaims.Simulation
