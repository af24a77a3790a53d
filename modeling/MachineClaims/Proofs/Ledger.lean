import MachineClaims.Proofs.Accounts
import MachineClaims.Proofs.Refusals

/-!
# The ledger of replica counts

The count of a group is what it was at first and what all events have added to it since. Sorted by
callers, these are one for each creation that bound its claim or got stranded, and minus one for
each release; nobody else has added anything. So the answers of all calls tell every count
(`replicas_accounted`).
-/

namespace MachineClaims

/-- What a caller has added to the count of a group. -/
def Scene.net (w : Scene) (c : Caller) (key : String) : Int :=
  ((w.doings c).map (·.gain key)).sum

/-- Those who have made calls. -/
def Scene.callers (w : Scene) : Finset Caller := (w.events.filterMap (·.caller?)).toFinset

/-- The creations that have raised the count of a group and bound their claims. -/
def Stage.bound (σ : Stage Outcome) (key : String) : Set Caller :=
  {c | ∃ claim x, σ.programs c = some (.done (.created claim x)) ∧ Bound c σ.scene claim x key}

/-- The creations that have raised the count of a group and could not undo that. -/
def Stage.stranded (σ : Stage Outcome) (key : String) : Set Caller :=
  {c | ∃ claim x, σ.programs c = some (.done (.created claim x)) ∧ Stranded c σ.scene claim x key}

/-- The releases that have lowered the count of a group. -/
def Stage.freed (σ : Stage Outcome) (key : String) : Set Caller :=
  {c | ∃ claim x, σ.programs c = some (.done (.deleted claim x)) ∧ Freed c σ.scene claim x key}

/-- The calls on a stage account for all replica counts. -/
structure Accounted (s : Store) (σ : Stage Outcome) : Prop where
  calls : ∀ c x, σ.programs c = some (.done x) → Account c σ.scene x
  finite : ∀ key, (σ.bound key ∪ σ.stranded key ∪ σ.freed key).Finite
  /-- Between calls, the counts are as the answers say. -/
  balance : (∀ c q, σ.programs c = some q → q.isDone = true) →
    ∀ key n, s.replicas key = some n → ∃ n', σ.scene.store.replicas key = some n' ∧
      n' + (σ.freed key).ncard = n + (σ.bound key).ncard + (σ.stranded key).ncard
  bounded : ∀ e ∈ σ.scene.events, ∀ key n, e.after.replicas key = some n → n ≤ maxReplicas
  unmanaged : ∀ key, s.replicas key = none → ∀ e ∈ σ.scene.events, e.after.replicas key = none

namespace Ledger

variable {w : Scene} {c : Caller} {key : String}

/-! ### Sums over events -/

/-- What is not added by a write to the groups is nothing. -/
theorem gain_of_not_alters {e : Event} (h : e.alters .group = false) : e.gain key = 0 := by
  have hgroups : e.after.groups = e.before.groups := Event.alters_eq_false.1 h
  rw [Event.gain, Store.replicas_congr hgroups, sub_self]

theorem net_eq_writes (w : Scene) (c : Caller) (key : String) :
    w.net c key = ((w.writes c .group).map (·.gain key)).sum := by
  unfold Scene.net Scene.writes
  induction w.doings c with
  | nil => rfl
  | cons e doings ih =>
    cases halters : e.alters .group with
    | true => simp [halters, ih]
    | false => simp [halters, ih, gain_of_not_alters halters]

/-- Whoever has added something is a caller; so all that was added was added by callers. -/
theorem sum_gain_eq_sum_net {events : List Event} {S : Finset Caller}
    (covers : ∀ e ∈ events, ∀ c, e.caller? = some c → c ∈ S)
    (others : ∀ e ∈ events, e.caller? = none → e.gain key = 0) :
    (events.map (·.gain key)).sum =
      ∑ c ∈ S, ((events.filter (·.caller? = some c)).map (·.gain key)).sum := by
  induction events with
  | nil => simp
  | cons e events ih =>
    have hrest := ih (fun e he => covers e (List.mem_cons_of_mem _ he))
      fun e he => others e (List.mem_cons_of_mem _ he)
    -- the event counts towards the sum of its own caller only
    have split : ∀ c, (((e :: events).filter (·.caller? = some c)).map (·.gain key)).sum =
        (if e.caller? = some c then e.gain key else 0) +
          ((events.filter (·.caller? = some c)).map (·.gain key)).sum := by
      intro c
      by_cases hc : e.caller? = some c <;> simp [hc]
    rw [List.map_cons, List.sum_cons, Finset.sum_congr rfl fun c _ => split c,
      Finset.sum_add_distrib, ← hrest]
    cases hcaller : e.caller? with
    | none => simp [others e List.mem_cons_self hcaller]
    | some d => simp [covers e List.mem_cons_self d hcaller]

/-- A set of callers is counted by its indicator. -/
theorem ncard_eq_sum {A : Set Caller} {S : Finset Caller} (h : ∀ c ∈ A, c ∈ S) :
    (A.ncard : Int) = ∑ c ∈ S, A.indicator 1 c := by
  classical
  have hA : A = ↑(S.filter (· ∈ A)) := by
    ext c
    simpa using h c
  rw [Finset.sum_indicator_eq_sum_filter]
  conv_lhs => rw [hA, Set.ncard_coe_finset]
  simp

/-! ### What each call adds -/

theorem gain_of_scales {e : Event} {key₀ : String} {was now : Nat} (h : e.Scales key₀ was now) :
    e.gain key = if key = key₀ then (now : Int) - was else 0 := by
  unfold Event.gain
  split
  · rename_i hkey
    rw [hkey, h.before, h.after]
    rfl
  · rename_i hne
    rw [h.others key hne, sub_self]

theorem net_of_scaled {key₀ : String} {was now : Nat} (h : w.Scaled c key₀ was now) :
    w.net c key = if key = key₀ then (now : Int) - was else 0 := by
  obtain ⟨e, hwrites, hscales⟩ := h
  rw [net_eq_writes, hwrites, List.map_singleton, List.sum_singleton, gain_of_scales hscales]

theorem net_of_raised {key₀ : String} (h : ∃ b, b ≠ maxReplicas ∧ w.Scaled c key₀ b (b + 1)) :
    w.net c key = if key = key₀ then 1 else 0 := by
  obtain ⟨b, _, hb⟩ := h
  rw [net_of_scaled hb, Nat.cast_succ, add_sub_cancel_left]

theorem net_of_lowered {key₀ : String} (h : ∃ n, w.Scaled c key₀ (n + 1) n) :
    w.net c key = if key = key₀ then -1 else 0 := by
  obtain ⟨n, hn⟩ := h
  rw [net_of_scaled hn, Nat.cast_succ, sub_add_cancel_left]

theorem net_of_writes_nil (h : w.writes c .group = []) : w.net c key = 0 := by
  rw [net_eq_writes, h]
  rfl

/-- Only these calls have added anything. -/
theorem net_of_others {x : Outcome} (h : Account c w x)
    (bound : ∀ claim y, x = .created claim y → ¬ Bound c w claim y key)
    (stranded : ∀ claim y, x = .created claim y → ¬ Stranded c w claim y key)
    (freed : ∀ claim y, x = .deleted claim y → ¬ Freed c w claim y key) : w.net c key = 0 := by
  cases h with
  | retried _ _ nothing => exact net_of_writes_nil (nothing.writes .group)
  | refused _ _ nothing => exact net_of_writes_nil (nothing.writes .group)
  | undone _ _ groups raised lowered _ =>
    rw [net_eq_writes, groups]
    simp only [List.map_cons, List.map_nil, List.sum_cons, List.sum_nil, gain_of_scales raised,
      gain_of_scales lowered]
    split <;> omega
  | bound h =>
    rw [net_of_raised h.raised, if_neg]
    rintro rfl
    exact bound _ _ rfl h
  | stranded h =>
    rw [net_of_raised h.raised, if_neg]
    rintro rfl
    exact stranded _ _ rfl h
  | going _ _ nothing => exact net_of_writes_nil (nothing.writes .group)
  | freed h =>
    rw [net_of_lowered h.lowered, if_neg]
    rintro rfl
    exact freed _ _ rfl h
  | kept groups => exact net_of_writes_nil groups

/-! ### What all calls add -/

variable {σ : Stage Outcome}

theorem mem_callers : c ∈ w.callers ↔ ∃ e ∈ w.events, e.caller? = some c := by
  simp [Scene.callers]

theorem mem_callers_of_scaled {was now : Nat} (h : w.Scaled c key was now) : c ∈ w.callers := by
  obtain ⟨e, hwrites, _⟩ := h
  have he : e ∈ w.writes c .group := hwrites ▸ List.mem_singleton_self e
  obtain ⟨he, hcaller⟩ := List.mem_filter.1 (List.mem_filter.1 he).1
  exact mem_callers.2 ⟨e, he, of_decide_eq_true hcaller⟩

theorem bound_subset (hc : c ∈ σ.bound key) : c ∈ σ.scene.callers := by
  obtain ⟨_, _, _, h⟩ := hc
  obtain ⟨b, _, hb⟩ := h.raised
  exact mem_callers_of_scaled hb

theorem stranded_subset (hc : c ∈ σ.stranded key) : c ∈ σ.scene.callers := by
  obtain ⟨_, _, _, h⟩ := hc
  obtain ⟨b, _, hb⟩ := h.raised
  exact mem_callers_of_scaled hb

theorem freed_subset (hc : c ∈ σ.freed key) : c ∈ σ.scene.callers := by
  obtain ⟨_, _, _, h⟩ := hc
  obtain ⟨n, hn⟩ := h.lowered
  exact mem_callers_of_scaled hn

theorem not_stranded_of_bound (hc : c ∈ σ.bound key) : c ∉ σ.stranded key := by
  rintro ⟨_, _, _, hstranded⟩
  obtain ⟨_, _, _, hbound⟩ := hc
  obtain ⟨_, _, hclaims, _⟩ := hbound.binds
  cases hclaims.symm.trans hstranded.claims

/-- A creation is no release. -/
theorem not_freed_of_created {claim : Claim} {x : Except Failure Claim}
    (h : σ.programs c = some (.done (.created claim x))) : c ∉ σ.freed key := by
  rintro ⟨_, _, hp, _⟩
  cases h.symm.trans hp

/-- Once it is over, a call has added one if it got its claim bound or got stranded, and has taken
one if it was a release. -/
theorem net_eq_indicators (unknown : ∀ c, σ.programs c = none → σ.scene.Unknown c)
    (calls : ∀ c x, σ.programs c = some (.done x) → Account c σ.scene x)
    (done : ∀ c q, σ.programs c = some q → q.isDone = true) (c : Caller) (key : String) :
    σ.scene.net c key = (σ.bound key).indicator 1 c + (σ.stranded key).indicator 1 c -
      (σ.freed key).indicator 1 c := by
  -- the three sets are disjoint, and whoever is in none of them has left the count alone
  by_cases hbound : c ∈ σ.bound key
  · obtain ⟨_, _, hp, h⟩ := id hbound
    rw [net_of_raised h.raised, if_pos rfl, Set.indicator_of_mem hbound,
      Set.indicator_of_notMem (not_stranded_of_bound hbound),
      Set.indicator_of_notMem (not_freed_of_created hp)]
    rfl
  by_cases hstranded : c ∈ σ.stranded key
  · obtain ⟨_, _, hp, h⟩ := id hstranded
    rw [net_of_raised h.raised, if_pos rfl, Set.indicator_of_notMem hbound,
      Set.indicator_of_mem hstranded, Set.indicator_of_notMem (not_freed_of_created hp)]
    rfl
  by_cases hfreed : c ∈ σ.freed key
  · obtain ⟨_, _, _, h⟩ := id hfreed
    rw [net_of_lowered h.lowered, if_pos rfl, Set.indicator_of_notMem hbound,
      Set.indicator_of_notMem hstranded, Set.indicator_of_mem hfreed]
    rfl
  rw [Set.indicator_of_notMem hbound, Set.indicator_of_notMem hstranded,
    Set.indicator_of_notMem hfreed]
  cases hp : σ.programs c with
  | none => rw [Scene.net, (unknown c hp).doings_eq_nil]; rfl
  | some q =>
    cases q with
    | ask r next => cases done c _ hp
    | done x =>
      refine net_of_others (calls c x hp) (fun claim y hx h => hbound ⟨claim, y, ?_, h⟩)
        (fun claim y hx h => hstranded ⟨claim, y, ?_, h⟩)
        fun claim y hx h => hfreed ⟨claim, y, ?_, h⟩
      all_goals rw [hp, hx]

/-- A ledger that is closed gives every count. -/
theorem balance {s : Store} (kept : Accounting.Kept s σ.scene)
    (unknown : ∀ c, σ.programs c = none → σ.scene.Unknown c)
    (calls : ∀ c x, σ.programs c = some (.done x) → Account c σ.scene x)
    (done : ∀ c q, σ.programs c = some q → q.isDone = true) (key : String) :
    ((σ.scene.store.replicas key).getD 0 : Int) + (σ.freed key).ncard =
      (s.replicas key).getD 0 + (σ.bound key).ncard + (σ.stranded key).ncard := by
  have hnet : (σ.scene.events.map (·.gain key)).sum = ∑ c ∈ σ.scene.callers, σ.scene.net c key :=
    sum_gain_eq_sum_net (fun e he c hc => mem_callers.2 ⟨e, he, hc⟩) fun e he hc => by
      rw [Event.gain, kept.others e he hc key, sub_self]
  have hsum : ∑ c ∈ σ.scene.callers, σ.scene.net c key =
      (σ.bound key).ncard + (σ.stranded key).ncard - (σ.freed key).ncard := by
    rw [ncard_eq_sum fun c => bound_subset, ncard_eq_sum fun c => stranded_subset,
      ncard_eq_sum fun c => freed_subset, ← Finset.sum_add_distrib, ← Finset.sum_sub_distrib]
    exact Finset.sum_congr rfl fun c _ => net_eq_indicators unknown calls done c key
  have htotal := kept.total key
  omega

/-- The callers of one provider, who account for what they do. -/
def pact (p : Provider) (home : Nat) (s : Store) :
    Pact (Outcome.Job p home) Scene.Uncounted (Accounting.shift home s).Orderly :=
  (Accounting.shift home s).pact (Outcome.Job p home) (fun c x w => Account c w x)
    (fun _ x w w' h step => (Accounting.lasting_account x).stable w w' h step)
    fun c q w hjob orderly unknown => by
      obtain ⟨rfl, order, rfl⟩ := hjob
      refine Accounting.ensures_outcome p order ⟨orderly, fun e he => ?_⟩
      rw [unknown.doings_eq_nil] at he
      cases he

theorem accounted_of_kept {p : Provider} {home : Nat} {s : Store}
    (h : (pact p home s).Kept σ) : Accounted s σ where
  calls c x hp := h.ensures c _ hp
  finite key := by
    refine σ.scene.callers.finite_toSet.subset ?_
    rintro c ((hc | hc) | hc)
    · exact bound_subset hc
    · exact stranded_subset hc
    · exact freed_subset hc
  balance done key n hn := by
    have kept := h.inv.inv
    have hmanaged := kept.counts.managed key
    rw [hn] at hmanaged
    obtain ⟨n', hn'⟩ := Option.isSome_iff_exists.1 hmanaged
    have hbalance := balance kept h.unknown (fun c x hp => h.ensures c _ hp) done key
    rw [hn, hn', Option.getD_some, Option.getD_some] at hbalance
    exact ⟨n', hn', by omega⟩
  bounded e he := (h.inv.inv.past e he).bounded
  unmanaged key hnone e he := by
    have hmanaged := (h.inv.inv.past e he).managed key
    rw [hnone] at hmanaged
    exact Option.isSome_eq_false_iff.1 hmanaged |> Option.isNone_iff_eq_none.1

end Ledger

/-- While only the callers of one provider change replica counts, each count is, between calls, what
it was at first, and one more for each creation that bound its claim or got stranded, and one less
for each release; no count leaves its bounds, and none appears. At the bounds, calls fail and change
nothing. -/
theorem replicas_accounted {p : Provider} {s : Store} (keyed : s.Keyed)
    (bounded : ∀ key n, s.replicas key = some n → n ≤ maxReplicas) :
    (∀ home σ, (Stage.start (Scene.start s)).Reaches (Outcome.Job p home) Scene.Uncounted σ →
      Accounted s σ) ∧
    (∀ claim τ, claim.binding? = none → p.chosen? claim s s = some τ →
      s.replicas (objectKey τ.groupSpace τ.groupName) = some maxReplicas →
      ∀ me x w, (p.create claim).Ends me (Scene.Beside [.group, .capacityClass]) (.start s) x w →
        (∃ e, x = .error e) ∧ w.Passive me) ∧
    ∀ claim m owner, claim.machine? s = some m → m.isDeleting = false → m.owner? = some owner →
      s.replicas (objectKey m.header.space owner) = some 0 →
      ∀ me x w, (Provider.delete claim).Ends me (Scene.Beside [.group, .machine]) (.start s) x w →
        (∃ e, x = .error e) ∧ w.Passive me := by
  refine ⟨fun home σ run => ?_, fun claim τ unbound chosen full me x w run => ?_,
    fun claim m owner resolved staying owned empty me x w run => ?_⟩
  · have orderly : (Accounting.shift home s).Orderly (.start s) :=
      ⟨Accounting.kept_start keyed bounded, nofun, nofun⟩
    exact Ledger.accounted_of_kept ((Ledger.pact p home s).reaches orderly run)
  · exact Provider.create_refused unbound chosen full run
  · exact Provider.delete_refused resolved staying owned empty run

/-- The store of the two claims, with another count of machines. -/
def Store.counting (n : Nat) : Store :=
  Store.claimed.put .group (Kind.group.bump (.new "ns" "workers" (some n)))

theorem Store.keyed_counting (n : Nat) : (Store.counting n).Keyed := keyed_claimed.put .group _

theorem Store.bounded_counting {n : Nat} (h : n ≤ maxReplicas) (key : String) (n' : Nat)
    (hn' : (Store.counting n).replicas key = some n') : n' ≤ maxReplicas := by
  have hclaimed : ∀ g ∈ Store.claimed.groups.values, g.replicas = some 1 := by decide +kernel
  rw [counting, replicas_put_group] at hn'
  split at hn'
  · obtain rfl : n = n' := Option.some.inj hn'
    exact h
  · obtain ⟨g, hg, hreplicas⟩ := Option.bind_eq_some_iff.1 hn'
    obtain rfl : 1 = n' :=
      Option.some.inj ((hclaimed g (NameMap.mem_values_iff.2 ⟨key, hg⟩)).symm.trans hreplicas)
    decide

/-- A creation adds the first machine to a group. A release of another one would have been refused
before, as would the creation have been if the group had been full. -/
theorem replicas_accounted_worker :
    ∃ σ, (Stage.start (Scene.start (.counting 0))).Reaches (Outcome.Job .sample 0)
        Scene.Uncounted σ ∧
      (∀ c q, σ.programs c = some q → q.isDone = true) ∧
      σ.scene.store.replicas "ns/workers" = some 1 ∧ Accounted (.counting 0) σ ∧
      (∃ e w, (Provider.delete (Claim.sample.bound "ns/worker-1")).Ends ⟨0, 0⟩
        (Scene.Beside [.group, .machine]) (.start (.counting 0)) (.error e) w ∧
        w.Passive ⟨0, 0⟩) ∧
      ∃ e w, (Provider.sample.create (Kind.claim.bump .sample)).Ends ⟨0, 0⟩
        (Scene.Beside [.group, .capacityClass]) (.start (.counting maxReplicas)) (.error e) w ∧
        w.Passive ⟨0, 0⟩ := by
  let order := Order.create (Kind.claim.bump .sample)
  have bounded := Store.bounded_counting (n := 0) (by decide)
  obtain ⟨accounted, _, released⟩ :=
    replicas_accounted (p := .sample) (Store.keyed_counting 0) bounded
  obtain ⟨_, created, _⟩ := replicas_accounted (p := .sample) (Store.keyed_counting maxReplicas)
    (Store.bounded_counting le_rfl)
  obtain ⟨σ, run, hscene, hprograms⟩ := Stage.reaches_only (Outcome.Job .sample 0) Scene.Uncounted
    (c := ⟨0, 0⟩) (p := order.outcome .sample) ⟨rfl, order, rfl⟩ 0 14 (.start (.counting 0))
  refine ⟨σ, run, fun c q hq => ?_, ?_, accounted 0 σ run, ?_, ?_⟩
  · rw [hprograms c q hq]
    decide +kernel
  · rw [hscene]
    decide +kernel
  · have fails := Program.ends_advance ⟨0, 0⟩ (Scene.Beside [.group, .machine]) 0 8
      (p := (Provider.delete (Claim.sample.bound "ns/worker-1")).run)
      (w := .start (.counting 0)) (Program.eq_of_hasFailed (e := .zeroReplicas "ns/workers")
        (by decide +kernel))
    obtain ⟨m, hm, hstaying, howner, hempty⟩ : ∃ m,
        (Claim.sample.bound "ns/worker-1").machine? (.counting 0) = some m ∧
        m.isDeleting = false ∧ m.owner? = some "workers" ∧
        (Store.counting 0).replicas (objectKey m.header.space "workers") = some 0 :=
      ⟨_, rfl, by decide +kernel, by decide +kernel, by decide +kernel⟩
    exact ⟨_, _, fails, (released _ m _ hm hstaying howner hempty _ _ _ fails).2⟩
  · have fails := Program.ends_advance ⟨0, 0⟩ (Scene.Beside [.group, .capacityClass]) 0 12
      (p := (Provider.sample.create (Kind.claim.bump .sample)).run)
      (w := .start (.counting maxReplicas))
      (Program.eq_of_hasFailed (e := .misuse (.replicaOverflow "ns/workers")) (by decide +kernel))
    obtain ⟨τ, hτ, hfull⟩ : ∃ τ, Provider.sample.chosen? (Kind.claim.bump .sample)
        (.counting maxReplicas) (.counting maxReplicas) = some τ ∧
        (Store.counting maxReplicas).replicas (objectKey τ.groupSpace τ.groupName) =
          some maxReplicas :=
      ⟨_, rfl, by decide +kernel⟩
    exact ⟨_, _, fails, (created _ τ (by decide +kernel) hτ hfull _ _ _ fails).2⟩

end MachineClaims
