import MachineClaims.Proofs.Labels
import MachineClaims.Proofs.Turns
import MachineClaims.Provider.Create

/-!
# Outlines of a creation

Whatever one wants to know of a creation, it takes the same steps. An outline says what holds of a
scene at each point of them, and that each write leads from one point to the next within the terms.
Then the creation keeps its terms and ends as the outline says
(`CreateOutline.ensures_createFresh`). The points are:

* `idle` until a group has been chosen and the request for one more replica is answered,
* `reserved` from then until a machine has been labelled,
* `labelled` until the claim is bound to the machine, which is the end,
* `undoing` from a failure after the request until the machine needs nothing more,
* `released` until the replica count is back.
-/

namespace MachineClaims

/-- The reservation after a request. -/
def Reservation.fresh (space group : String) (baseline : Nat) : Reservation :=
  { space, group, baseline, machine := none, discovered := false }

/-- What a listing says of a machine that a reservation may take. -/
structure Reservation.Free (r : Reservation) (m : Machine) : Prop where
  unlabelled : m.isMember = false
  owner : m.owner? = some r.group
  space : m.header.space = r.space
  staying : m.isDeleting = false

theorem Reservation.Free.of_listed {r : Reservation} {m : Machine}
    (hm : r.candidates.accepts m.header.labels = true) (he : r.eligible m = true) : r.Free m := by
  simp only [candidates, Selector.withAbsent, Selector.withIn, Selector.accepts_withExpression,
    Selector.accepts_everything, Selector.Expression.accepts, Bool.true_and, Bool.and_eq_true] at hm
  obtain ⟨hmember, howner⟩ := hm
  simp only [eligible, Bool.and_eq_true, beq_iff_eq, Bool.not_eq_true'] at he
  refine ⟨?_, ?_, he.1, he.2⟩
  · simpa [Machine.isMember, NameMap.contains] using hmember
  · unfold Machine.owner?
    cases hg : m.header.labels.get? ownerLabel with
    | none => simp [hg] at howner
    | some owner =>
      have : owner = r.group := by simpa [hg] using howner
      rw [this]

/-- The type that is chosen for a claim if its class is read from one store and the groups from
another. -/
def Provider.chosen? (p : Provider) (claim : Claim) (ofClass ofGroups : Store) :
    Option MachineType := do
  let name ← claim.classRef
  let c ← ofClass.classes.get? (objectKey "" name)
  let groups := ofGroups.groups.values.filter fun g => c.selector.all (·.accepts g.header.labels)
  let types ← (groups.mapM fun g => p.machineType (.typingGroup g.header.key) g).toOption
  let constraints ← (Constraints.ofDemands claim.demands).toOption
  choose types constraints claim.requests

/-- A choice depends on the stored classes and groups only. -/
theorem Provider.chosen?_congr (p : Provider) (claim : Claim) {s s₁ s₂ : Store}
    (classes : s₁.classes = s.classes) (groups : s₂.groups = s.groups) :
    p.chosen? claim s₁ s₂ = p.chosen? claim s s := by
  unfold chosen?
  rw [classes, groups]

/-- The reservation after a machine was labelled for it. -/
def Reservation.taking (r : Reservation) (m : Machine) : Reservation :=
  { r with machine := some (Kind.machine.bump m.joined), discovered := true }

/-- The group with a replica count. -/
def MachineGroup.scaled (g : MachineGroup) (replicas : Nat) : MachineGroup :=
  { g with replicas := some replicas }

/-- What holds at the points of a creation. -/
structure CreateOutline (t : Terms) (p : Provider) (claim : Claim) where
  chosen : MachineType → Prop
  idle : Scene → Prop
  /-- What stays true of a group that was read under a key. -/
  knowsGroup : String → MachineGroup → Scene → Prop
  /-- What stays true of a machine that was read under a key. -/
  knows : String → Machine → Scene → Prop
  reserved : Reservation → Scene → Prop
  labelled : Reservation → Scene → Prop
  undoing : Reservation → Scene → Prop
  released : Reservation → Scene → Prop
  final : Except Failure Claim → Scene → Prop
  lasting_idle : t.Lasting idle
  lasting_knowsGroup : ∀ key g, t.Lasting (knowsGroup key g)
  lasting_knows : ∀ key m, t.Lasting (knows key m)
  lasting_reserved : ∀ r, t.Lasting (reserved r)
  lasting_labelled : ∀ r, t.Lasting (labelled r)
  lasting_undoing : ∀ r, t.Lasting (undoing r)
  lasting_released : ∀ r, t.Lasting (released r)
  lasting_final : ∀ x, t.Lasting (final x)
  choose : ∀ τ w₁ w₂, idle w₁ → idle w₂ → p.chosen? claim w₁.store w₂.store = some τ → chosen τ
  stop : ∀ e w, e.plain → idle w → final (.error e) w
  readGroup : ∀ key g w, idle w → w.store.groups.get? key = some g → knowsGroup key g w
  raise : ∀ τ g b w, chosen τ → idle w → knowsGroup (objectKey τ.groupSpace τ.groupName) g w →
    g.replicas = some b → b ≠ maxReplicas → w.store.Current .group g →
    t.guarantee w (w.writeGroup t.caller (g.scaled (b + 1))) ∧
      reserved (.fresh τ.groupSpace τ.groupName b) (w.writeGroup t.caller (g.scaled (b + 1)))
  list : ∀ r m w, reserved r w → r.Free m → m ∈ w.store.machines.values → knows m.header.key m w
  label : ∀ r m w, reserved r w → r.Free m → knows m.header.key m w → w.store.Current .machine m →
    t.guarantee w (w.writeMachine t.caller m.joined) ∧
      labelled (r.taking m) (w.writeMachine t.caller m.joined)
  refuse : ∀ r m activity error w, reserved r w → r.Free m → knows m.header.key m w →
    undoing { r with machine := some m.joined }
      (w.record (.call t.caller (.updateMachine m.joined) (.error (.store activity error))) w.store)
  bind : ∀ r m τ w, labelled r w → r.machine = some m → chosen τ →
    w.store.Current .claim claim →
    t.guarantee w (w.writeClaim t.caller (claim.bound m.header.key)) ∧
      final (Provider.populate (Kind.claim.bump (claim.bound m.header.key)) m τ)
        (w.writeClaim t.caller (claim.bound m.header.key))
  giveUp : ∀ r w, reserved r w → r.machine = none → undoing r w
  abandon : ∀ r w, labelled r w → undoing r w
  reread : ∀ r m stored w, undoing r w → r.machine = some m →
    w.store.machines.get? m.header.key = some stored → knows m.header.key stored w
  empty : ∀ r w, undoing r w → r.machine = none → released r w
  gone : ∀ r m w, undoing r w → r.machine = some m → w.store.machines.get? m.header.key = none →
    released r w
  clean : ∀ r m stored w, undoing r w → r.machine = some m → knows m.header.key stored w →
    stored.isMember = false → stored.isMarked = true → released r w
  release : ∀ r m stored now w, undoing r w → r.machine = some m → knows m.header.key stored w →
    w.store.Current .machine stored → stored.isMember = true ∨ stored.isMarked = false →
    t.guarantee w (w.writeMachine t.caller (stored.released now)) ∧
      released r (w.writeMachine t.caller (stored.released now))
  stuck : ∀ r e cleanup w, undoing r w → final (.error (.compensationFailed e cleanup)) w
  rereadGroup : ∀ r g w, released r w → w.store.groups.get? r.key = some g → knowsGroup r.key g w
  restore : ∀ r e g w, e.plain → released r w → knowsGroup r.key g w → w.store.Current .group g →
    t.guarantee w (w.writeGroup t.caller (g.scaled r.baseline)) ∧
      final (.error e) (w.writeGroup t.caller (g.scaled r.baseline))
  half : ∀ r e cleanup w, released r w → final (.error (.compensationFailed e cleanup)) w

/-- Once a claim is bound, only the provider id of its machine can be missing. -/
theorem Provider.populate_cases (claim : Claim) (m : Machine) (τ : MachineType) :
    (∃ claim', populate claim m τ = .ok claim') ∨
      populate claim m τ = .error (.missingProviderId m.header.key) := by
  unfold populate
  split
  · exact .inr rfl
  · exact .inl ⟨_, rfl⟩

theorem Binding.plain_of_parse_error {value : String} {e : Failure}
    (h : Binding.parse value = .error e) : e.plain = true := by
  unfold Binding.parse at h
  split at h
  · dsimp only at h
    split at h
    · cases h
      rfl
    · cases h
  · cases h
    rfl

/-- An answer that does not report a failed undoing. -/
def Whole {α : Type} (x : Except Failure α) : Prop :=
  ∀ e cleanup, x ≠ .error (.compensationFailed e cleanup)

theorem Whole.of_plain {α : Type} {e : Failure} (h : e.plain = true) :
    Whole (α := α) (.error e) := by
  rintro e' cleanup ⟨⟩
  cases h

theorem Provider.whole_populate (claim : Claim) (m : Machine) (τ : MachineType) :
    Whole (populate claim m τ) := by
  obtain ⟨claim', h⟩ | h := populate_cases claim m τ
  · rw [h]
    exact nofun
  · rw [h]
    exact nofun

/-- A retry only reads. -/
theorem Provider.ensures_resume {t : Terms} {P : Scene → Prop} {w : Scene} (hP : t.Lasting P)
    (p : Provider) (claim : Claim) (binding : String) (h : P w) :
    (p.resume claim binding).Ensures t (fun x w => Whole x ∧ P w) w := by
  unfold Provider.resume
  cases hparse : Binding.parse binding with
  | error e => exact ⟨.of_plain (Binding.plain_of_parse_error hparse), h⟩
  | ok place =>
    show Action.Ensures t _ (Action.call _ >>= _) w
    refine Action.Ensures.bind (Action.ensures_getMachine hP (fun _ => hP) h fun _ h => h)
      (fun found w h => ?_) fun e w he h => ⟨.of_plain he, h⟩
    cases found with
    | none => exact ⟨.of_plain rfl, h⟩
    | some m =>
      refine Action.Ensures.bind (ensures_owningGroup hP (fun _ => hP) h fun _ _ _ _ h _ => h)
        (fun g w h => ?_) fun e w he h => ⟨.of_plain he, h⟩
      rw [Action.ensures_bind, Action.ensures_ofExcept]
      cases hτ : p.machineType (.typingGroup g.header.key) g with
      | error e => exact ⟨.of_plain (plain_of_machineType_error hτ), h⟩
      | ok τ => exact ⟨whole_populate claim m τ, h⟩

/-- A whole retry, from before its turn until after it. -/
theorem Provider.ensures_retry {t : Terms} {P Q : Scene → Prop} {w : Scene}
    {post : Except Failure Claim → Scene → Prop} {p : Provider} {claim : Claim}
    (bound : claim.binding? ≠ none) (hP : t.Lasting P) (hQ : t.Lasting Q) (h : P w)
    (missed : ∀ e w, e.plain → P w → post (.error e) w)
    (enter : ∀ w, P w → (∀ c ∈ w.holders, c.provider ≠ t.caller.provider) →
      t.guarantee w { w with holders := t.caller :: w.holders } ∧
        Q { w with holders := t.caller :: w.holders })
    (leave : ∀ x w, Whole x → Q w →
      t.guarantee w { w with holders := w.holders.filter (· ≠ t.caller) } ∧
        post x { w with holders := w.holders.filter (· ≠ t.caller) }) :
    (p.create claim).Ensures t post w := by
  unfold Provider.create
  refine Provider.ensures_exclusively hP h (fun w h => missed _ w rfl h)
    (fun x => (Terms.Lasting.const t (Whole x)).and hQ) (fun w h hfree => ?_)
    fun x w h => leave x w h.1 h.2
  obtain ⟨kept, h⟩ := enter w h hfree
  refine ⟨kept, (Action.ensures_bind ..).2 (Action.ensures_cancelled hQ h fun x w h => ?_)⟩
  cases x with
  | true => exact ⟨.of_plain rfl, h⟩
  | false =>
    dsimp only [Action.andThen]
    cases hb : claim.binding? with
    | none => exact absurd hb bound
    | some binding => exact Provider.ensures_resume hQ p claim binding h

namespace CreateOutline

open MachineClaims.Action

variable {t : Terms} {p : Provider} {claim : Claim} (o : CreateOutline t p claim) {w : Scene}

theorem ensures_request {τ : MachineType} (hτ : o.chosen τ) (h : o.idle w) :
    (Reservation.request τ.groupSpace τ.groupName).Ensures t
      (Either (fun r w => r.machine = none ∧ o.reserved r w) o.idle) w := by
  unfold Reservation.request
  refine Ensures.bind (ensures_getGroup o.lasting_idle
    (fun g => o.lasting_idle.and (o.lasting_knowsGroup (objectKey τ.groupSpace τ.groupName) g)) h
    fun g w h hg => ⟨h, o.readGroup _ g w h hg⟩) ?_ fun e w he h => ⟨he, h⟩
  intro g w hg
  cases hb : g.replicas with
  | none => exact ⟨rfl, hg.1⟩
  | some b =>
    by_cases hmax : b = maxReplicas
    · simp only [hmax, if_true]
      exact ⟨rfl, hg.1⟩
    · simp only [hmax, if_false]
      refine Ensures.bind (ensures_updateGroup
        (o.lasting_idle.and (o.lasting_knowsGroup _ g)) hg fun w hg hcurrent =>
          o.raise τ g b w hτ hg.1 hg.2 hb hmax hcurrent) ?_ fun e w he h => ⟨he, h.1⟩
      intro _ w h
      exact ⟨rfl, h⟩

/-- What is known while nothing has been found, or once a machine has been. -/
def found (r : Reservation) : Option Machine → Scene → Prop
  | none, w => o.reserved r w
  | some m, w => o.reserved r w ∧ r.Free m ∧ o.knows m.header.key m w

theorem lasting_found (r : Reservation) (x : Option Machine) : t.Lasting (o.found r x) := by
  cases x with
  | none => exact o.lasting_reserved r
  | some m => exact (o.lasting_reserved r).and ((Terms.Lasting.const t _).and (o.lasting_knows _ m))

theorem ensures_check {r : Reservation} (h : o.reserved r w) :
    r.check.Ensures t (Either (o.found r) (o.reserved r)) w := by
  unfold Reservation.check
  rw [Action.ensures_bind]
  refine ensures_cancelled (o.lasting_reserved r) h fun cancelled w h => ?_
  cases cancelled with
  | true => exact ⟨rfl, h⟩
  | false =>
    refine Ensures.bind (ensures_listMachines (o.lasting_reserved r)
      (fun l => o.lasting_found r (l.find? r.eligible)) h fun w h => ?_)
      (fun _ _ h => h) fun e w he h => ⟨he, h⟩
    cases hfind : List.find? r.eligible _ with
    | none => exact h
    | some m =>
      obtain ⟨hmem, haccepts⟩ := List.mem_filter.1 (List.mem_of_find?_eq_some hfind)
      have hfree : r.Free m := .of_listed haccepts (List.find?_some hfind)
      exact ⟨h, hfree, o.list r m w h hfree hmem⟩

theorem ensures_awaitUntil {r : Reservation} (poll : Poll) (deadline past : Nat)
    (h : o.reserved r w) : (r.awaitUntil poll deadline past).Ensures t
      (Either (fun m => o.found r (some m)) (o.reserved r)) w := by
  -- By induction on what is left until the deadline: the next check is after a pause.
  induction past using Reservation.awaitUntil.induct poll deadline generalizing w with
  | case1 past ih =>
    unfold Reservation.awaitUntil
    refine Ensures.bind (o.ensures_check h) (fun x w h => ?_) fun e w he h => ⟨he, h⟩
    cases x with
    | some m => exact h
    | none =>
      refine (Action.ensures_bind ..).2 ?_
      refine ensures_instant (o.lasting_reserved r) h fun now w h => ?_
      by_cases hlate : deadline ≤ now.1
      · simp only [Action.andThen, if_pos hlate]
        exact ⟨rfl, h⟩
      · simp only [Action.andThen, if_neg hlate]
        refine (Action.ensures_bind ..).2 ?_
        refine ensures_pause (o.lasting_reserved r) h fun cancelled w h => ?_
        cases cancelled with
        | true => exact ⟨rfl, h⟩
        | false => exact ih now hlate h

theorem ensures_awaitMachine {r : Reservation} (poll : Poll) (h : o.reserved r w) :
    (r.awaitMachine poll).Ensures t
      (Either (fun m => o.found r (some m)) (o.reserved r)) w := by
  refine (Action.ensures_bind ..).2 ?_
  refine ensures_instant (o.lasting_reserved r) h fun started w h => ?_
  refine (Action.ensures_bind ..).2 ?_
  refine ensures_deadline (o.lasting_reserved r) h fun _ w h => ?_
  exact o.ensures_awaitUntil poll _ _ h

/-- What is known when the wait for a machine is over: what there is to undo, or the labelled
machine of a reservation. -/
def discovered : Reservation × Except Failure Machine → Scene → Prop
  | (r, .error e), w => e.plain ∧ o.undoing r w
  | (r, .ok m), w => r.machine = some m ∧ o.labelled r w

theorem ensures_discover {r : Reservation} (poll : Poll) (hr : r.machine = none)
    (h : o.reserved r w) : (r.discover poll).Ensures t o.discovered w := by
  unfold Reservation.discover
  rw [Program.ensures_seq]
  refine (o.ensures_awaitMachine poll h).mono fun x w h => ?_
  cases x with
  | error e => exact ⟨h.1, o.giveUp r w h.2 hr⟩
  | ok m =>
    rw [Program.ensures_seq]
    refine (ensures_updateMachine (o.lasting_found r (some m)) h
      (fun w h hcurrent => o.label r m w h.1 h.2.1 h.2.2 hcurrent)
      fun w activity error h => o.refuse r m activity error w h.1 h.2.1 h.2.2).mono fun x w h => ?_
    cases x with
    | error e => exact h
    | ok m' =>
      obtain ⟨rfl, hlabelled⟩ := h
      exact ⟨rfl, hlabelled⟩

/-- What is known when the machine of a reservation has been looked up again. -/
def reviewed (r : Reservation) (m : Machine) : Option Machine → Scene → Prop
  | none, w => o.released r w
  | some stored, w => o.undoing r w ∧ o.knows m.header.key stored w

theorem lasting_reviewed (r : Reservation) (m : Machine) (x : Option Machine) :
    t.Lasting (o.reviewed r m x) := by
  cases x with
  | none => exact o.lasting_released r
  | some stored => exact (o.lasting_undoing r).and (o.lasting_knows _ stored)

private theorem ensures_writeReleased {r : Reservation} {m stored : Machine}
    (hm : r.machine = some m) (now : Nat) (h : o.reviewed r m (some stored) w) :
    Action.Ensures t (Either (fun _ => o.released r) (o.undoing r))
      (if stored.isMember || !stored.isMarked then do
        let _ ← call (.updateMachine (stored.released now))
        pure ()
      else pure ()) w := by
  split
  · rename_i hneeded
    refine Ensures.bind (ensures_updateMachine (o.lasting_reviewed r m (some stored)) h
      (fun w h hcurrent => ?_) fun w activity error h => ?_) (fun _ w h => h.2)
      fun e w he h => ⟨he, h⟩
    · refine o.release r m stored now w h.1 hm h.2 ?_ (by simpa using hneeded)
      simpa [Store.Current, Kind.key, Kind.header] using hcurrent
    · exact (o.lasting_undoing r).quiet w _ _ (.inr ⟨_, rfl⟩) h.1
  · rename_i hclean
    simp only [Bool.or_eq_true, Bool.not_eq_true', not_or, Bool.not_eq_true, Bool.not_eq_false]
      at hclean
    exact o.clean r m stored w h.1 hm h.2 hclean.1 hclean.2

theorem ensures_releaseMachine {r : Reservation} {m : Machine} (hm : r.machine = some m)
    (h : o.undoing r w) : (Reservation.releaseMachine m).Ensures t
      (Either (fun _ => o.released r) (o.undoing r)) w := by
  unfold Reservation.releaseMachine
  have look : (call (.getMachine m.header.space m.header.name)).Ensures t
      (Either (o.reviewed r m) (o.undoing r)) w := by
    refine ensures_getMachine (o.lasting_undoing r) (o.lasting_reviewed r m) h fun w h => ?_
    cases hget : w.store.machines.get? (objectKey m.header.space m.header.name) with
    | none => exact o.gone r m w h hm hget
    | some stored => exact ⟨h, o.reread r m stored w h hm hget⟩
  refine look.bind (fun x w h => ?_) fun e w he h => ⟨he, h⟩
  cases x with
  | none => exact h
  | some stored =>
    dsimp only
    split
    · rename_i hmarked
      have hleft : stored.left = stored.released 0 := by simp [Machine.released, hmarked]
      rw [hleft]
      exact o.ensures_writeReleased hm 0 h
    · rename_i hmarked
      rw [Action.ensures_bind]
      refine ensures_clock (o.lasting_reviewed r m (some stored)) h fun now w h => ?_
      have hnow : stored.left.marked (Text.decimal now) = stored.released now := by
        simp [Machine.released, hmarked]
      dsimp only [andThen]
      rw [hnow]
      exact o.ensures_writeReleased hm now h

theorem ensures_restoreReplicas {r : Reservation} {e : Failure} (he : e.plain)
    (h : o.released r w) : r.restoreReplicas.Ensures t
      (Either (fun _ => o.final (.error e)) (o.released r)) w := by
  unfold Reservation.restoreReplicas
  refine Ensures.bind (ensures_getGroup (o.lasting_released r)
    (fun g => (o.lasting_released r).and (o.lasting_knowsGroup r.key g)) h
    fun g w h hg => ⟨h, o.rereadGroup r g w h hg⟩) (fun g w h => ?_) fun _ w he h => ⟨he, h⟩
  refine Ensures.bind (ensures_updateGroup ((o.lasting_released r).and (o.lasting_knowsGroup _ g)) h
    fun w h hcurrent => o.restore r e g w he h.1 h.2 hcurrent) (fun _ w h => h)
    fun _ w he h => ⟨he, h.1⟩

/-- The end of a rollback: the replica count is given back, and what follows only makes an answer of
that. -/
private theorem ensures_restored {r : Reservation} {e : Failure} (he : e.plain)
    {f : Except Failure Unit → Program Failure}
    (failed : ∀ cleanup, f (.error cleanup) = pure (.compensationFailed e cleanup))
    (done : f (.ok ()) = pure e) (h : o.released r w) :
    (r.restoreReplicas.run >>= f).Ensures t (fun e' => o.final (.error e')) w := by
  rw [Program.ensures_seq]
  refine (o.ensures_restoreReplicas he h).mono fun x w h => ?_
  cases x with
  | error cleanup =>
    rw [failed]
    exact o.half r e cleanup w h.2
  | ok _ =>
    rw [done]
    exact h

theorem ensures_rollback {r : Reservation} {e : Failure} (he : e.plain) (h : o.undoing r w) :
    (r.rollback e).Ensures t (fun e' => o.final (.error e')) w := by
  unfold Reservation.rollback
  cases hm : r.machine with
  | none => exact o.ensures_restored he (fun _ => rfl) rfl (o.empty r w h hm)
  | some m =>
    show (Program.bind _ _).Ensures t _ w
    rw [Program.ensures_bind]
    refine (o.ensures_releaseMachine hm h).mono fun x w h => ?_
    cases x with
    | error cleanup => exact o.stuck r e cleanup w h.2
    | ok _ => exact o.ensures_restored he (fun _ => rfl) rfl h

theorem ensures_claimMachine {r : Reservation} {τ : MachineType} (hτ : o.chosen τ)
    (hr : r.machine = none) (h : o.reserved r w) :
    (p.claimMachine claim r).Ensures t
      (fun x => match x with
        | .ok (bound, m) => o.final (Provider.populate bound m τ)
        | .error e => o.final (.error e)) w := by
  unfold Provider.claimMachine
  rw [Action.ensures_bind, Action.ensures_lift]
  refine (o.ensures_discover p.poll hr h).mono fun x w h => ?_
  obtain ⟨r, x⟩ := x
  have undo : ∀ e w, e.plain → o.undoing r w → Action.Ensures t
      (fun (x : Except Failure (Claim × Machine)) => match x with
        | .ok (bound, m) => o.final (Provider.populate bound m τ)
        | .error e => o.final (.error e))
      (do throw (← ExceptT.lift (r.rollback e))) w := by
    intro e w he h
    rw [Action.ensures_bind, Action.ensures_lift]
    exact (o.ensures_rollback he h).mono fun _ _ h => h
  cases x with
  | error e => exact undo e w h.1 h.2
  | ok m =>
    obtain ⟨hm, h⟩ := h
    refine (Action.ensures_bind ..).2 (ensures_cancelled (o.lasting_labelled r) h fun x w h => ?_)
    cases x with
    | true => exact undo _ w rfl (o.abandon r w h)
    | false =>
      refine (Action.ensures_bind ..).2 ((Action.ensures_outcome ..).2 ?_)
      refine (ensures_updateClaim (o.lasting_labelled r) h
        fun w h hcurrent => o.bind r m τ w h hm hτ ?_).mono fun x w h => ?_
      · exact hcurrent
      · cases x with
        | error e => exact undo e w h.1 (o.abandon r w h.2)
        | ok bound =>
          obtain ⟨rfl, h⟩ := h
          exact h

/-- What is known once the types are known that a claim may be given. -/
def offered (types : List MachineType) (w : Scene) : Prop :=
  o.idle w ∧ ∀ constraints τ, Constraints.ofDemands claim.demands = .ok constraints →
    Provider.choose types constraints claim.requests = some τ → o.chosen τ

theorem ensures_createFresh (h : o.idle w) : (p.createFresh claim).Ensures t o.final w := by
  unfold Provider.createFresh
  refine Ensures.bind (Provider.ensures_resolveClass o.lasting_idle
    (fun c => o.lasting_idle.and (.const t (∃ name w₁, claim.classRef = some name ∧ o.idle w₁ ∧
      w₁.store.classes.get? (objectKey "" name) = some c))) h
    fun name c w hname h hc => ⟨h, name, w, hname, h, hc⟩) (fun c w h => ?_) o.stop
  obtain ⟨h, name, w₁, hname, h₁, hc⟩ := h
  refine Ensures.bind (Provider.ensures_machineTypes (Q := o.offered) o.lasting_idle
    (fun types => o.lasting_idle.and (.const t _)) h fun w types h htypes => ⟨h, ?_⟩)
    (fun types w h => ?_) o.stop
  · intro constraints τ hconstraints hchoose
    refine o.choose τ w₁ w h₁ h ?_
    simp [Provider.chosen?, hname, hc, htypes, hconstraints, hchoose, Except.toOption]
  · cases hconstraints : Constraints.ofDemands claim.demands with
    | error e => exact o.stop _ w rfl h.1
    | ok constraints =>
      dsimp only
      rw [Action.ensures_bind, Action.ensures_pure]
      dsimp only [andThen]
      cases hchoose : Provider.choose types constraints claim.requests with
      | none => exact o.stop _ w rfl h.1
      | some τ =>
        have hτ : o.chosen τ := h.2 constraints τ hconstraints hchoose
        refine Ensures.bind (o.ensures_request hτ h.1) (fun r w h => ?_) o.stop
        rw [Action.ensures_bind]
        refine (o.ensures_claimMachine hτ h.1 h.2).mono fun x w h => ?_
        cases x with
        | ok x => exact h
        | error e => exact h

/-- A whole creation, from before its turn until after it. -/
theorem ensures_create {P : Scene → Prop} {post : Except Failure Claim → Scene → Prop}
    (hP : t.Lasting P) (h : P w) (missed : ∀ e w, e.plain → P w → post (.error e) w)
    (enter : ∀ w, P w → (∀ c ∈ w.holders, c.provider ≠ t.caller.provider) →
      t.guarantee w { w with holders := t.caller :: w.holders } ∧
        o.idle { w with holders := t.caller :: w.holders })
    (retry : claim.binding? ≠ none → ∀ x w, o.idle w → o.final x w)
    (leave : ∀ x w, o.final x w →
      t.guarantee w { w with holders := w.holders.filter (· ≠ t.caller) } ∧
        post x { w with holders := w.holders.filter (· ≠ t.caller) }) :
    (p.create claim).Ensures t post w := by
  unfold Provider.create
  refine Provider.ensures_exclusively hP h (fun w h => missed _ w rfl h) o.lasting_final
    (fun w h hfree => ?_) leave
  obtain ⟨kept, h⟩ := enter w h hfree
  refine ⟨kept, (Action.ensures_bind ..).2 (ensures_cancelled o.lasting_idle h fun x w h => ?_)⟩
  cases x with
  | true => exact o.stop _ w rfl h
  | false =>
    dsimp only [andThen]
    cases hb : claim.binding? with
    | none => exact o.ensures_createFresh h
    | some binding =>
      exact (Provider.ensures_resume o.lasting_idle p claim binding h).mono
        fun x w h => retry (by simp [hb]) x w h.2

end CreateOutline
end MachineClaims
