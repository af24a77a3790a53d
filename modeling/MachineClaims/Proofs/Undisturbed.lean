import MachineClaims.Proofs.Alone
import MachineClaims.Proofs.Ranking

/-!
# Creations that nobody disturbs

A creation that is alone with the store first reads (`Provider.Reads`), then chooses a group, and
then provides the claim with a machine of that group (`Provider.alone_createFresh`). It binds the
claim just if the group can grow and has a free machine and the store accepts the claim
(`Provider.Binds`). Then it leaves three objects with new versions behind
(`Provider.alone_provide`); otherwise it fails in a way that does not ask for a retry
(`Provider.alone_provide_fails`).
-/

namespace MachineClaims

instance decidableEqExcept {ε α : Type} [DecidableEq ε] [DecidableEq α] :
    DecidableEq (Except ε α)
  | .ok a, .ok b => decidable_of_iff (a = b) ⟨congrArg _, Except.ok.inj⟩
  | .error e, .error f => decidable_of_iff (e = f) ⟨congrArg _, Except.error.inj⟩
  | .ok _, .error _ => isFalse nofun
  | .error _, .ok _ => isFalse nofun

/-- The first value, in the order of keys, that satisfies a condition. -/
theorem NameMap.find?_values_eq_some_iff {α : Type} {m : NameMap α} {p : α → Bool} {a : α} :
    m.values.find? p = some a ↔ ∃ key, m.get? key = some a ∧ p a = true ∧
      ∀ key' a', m.get? key' = some a' → p a' = true → key' = key ∨ key < key' := by
  have first : ∀ {a}, m.values.find? p = some a → ∃ key, m.get? key = some a ∧ p a = true ∧
      ∀ key' a', m.get? key' = some a' → p a' = true → key' = key ∨ key < key' := by
    intro a h
    rw [values, List.find?_map] at h
    obtain ⟨⟨key, _⟩, hfind, rfl⟩ := Option.map_eq_some_iff.1 h
    obtain ⟨hp, before, after, hentries, hbefore⟩ := List.find?_eq_some_iff_append.1 hfind
    have hincreasing := m.increasing
    rw [hentries] at hincreasing
    refine ⟨key, mem_entries_iff.1 (by simp [hentries]), hp, fun key' a' hget hp' => ?_⟩
    have hmem : (key', a') ∈ before ++ (key, _) :: after := hentries ▸ mem_entries_iff.2 hget
    obtain hmem | hmem := List.mem_append.1 hmem
    · have hnot := hbefore _ hmem
      simp [hp'] at hnot
    · obtain heq | hmem := List.mem_cons.1 hmem
      · exact .inl (congrArg Prod.fst heq)
      · exact .inr ((List.pairwise_cons.1 (List.pairwise_append.1 hincreasing).2.1).1 _ hmem)
  refine ⟨first, fun h => ?_⟩
  obtain ⟨key, hget, hp, hleast⟩ := h
  cases hfind : m.values.find? p with
  | none => exact absurd hp (List.find?_eq_none.1 hfind a (mem_values_iff.2 ⟨key, hget⟩))
  | some b =>
    obtain ⟨key', hget', hp', hleast'⟩ := first hfind
    have hkey : key' = key := by
      obtain heq | hlt := hleast key' b hget' hp'
      · exact heq
      · obtain heq | hlt' := hleast' key a hget hp
        · exact heq.symm
        · exact absurd (String.lt_trans hlt hlt') (String.lt_irrefl key)
    rw [hkey, hget] at hget'
    exact hget'.symm

namespace Store

/-- Another object of another kind or under another key can be stored before or after. -/
theorem put_comm (s : Store) {k k' : Kind} (o : k.Object) (o' : k'.Object)
    (h : k = k' → k.key o ≠ k'.key o') : (s.put k o).put k' o' = (s.put k' o').put k o := by
  refine ext_table fun j => NameMap.ext_get? fun key => ?_
  by_cases hk : k = k'
  · subst hk
    by_cases hj : j = k
    · subst hj
      simp only [get?_table_put]
      split <;> rename_i heq <;> split <;> rename_i heq'
      · exact absurd (heq'.symm.trans heq) (h rfl)
      · rfl
      · rfl
      · rfl
    · simp only [table_put_of_ne _ _ hj]
  · by_cases hj : j = k
    · subst hj
      rw [table_put_of_ne _ _ hk, get?_table_put, get?_table_put, table_put_of_ne _ _ hk]
    · by_cases hj' : j = k'
      · subst hj'
        rw [get?_table_put, table_put_of_ne _ _ hj, table_put_of_ne _ _ hj, get?_table_put]
      · simp only [table_put_of_ne _ _ hj, table_put_of_ne _ _ hj']

theorem put_comm_of_ne (s : Store) {k k' : Kind} (o : k.Object) (o' : k'.Object) (h : k ≠ k') :
    (s.put k o).put k' o' = (s.put k' o').put k o := s.put_comm o o' fun heq => absurd heq h

/-- What is stored last under a key stays. -/
theorem put_put (s : Store) {k : Kind} {o o' : k.Object} (h : k.key o' = k.key o) :
    (s.put k o).put k o' = s.put k o' := by
  refine ext_table fun j => NameMap.ext_get? fun key => ?_
  by_cases hj : j = k
  · subst hj
    simp only [get?_table_put, h]
    split <;> rfl
  · simp only [table_put_of_ne _ _ hj]

end Store

namespace Action

variable {s : Store}

theorem alone_getGroup {space name : String} {g : MachineGroup}
    (h : s.groups.get? (objectKey space name) = some g) (now : Nat) :
    (call (.getGroup space name)).alone now s = (.ok g, s) := by
  simp [call, Program.answerAlone, Call.perform, Store.get, Store.lookup, Store.table, h,
    Store.read, Kind.reread, Call.during]

theorem alone_updateGroup {g : MachineGroup} (h : s.Accepts .group g) (now : Nat) :
    (call (.updateGroup g)).alone now s =
      (.ok (Kind.group.bump g), s.put .group (Kind.group.bump g)) := by
  simp [call, Program.answerAlone, Call.perform, Store.update_of_accepts h, Call.written]

theorem alone_updateMachine {m : Machine} (h : s.Accepts .machine m) (now : Nat) :
    (call (.updateMachine m)).alone now s =
      (.ok (Kind.machine.bump m), s.put .machine (Kind.machine.bump m)) := by
  simp [call, Program.answerAlone, Call.perform, Store.update_of_accepts h, Call.written]

theorem alone_updateClaim {c : Claim} (h : s.Accepts .claim c) (now : Nat) :
    (call (.updateClaim c)).alone now s =
      (.ok (Kind.claim.bump c), s.put .claim (Kind.claim.bump c)) := by
  simp [call, Program.answerAlone, Call.perform, Store.update_of_accepts h, Call.written]

end Action

namespace Reservation

variable {r : Reservation} {m : Machine} {s : Store}

/-- The first machine, in the order of keys, that a reservation may take. -/
def first? (r : Reservation) (s : Store) : Option Machine :=
  (s.machines.values.filter fun m => r.candidates.accepts m.header.labels).find? r.eligible

theorem free_iff :
    r.Free m ↔ r.candidates.accepts m.header.labels = true ∧ r.eligible m = true := by
  refine ⟨fun h => ⟨?_, ?_⟩, fun h => .of_listed h.1 h.2⟩
  · have hmember : m.header.labels.get? memberLabel = none := by
      simpa [Machine.isMember, NameMap.contains] using h.unlabelled
    have howner : m.header.labels.get? ownerLabel = some r.group := h.owner
    simp [candidates, Selector.withAbsent, Selector.withIn, Selector.accepts_withExpression,
      Selector.Expression.accepts, hmember, howner]
  · simp [eligible, h.space, h.staying]

theorem first?_eq_some_iff (keyed : s.Keyed) :
    r.first? s = some m ↔ s.machines.get? m.header.key = some m ∧ r.Free m ∧
      ∀ m', s.machines.get? m'.header.key = some m' → r.Free m' →
        m' = m ∨ m.header.key < m'.header.key := by
  unfold first?
  rw [List.find?_filter, NameMap.find?_values_eq_some_iff]
  simp only [decide_eq_true_eq, ← free_iff]
  constructor
  · rintro ⟨key, hget, hfree, hleast⟩
    obtain rfl : m.header.key = key := keyed .machine key m hget
    refine ⟨hget, hfree, fun m' hget' hfree' => (hleast _ m' hget' hfree').imp_left fun heq => ?_⟩
    rw [heq, hget] at hget'
    exact (Option.some.inj hget').symm
  · rintro ⟨hget, hfree, hleast⟩
    refine ⟨m.header.key, hget, hfree, fun key' m' hget' hfree' => ?_⟩
    obtain rfl : m'.header.key = key' := keyed .machine key' m' hget'
    exact (hleast m' hget' hfree').imp_left fun heq => congrArg (·.header.key) heq

theorem first?_congr (r : Reservation) {s s' : Store} (h : s'.machines = s.machines) :
    r.first? s' = r.first? s := by
  unfold first?
  rw [h]

/-! ### Parts of a creation -/

/-- Nothing can go wrong when the candidates are listed. -/
theorem list_candidates (r : Reservation) (s : Store) : s.list .machine (some r.candidates) =
    .ok (s.machines.values.filter fun m => r.candidates.accepts m.header.labels) := by
  unfold Store.list
  rw [Store.mapM_read fun _ _ => rfl]
  rfl

theorem alone_check (now : Nat) : r.check.alone now s = (.ok (r.first? s), s) := by
  simp [-bind_pure_comp, check, Action.request, Action.call, Program.answerAlone, Call.perform,
    list_candidates, Call.during, first?]

theorem alone_awaitUntil (poll : Poll) (deadline past now : Nat) :
    (r.awaitUntil poll deadline past).alone now s =
      ((r.first? s).elim (.error (.notDiscovered r.key poll.timeout)) .ok, s) := by
  induction past using awaitUntil.induct poll deadline with
  | case1 past ih =>
    unfold awaitUntil
    cases h : r.first? s with
    | some m => simp [alone_check, h]
    | none =>
      by_cases hlate : deadline ≤ past
      · simp [alone_check, h, Action.request, Program.answerAlone, hlate]
      · have hrest := ih ⟨past, Nat.le_refl past⟩ hlate
        simpa [alone_check, h, Action.request, Program.answerAlone, hlate] using hrest

theorem alone_awaitMachine (poll : Poll) (now : Nat) : (r.awaitMachine poll).alone now s =
    ((r.first? s).elim (.error (.notDiscovered r.key poll.timeout)) .ok, s) :=
  alone_awaitUntil poll (0 + poll.timeout) 0 now

theorem alone_discover (keyed : s.Keyed) (poll : Poll) (now : Nat) :
    (r.discover poll).alone now s = match r.first? s with
      | none => ((r, .error (.notDiscovered r.key poll.timeout)), s)
      | some m => ((r.taking m, .ok (Kind.machine.bump m.joined)),
          s.put .machine (Kind.machine.bump m.joined)) := by
  have hawait := alone_awaitMachine (r := r) (s := s) poll now
  unfold Action.alone at hawait
  unfold discover
  show Program.alone now (Program.bind _ _) s = _
  rw [Program.alone_bind, hawait]
  cases h : r.first? s with
  | none => rfl
  | some m =>
    have current : s.Current .machine m.joined := ⟨m, ((first?_eq_some_iff keyed).1 h).1, rfl⟩
    have hlabel := Action.alone_updateMachine (current.accepts fun _ => rfl) now
    unfold Action.alone at hlabel
    show Program.alone now (Program.bind _ _) s = _
    rw [Program.alone_bind, hlabel]
    rfl

/-- What a rollback may report of a failure: the failure as such, or as the first of two. -/
def Reports (e x : Failure) : Prop := x = e ∨ ∃ cleanup, x = .compensationFailed e cleanup

/-- The end of a rollback: what follows the attempt to give back the replica count only makes an
answer of it. -/
private theorem alone_restored (r : Reservation) {e : Failure}
    {f : Except Failure Unit → Program Failure}
    (failed : ∀ cleanup, f (.error cleanup) = pure (.compensationFailed e cleanup))
    (done : f (.ok ()) = pure e) (now : Nat) (s : Store) :
    Reports e ((Program.bind r.restoreReplicas.run f).alone now s).1 := by
  rw [Program.alone_bind]
  cases (Program.alone now r.restoreReplicas.run s).1 with
  | error cleanup =>
    rw [failed]
    exact .inr ⟨cleanup, rfl⟩
  | ok _ =>
    rw [done]
    exact .inl rfl

theorem alone_rollback (r : Reservation) (e : Failure) (now : Nat) (s : Store) :
    Reports e ((r.rollback e).alone now s).1 := by
  unfold rollback
  cases r.machine with
  | none => exact r.alone_restored (fun _ => rfl) rfl now s
  | some m =>
    show Reports e (Program.alone now (Program.bind (releaseMachine m).run _) s).1
    rw [Program.alone_bind]
    cases (Program.alone now (releaseMachine m).run s).1 with
    | error cleanup => exact .inr ⟨cleanup, rfl⟩
    | ok _ => exact r.alone_restored (fun _ => rfl) rfl now _

/-- A request raises the count of a stored group that is managed and not full; otherwise it fails
and leaves the store as it is. -/
theorem alone_request (keyed : s.Keyed) (space name : String) (now : Nat) :
    (∃ g b, s.groups.get? (objectKey space name) = some g ∧ g.replicas = some b ∧
      b ≠ maxReplicas ∧ (request space name).alone now s =
        (.ok (fresh space name b), s.put .group (Kind.group.bump (g.scaled (b + 1))))) ∨
    ((∀ g b, s.groups.get? (objectKey space name) = some g → g.replicas = some b →
      b = maxReplicas) ∧ ∃ e, e.plain = true ∧ (request space name).alone now s = (.error e, s)) := by
  unfold request
  cases hg : s.groups.get? (objectKey space name) with
  | none =>
    refine .inr ⟨nofun, .store (.gettingGroup space name) (.notFound .group (objectKey space name)),
      rfl, ?_⟩
    simp [Action.call, Program.answerAlone, Call.perform, Store.get, Store.lookup, Store.table, hg,
      Call.during]
  | some g =>
    have hread := Action.alone_getGroup hg now
    cases hb : g.replicas with
    | none =>
      refine .inr ⟨fun g' b hg' hb' => ?_, .unmanaged (objectKey space name), rfl, ?_⟩
      · obtain rfl := Option.some.inj hg'
        rw [hb] at hb'
        cases hb'
      · simp [hread, hb]
    | some b =>
      by_cases hmax : b = maxReplicas
      · refine .inr ⟨fun g' b' hg' hb' => ?_, .misuse (.replicaOverflow (objectKey space name)), rfl,
          ?_⟩
        · obtain rfl := Option.some.inj hg'
          obtain rfl := Option.some.inj (hb.symm.trans hb')
          exact hmax
        · simp [hread, hb, hmax]
      · have current : s.Current .group (g.scaled (b + 1)) := ⟨g, keyed.stored .group hg, rfl⟩
        have hwrite := Action.alone_updateGroup (current.accepts fun _ => rfl) now
        unfold MachineGroup.scaled at hwrite
        refine .inl ⟨g, b, rfl, hb, hmax, ?_⟩
        simp [-bind_pure_comp, hread, hb, hmax, hwrite, fresh, MachineGroup.scaled]

end Reservation

@[simp] theorem Claim.binding?_bound (c : Claim) (key : String) :
    (c.bound key).binding? = some key := NameMap.get?_insert_self ..

/-- The claim with the status of a machine of a type that has a provider id. -/
def Claim.served (c : Claim) (id : String) (τ : MachineType) : Claim :=
  { c with
    header := { c.header with labels := c.header.labels.insertAll τ.labels.entries }
    providerId := id
    capacity := τ.capacity
    allocatable := τ.allocatable }

/-- The stored machine that the binding of a claim is read as. -/
def Claim.boundMachine? (claim : Claim) (s : Store) : Option Machine :=
  match claim.binding?.map Binding.parse with
  | some (.ok (space, name)) => s.machines.get? (objectKey space name)
  | _ => none

namespace Provider

variable {p : Provider} {claim : Claim} {s : Store} {τ : MachineType}

/-- An answer that is a plain failure, or one that a rollback reports for it. -/
def Fails {α : Type} (x : Except Failure α) : Prop :=
  ∃ e y, e.plain = true ∧ Reservation.Reports e y ∧ x = .error y

theorem Fails.of_plain {α : Type} {e : Failure} (he : e.plain = true) :
    Fails (α := α) (.error e) := ⟨e, e, he, .inl rfl, rfl⟩

/-- A failure does not come from a machine without a provider id. -/
theorem Fails.ne_missingProviderId {α : Type} {x : Except Failure α} (h : Fails x) (key : String) :
    x ≠ .error (.missingProviderId key) := by
  obtain ⟨e, y, he, rfl | ⟨cleanup, rfl⟩, rfl⟩ := h
  · rintro ⟨⟩
    cases he
  · exact nofun

theorem Fails.ne_ok {α : Type} {x : Except Failure α} (h : Fails x) (a : α) : x ≠ .ok a := by
  obtain ⟨e, y, _, _, rfl⟩ := h
  exact nofun

theorem alone_claimMachine (p : Provider) (claim : Claim) {r : Reservation} {m : Machine}
    (keyed : s.Keyed) (found : r.first? s = some m)
    (accepts : s.Accepts .claim (claim.bound m.header.key)) (now : Nat) :
    (p.claimMachine claim r).alone now s =
      (.ok (Kind.claim.bump (claim.bound m.header.key), Kind.machine.bump m.joined),
        (s.put .machine (Kind.machine.bump m.joined)).put .claim
          (Kind.claim.bump (claim.bound m.header.key))) := by
  have hdiscover := Reservation.alone_discover (r := r) keyed p.poll now
  rw [found] at hdiscover
  have haccepts : (s.put .machine (Kind.machine.bump m.joined)).Accepts .claim
      (claim.bound m.header.key) := accepts.congr rfl
  have hbind := Action.alone_updateClaim haccepts now
  unfold claimMachine
  simp [-bind_pure_comp, hdiscover, Action.request, Program.answerAlone, hbind]

theorem alone_claimMachine_fails (p : Provider) (claim : Claim) {r : Reservation}
    (keyed : s.Keyed)
    (h : ∀ m, r.first? s = some m → ¬ s.Accepts .claim (claim.bound m.header.key)) (now : Nat) :
    Fails ((p.claimMachine claim r).alone now s).1 := by
  have hdiscover := Reservation.alone_discover (r := r) keyed p.poll now
  unfold claimMachine
  cases hfirst : r.first? s with
  | none =>
    rw [hfirst] at hdiscover
    refine ⟨.notDiscovered r.key p.poll.timeout, _, rfl, r.alone_rollback _ now s, ?_⟩
    simp [hdiscover]
  | some m =>
    rw [hfirst] at hdiscover
    obtain haccepts | ⟨error, hrefused⟩ :=
      Store.update_cases (s.put .machine (Kind.machine.bump m.joined)) .claim
        (claim.bound m.header.key)
    · exact absurd (haccepts.congr rfl) (h m hfirst)
    · refine ⟨.store (.updatingClaim claim.header.name) error, _, rfl,
        (r.taking m).alone_rollback _ now (s.put .machine (Kind.machine.bump m.joined)), ?_⟩
      simp [-bind_pure_comp, hdiscover, Action.request, Action.call, Program.answerAlone,
        Call.perform, hrefused, Call.written]
      rfl

/-- Provides a claim with a machine of the group of a type. -/
def provide (p : Provider) (claim : Claim) (τ : MachineType) : Action Claim := do
  let r ← Reservation.request τ.groupSpace τ.groupName
  let (claim, machine) ← p.claimMachine claim r
  Action.ofExcept (populate claim machine τ)

/-- A claim can be bound to a machine of the group of a type: the group counts replicas, but not as
many as there can be, the machine is the first free one, and the store accepts the claim. -/
structure Binds (claim : Claim) (s : Store) (τ : MachineType) (g : MachineGroup) (b : Nat)
    (m : Machine) : Prop where
  group : s.groups.get? (objectKey τ.groupSpace τ.groupName) = some g
  count : g.replicas = some b
  room : b ≠ maxReplicas
  machine : (Reservation.fresh τ.groupSpace τ.groupName b).first? s = some m
  accepts : s.Accepts .claim (claim.bound m.header.key)

/-- The store after a claim was bound to a machine of a group that counted so many replicas. -/
def bindingStore (claim : Claim) (s : Store) (g : MachineGroup) (b : Nat) (m : Machine) : Store :=
  ((s.put .group (Kind.group.bump (g.scaled (b + 1)))).put .machine
    (Kind.machine.bump m.joined)).put .claim (Kind.claim.bump (claim.bound m.header.key))

/-! What is stored after the binding: each object is found under its key, and nothing else is new. -/

section

variable {g : MachineGroup} {b : Nat} {m : Machine}

@[simp] theorem groups_bindingStore : (bindingStore claim s g b m).groups =
    s.groups.insert g.header.key (Kind.group.bump (g.scaled (b + 1))) := rfl

@[simp] theorem machines_bindingStore : (bindingStore claim s g b m).machines =
    s.machines.insert m.header.key (Kind.machine.bump m.joined) := rfl

@[simp] theorem claims_bindingStore : (bindingStore claim s g b m).claims =
    s.claims.insert claim.header.key (Kind.claim.bump (claim.bound m.header.key)) := rfl

theorem Binds.key (keyed : s.Keyed) (h : Binds claim s τ g b m) :
    g.header.key = objectKey τ.groupSpace τ.groupName := keyed .group _ g h.group

theorem Binds.free (keyed : s.Keyed) (h : Binds claim s τ g b m) :
    (Reservation.fresh τ.groupSpace τ.groupName b).Free m :=
  ((Reservation.first?_eq_some_iff keyed).1 h.machine).2.1

theorem Binds.stored (keyed : s.Keyed) (h : Binds claim s τ g b m) :
    s.machines.get? m.header.key = some m :=
  ((Reservation.first?_eq_some_iff keyed).1 h.machine).1

/-- The machine of a bound claim names the group that it was taken from. -/
theorem Binds.owner (keyed : s.Keyed) (h : Binds claim s τ g b m) :
    (Kind.machine.bump m.joined).owner? = some τ.groupName := by
  rw [Machine.owner?_bump, Machine.owner?_joined]
  exact (h.free keyed).owner

theorem Binds.found (keyed : s.Keyed) (h : Binds claim s τ g b m) :
    (bindingStore claim s g b m).groups.get? (objectKey τ.groupSpace τ.groupName) =
      some (Kind.group.bump (g.scaled (b + 1))) := by
  rw [groups_bindingStore, h.key keyed, NameMap.get?_insert_self]

end

theorem alone_provide (p : Provider) {g : MachineGroup} {b : Nat} {m : Machine} (keyed : s.Keyed)
    (h : Binds claim s τ g b m) (now : Nat) : (p.provide claim τ).alone now s =
      (populate (Kind.claim.bump (claim.bound m.header.key)) (Kind.machine.bump m.joined) τ,
        bindingStore claim s g b m) := by
  unfold provide
  obtain ⟨g', b', hg', hb', -, hrequest⟩ | ⟨full, -⟩ :=
    Reservation.alone_request keyed τ.groupSpace τ.groupName now
  · obtain rfl := Option.some.inj (h.group.symm.trans hg')
    obtain rfl := Option.some.inj (h.count.symm.trans hb')
    have keyed' := keyed.put .group (Kind.group.bump (g.scaled (b + 1)))
    have hfirst : (Reservation.fresh τ.groupSpace τ.groupName b).first?
        (s.put .group (Kind.group.bump (g.scaled (b + 1)))) = some m :=
      (Reservation.first?_congr _ rfl).trans h.machine
    have hclaim := alone_claimMachine p claim keyed' hfirst (h.accepts.congr rfl) now
    simp [hrequest, hclaim, bindingStore]
  · exact absurd (full g b h.group h.count) h.room

theorem alone_provide_fails (p : Provider) (keyed : s.Keyed)
    (h : ∀ g b m, ¬ Binds claim s τ g b m) (now : Nat) :
    Fails ((p.provide claim τ).alone now s).1 := by
  unfold provide
  obtain ⟨g, b, hg, hb, hmax, hrequest⟩ | ⟨-, e, he, hrequest⟩ :=
    Reservation.alone_request keyed τ.groupSpace τ.groupName now
  · have keyed' := keyed.put .group (Kind.group.bump (g.scaled (b + 1)))
    have hnot : ∀ m, (Reservation.fresh τ.groupSpace τ.groupName b).first?
        (s.put .group (Kind.group.bump (g.scaled (b + 1)))) = some m →
        ¬ (s.put .group (Kind.group.bump (g.scaled (b + 1)))).Accepts .claim
          (claim.bound m.header.key) :=
      fun m hm haccepts => h g b m ⟨hg, hb, hmax, hm, haccepts.congr rfl⟩
    obtain ⟨e, y, he, hy, hfails⟩ := alone_claimMachine_fails p claim keyed' hnot now
    exact ⟨e, y, he, hy, by simp [hrequest, hfails]⟩
  · exact ⟨e, e, he, .inl rfl, by simp [hrequest]⟩

/-- What a creation reads before it chooses a group: the class of the claim, the types of the groups
that the class selects, and what the claim demands of labels. -/
structure Reads (p : Provider) (claim : Claim) (s : Store) (c : CapacityClass)
    (types : List MachineType) (constraints : Constraints) : Prop where
  named : ∃ name, claim.classRef = some name ∧ name ≠ "" ∧
    s.classes.get? (objectKey "" name) = some c
  sound : c.selector.bind (·.fault?) = none
  typed : p.typesOf c s = .ok types
  constrained : Constraints.ofDemands claim.demands = .ok constraints

theorem alone_resolveClass {name : String} {c : CapacityClass} (hname : name ≠ "")
    (hc : s.classes.get? (objectKey "" name) = some c) (owner : Owner) (now : Nat) :
    (resolveClass (some name) owner).alone now s = (.ok c, s) := by
  simp [resolveClass, hname, Action.call, Program.answerAlone, Call.perform, Store.get,
    Store.lookup, Store.table, hc, Store.read, Kind.reread]

private theorem list_selected {c : CapacityClass} (sound : c.selector.bind (·.fault?) = none)
    (s : Store) : s.list .group c.selector = .ok (selected c s) := by
  simp only [Store.list, sound]
  rw [Store.mapM_read fun _ _ => rfl]
  rfl

theorem alone_machineTypes (p : Provider) {c : CapacityClass}
    (sound : c.selector.bind (·.fault?) = none) (now : Nat) :
    (p.machineTypes c).alone now s = (p.typesOf c s, s) := by
  simp [machineTypes, typesOf, Action.call, Program.answerAlone, Call.perform,
    list_selected sound, Call.during]

/-- Alone, a creation first reads, and then either finds no group or provides the claim with a
machine of the least one that admits it. -/
theorem alone_createFresh {c : CapacityClass} {types : List MachineType}
    {constraints : Constraints} (h : p.Reads claim s c types constraints) (now : Nat) :
    (p.createFresh claim).alone now s = match choose types constraints claim.requests with
      | none => (.error (.insufficientCapacity claim.header.name types.length c.header.name), s)
      | some τ => (p.provide claim τ).alone now s := by
  obtain ⟨name, hname, hne, hc⟩ := h.named
  have hclass := alone_resolveClass hne hc (.claim claim.header.name) now
  have htypes := alone_machineTypes (s := s) p h.sound now
  rw [h.typed] at htypes
  unfold createFresh
  simp only [Action.alone_bind, hname, hclass, htypes, h.constrained, Action.alone_pure]
  cases choose types constraints claim.requests with
  | none => rfl
  | some τ => simp only [provide, Action.alone_bind]

/-- A creation that cannot read what it needs fails and leaves the store as it is. -/
theorem alone_createFresh_cases (p : Provider) (claim : Claim) (s : Store) (now : Nat) :
    (∃ c types constraints, p.Reads claim s c types constraints) ∨
      ∃ e, e.plain = true ∧ (p.createFresh claim).alone now s = (.error e, s) := by
  unfold createFresh
  cases hname : claim.classRef with
  | none => exact .inr ⟨_, rfl, rfl⟩
  | some name =>
    by_cases hne : name = ""
    · refine .inr ⟨.misuse (.emptyClass (.claim claim.header.name)), rfl, ?_⟩
      simp [resolveClass, hne]
    · cases hc : s.classes.get? (objectKey "" name) with
      | none =>
        refine .inr ⟨.misuse (.unknownClass name (.claim claim.header.name)), rfl, ?_⟩
        simp [resolveClass, hne, Action.call, Program.answerAlone, Call.perform, Store.get,
          Store.lookup, Store.table, hc]
      | some c =>
        have hclass := alone_resolveClass hne hc (.claim claim.header.name) now
        cases hsound : c.selector.bind (·.fault?) with
        | some fault =>
          have hlist : s.list .group c.selector = .error (.invalidSelector fault) := by
            simp only [Store.list, hsound]
          refine .inr ⟨.store .listingGroups (.invalidSelector fault), rfl, ?_⟩
          simp [hclass, machineTypes, Action.call, Program.answerAlone, Call.perform, hlist,
            Call.during]
        | none =>
          have htypes := alone_machineTypes (s := s) p hsound now
          cases htyped : p.typesOf c s with
          | error e =>
            rw [htyped] at htypes
            exact .inr ⟨e, plain_of_mapM_error htyped, by simp [hclass, htypes]⟩
          | ok types =>
            rw [htyped] at htypes
            cases hconstrained : Constraints.ofDemands claim.demands with
            | error e =>
              refine .inr ⟨.capacity (.readingDemands claim.header.name) e, rfl, ?_⟩
              simp [hclass, htypes]
            | ok constraints =>
              exact .inl ⟨c, types, constraints, ⟨name, hname, hne, hc⟩, hsound, htyped,
                hconstrained⟩

/-! ### Whole creations -/

theorem alone_create_of_unbound (p : Provider) (unbound : claim.binding? = none) (now : Nat) :
    (p.create claim).alone now s = (p.createFresh claim).alone now s := by
  unfold create
  dsimp only
  rw [alone_exclusively]
  simp [Action.request, Program.answerAlone, unbound]

theorem alone_create_of_bound (p : Provider) {b : String} (bound : claim.binding? = some b)
    (now : Nat) : (p.create claim).alone now s = (p.resume claim b).alone now s := by
  unfold create
  dsimp only
  rw [alone_exclusively]
  simp [Action.request, Program.answerAlone, bound]

/-- How a creation for an unbound claim ends: it fails before it has bound the claim, or it binds the
claim to a machine of the chosen group. -/
theorem alone_create_cases (p : Provider) (keyed : s.Keyed) (unbound : claim.binding? = none)
    (now : Nat) :
    Fails ((p.create claim).alone now s).1 ∨ ∃ c types constraints τ g b m,
      p.Reads claim s c types constraints ∧ choose types constraints claim.requests = some τ ∧
      MachineType.ofGroup p.propagation g = .ok τ ∧ Binds claim s τ g b m := by
  rw [alone_create_of_unbound p unbound]
  obtain ⟨c, types, constraints, hreads⟩ | ⟨e, he, hfailed⟩ := alone_createFresh_cases p claim s now
  · rw [alone_createFresh hreads]
    cases hchoose : choose types constraints claim.requests with
    | none => exact .inl (.of_plain rfl)
    | some τ =>
      by_cases hbinds : ∃ g b m, Binds claim s τ g b m
      · obtain ⟨g, b, m, hbinds⟩ := hbinds
        obtain ⟨g', hg', hτ⟩ := (mem_typesOf_iff hreads.typed τ).1 (mem_of_choose hchoose).1
        obtain rfl : g' = g :=
          Option.some.inj ((stored_of_selected keyed hg' hτ).symm.trans hbinds.group)
        exact .inr ⟨c, types, constraints, τ, g', b, m, hreads, hchoose, hτ, hbinds⟩
      · simp only [not_exists] at hbinds
        exact .inl (alone_provide_fails p keyed hbinds now)
  · rw [hfailed]
    exact .inl (.of_plain he)

theorem populate_of_providerId {u : Machine} {id : String} (hid : u.providerId = some id) (hne : id ≠ "")
    (c : Claim) (τ : MachineType) : populate c u τ = .ok (c.served id τ) := by
  simp [populate, hid, Claim.served, Option.filter, hne]

/-- Only a machine that has a provider id gives a status. -/
theorem populate_eq_ok_iff {u : Machine} {c c' : Claim} :
    populate c u τ = .ok c' ↔ ∃ id, u.providerId = some id ∧ id ≠ "" ∧ c' = c.served id τ := by
  constructor
  · intro h
    unfold populate at h
    split at h
    · cases h
    · rename_i id hfilter
      obtain ⟨hid, hne⟩ := Option.filter_eq_some_iff.1 hfilter
      exact ⟨id, hid, by simpa using hne, (Except.ok.inj h).symm⟩
  · rintro ⟨id, hid, hne, rfl⟩
    exact populate_of_providerId hid hne c τ

/-- A creation that binds its claim only has to fill in the status. -/
theorem alone_create_of_binds {c : CapacityClass} {types : List MachineType}
    {constraints : Constraints} {g : MachineGroup} {b : Nat} {m : Machine} (keyed : s.Keyed)
    (unbound : claim.binding? = none) (hreads : p.Reads claim s c types constraints)
    (hchoose : choose types constraints claim.requests = some τ) (hbinds : Binds claim s τ g b m)
    (now : Nat) : (p.create claim).alone now s =
      (populate (Kind.claim.bump (claim.bound m.header.key)) (Kind.machine.bump m.joined) τ,
        bindingStore claim s g b m) := by
  rw [alone_create_of_unbound p unbound, alone_createFresh hreads, hchoose]
  exact alone_provide p keyed hbinds now

/-- Fills in the status of a claim from its machine. -/
def finish (p : Provider) (claim : Claim) (machine : Machine) : Action Claim := do
  let group ← owningGroup machine
  let t ← Action.ofExcept (p.machineType (.typingGroup group.header.key) group)
  Action.ofExcept (populate claim machine t)

/-- Alone, a retry looks up the machine of the binding and only has to fill in the status. -/
theorem alone_create_again (p : Provider) {m : Machine} (h : claim.boundMachine? s = some m)
    (now : Nat) : (p.create claim).alone now s = (p.finish claim m).alone now s := by
  unfold Claim.boundMachine? at h
  split at h
  · rename_i space name hparsed
    obtain ⟨b, hb, hparse⟩ := Option.map_eq_some_iff.1 hparsed
    rw [alone_create_of_bound p hb]
    unfold resume finish
    simp [hparse, Action.call, Program.answerAlone, Call.perform, Store.get, Store.lookup,
      Store.table, h, Store.read, Kind.reread]
  · cases h

theorem alone_create_lost (p : Provider) {b : String} (hb : claim.binding? = some b)
    (h : claim.boundMachine? s = none) (now : Nat) :
    ∃ e, e.plain = true ∧ (p.create claim).alone now s = (.error e, s) := by
  unfold Claim.boundMachine? at h
  rw [alone_create_of_bound p hb]
  unfold resume
  cases hparse : Binding.parse b with
  | error e => exact ⟨e, Binding.plain_of_parse_error hparse, by simp⟩
  | ok place =>
    simp only [hb, Option.map_some, hparse] at h
    refine ⟨.notFound .machine b, rfl, ?_⟩
    simp [Action.call, Program.answerAlone, Call.perform, Store.get, Store.lookup, Store.table, h]

end Provider
end MachineClaims
