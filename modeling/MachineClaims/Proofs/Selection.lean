import MachineClaims.Proofs.Requests
import MachineClaims.Proofs.Serve
import MachineClaims.Proofs.Undisturbed

/-!
# Which group and which machine a claim gets

From its first request for one more replica on, a creation asks for a single group, also when it has
to take back what it did (`Provider.onGroup_provide`). This is the least of the groups that are
eligible, and which one that is depends neither on the order in which they are listed nor on any
other group (`Provider.choose_of_lists`). The machine is the first spare one of that group. All of it
is put together in `create_selects_least`.
-/

namespace MachineClaims

namespace Reservation

variable {s : Store} {key : String}

/-! ### Requests that are about the group of the reservation -/

/-- A group that was read has the key it was read under. -/
private theorem key_of_getGroup (keyed : s.Keyed) {space name : String} {now : Nat}
    {g : MachineGroup} (h : ((Action.call (.getGroup space name)).alone now s).1 = .ok g) :
    g.header.key = objectKey space name := by
  have hread : Call.during (.gettingGroup space name) (s.get .group space name) = .ok g := h
  cases hget : s.get .group space name with
  | error e =>
    rw [hget] at hread
    cases hread
  | ok g' =>
    rw [hget] at hread
    obtain rfl := Except.ok.inj hread
    obtain ⟨stored, hstored, hheader⟩ := Store.lookup_ok hget
    have hkey : stored.header.key = objectKey space name := keyed .group _ stored hstored
    have hsame : g'.header = stored.header := hheader
    rw [hsame, hkey]

theorem onGroup_request (keyed : s.Keyed) (space name : String) (now : Nat) :
    OnGroup (objectKey space name) ((request space name).requests now s) := by
  unfold request
  refine Action.onGroup_bind.2 ⟨Action.onGroup_call fun _ h => (Option.some.inj h).symm, ?_⟩
  intro g hg
  have hkey := key_of_getGroup keyed hg
  cases hb : g.replicas with
  | none => exact onGroup_nil
  | some b =>
    by_cases hmax : b = maxReplicas
    · simp only [hmax, if_true]
      exact onGroup_nil
    · simp only [hmax, if_false]
      refine Action.onGroup_bind.2 ⟨Action.onGroup_call fun _ h => ?_, fun _ _ => onGroup_nil⟩
      exact (Option.some.inj h).symm.trans hkey

theorem onGroup_check (r : Reservation) (now : Nat) : OnGroup key (r.check.requests now s) := by
  unfold check
  refine Action.onGroup_bind.2 ⟨Action.onGroup_request nofun, fun cancelled _ => ?_⟩
  cases cancelled with
  | true => exact onGroup_nil
  | false => exact Action.onGroup_bind.2 ⟨Action.onGroup_call nofun, fun _ _ => onGroup_nil⟩

theorem onGroup_awaitUntil (r : Reservation) (poll : Poll) (deadline past now : Nat) :
    OnGroup key ((r.awaitUntil poll deadline past).requests now s) := by
  induction past using awaitUntil.induct poll deadline generalizing s with
  | case1 past ih =>
    unfold awaitUntil
    refine Action.onGroup_bind.2 ⟨r.onGroup_check now, fun found _ => ?_⟩
    cases found with
    | some m => exact onGroup_nil
    | none =>
      refine Action.onGroup_bind.2
        ⟨Action.onGroup_request (by simp [Request.group?]), fun instant _ => ?_⟩
      by_cases hlate : deadline ≤ instant.1
      · simp only [if_pos hlate]
        exact onGroup_nil
      · simp only [if_neg hlate]
        refine Action.onGroup_bind.2
          ⟨Action.onGroup_request (by simp [Request.group?]), fun cancelled _ => ?_⟩
        cases cancelled with
        | true => exact onGroup_nil
        | false => exact ih instant hlate

theorem onGroup_awaitMachine (r : Reservation) (poll : Poll) (now : Nat) :
    OnGroup key ((r.awaitMachine poll).requests now s) :=
  Action.onGroup_bind.2 ⟨Action.onGroup_request nofun, fun _ _ =>
    Action.onGroup_bind.2 ⟨Action.onGroup_request nofun, fun _ _ =>
      r.onGroup_awaitUntil poll _ _ now⟩⟩

theorem onGroup_discover (r : Reservation) (poll : Poll) (now : Nat) :
    OnGroup key ((r.discover poll).requests now s) := by
  unfold discover
  refine Program.onGroup_bind (r.onGroup_awaitMachine poll now) ?_
  cases (Program.alone now (r.awaitMachine poll).run s).1 with
  | error e => exact onGroup_nil
  | ok m =>
    refine Program.onGroup_bind (Action.onGroup_call nofun) ?_
    cases (Program.alone now (Action.call (.updateMachine m.joined)).run _).1 with
    | error e => exact onGroup_nil
    | ok m' => exact onGroup_nil

theorem onGroup_releaseMachine (m : Machine) (now : Nat) :
    OnGroup key ((releaseMachine m).requests now s) := by
  unfold releaseMachine
  refine Action.onGroup_bind.2 ⟨Action.onGroup_call nofun, fun found _ => ?_⟩
  cases found with
  | none => exact onGroup_nil
  | some stored =>
    have hwrite : ∀ (released : Machine) (s : Store),
        OnGroup key (Action.requests now (do
          if stored.isMember || !stored.isMarked then
            let _ ← Action.call (.updateMachine released)) s) := by
      intro released s
      split
      · exact Action.onGroup_bind.2 ⟨Action.onGroup_call nofun, fun _ _ => onGroup_nil⟩
      · exact onGroup_nil
    dsimp only
    split
    · exact hwrite _ _
    · exact Action.onGroup_bind.2 ⟨Action.onGroup_request nofun, fun _ _ => hwrite _ _⟩

theorem onGroup_restoreReplicas (keyed : s.Keyed) (r : Reservation) (now : Nat) :
    OnGroup r.key (r.restoreReplicas.requests now s) := by
  unfold restoreReplicas
  refine Action.onGroup_bind.2 ⟨Action.onGroup_call fun _ h => (Option.some.inj h).symm, ?_⟩
  intro g hg
  have hkey := key_of_getGroup keyed hg
  refine Action.onGroup_bind.2 ⟨Action.onGroup_call fun _ h => ?_, fun _ _ => onGroup_nil⟩
  exact (Option.some.inj h).symm.trans hkey

/-- The end of a rollback, when the machine has been released. -/
private theorem onGroup_restored (keyed : s.Keyed) (r : Reservation)
    {f : Except Failure Unit → Program Failure} (now : Nat)
    (hf : ∀ x s, OnGroup r.key ((f x).requests now s)) :
    OnGroup r.key ((r.restoreReplicas.run >>= f).requests now s) :=
  Program.onGroup_bind (onGroup_restoreReplicas keyed r now) (hf _ _)

theorem onGroup_rollback (keyed : s.Keyed) (r : Reservation) (e : Failure) (now : Nat) :
    OnGroup r.key ((r.rollback e).requests now s) := by
  unfold rollback
  cases r.machine with
  | none =>
    refine onGroup_restored keyed r now fun x s => ?_
    cases x with
    | error cleanup => exact onGroup_nil
    | ok _ => exact onGroup_nil
  | some m =>
    refine Program.onGroup_bind (onGroup_releaseMachine m now) ?_
    have keyed' : (Program.alone now (releaseMachine m).run s).2.Keyed :=
      Program.keyed_alone now _ keyed
    cases (Program.alone now (releaseMachine m).run s).1 with
    | error cleanup => exact onGroup_nil
    | ok _ =>
      refine onGroup_restored keyed' r now fun x s => ?_
      cases x with
      | error cleanup => exact onGroup_nil
      | ok _ => exact onGroup_nil

end Reservation

namespace Provider

variable {p : Provider} {claim : Claim} {s : Store} {τ : MachineType}

theorem onGroup_claimMachine (keyed : s.Keyed) (claim : Claim) (r : Reservation) (now : Nat) :
    OnGroup r.key ((p.claimMachine claim r).requests now s) := by
  have hdiscover := Reservation.alone_discover (r := r) keyed p.poll now
  have hrollback : ∀ (r' : Reservation) (e : Failure) (s : Store), s.Keyed → r'.key = r.key →
      OnGroup r.key (Action.requests now
        (do throw (← ExceptT.lift (r'.rollback e)) : Action (Claim × Machine)) s) := by
    intro r' e s keyed hkey
    refine Action.onGroup_bind.2 ⟨?_, fun _ _ => onGroup_nil⟩
    rw [Action.requests_lift, ← hkey]
    exact r'.onGroup_rollback keyed e now
  unfold claimMachine
  refine Action.onGroup_bind.2 ⟨?_, fun found hfound => ?_⟩
  · rw [Action.requests_lift]
    exact r.onGroup_discover p.poll now
  rw [Action.alone_lift] at hfound ⊢
  obtain rfl := Except.ok.inj hfound
  cases hfirst : r.first? s with
  | none =>
    rw [hfirst] at hdiscover
    rw [hdiscover]
    exact hrollback r _ s keyed rfl
  | some m =>
    rw [hfirst] at hdiscover
    rw [hdiscover]
    have keyed' := keyed.put .machine (Kind.machine.bump m.joined)
    refine Action.onGroup_bind.2 ⟨Action.onGroup_request nofun, fun cancelled _ => ?_⟩
    cases cancelled with
    | true => exact hrollback (r.taking m) _ _ keyed' rfl
    | false =>
      refine Action.onGroup_bind.2 ⟨?_, fun outcome _ => ?_⟩
      · rw [Action.requests_outcome]
        exact Action.onGroup_call nofun
      · cases outcome with
        | error e => exact hrollback (r.taking m) e _ (Program.keyed_alone now _ keyed') rfl
        | ok c => exact onGroup_nil

theorem onGroup_provide (keyed : s.Keyed) (claim : Claim) (τ : MachineType) (now : Nat) :
    OnGroup (objectKey τ.groupSpace τ.groupName) ((p.provide claim τ).requests now s) := by
  unfold provide
  refine Action.onGroup_bind.2 ⟨Reservation.onGroup_request keyed _ _ now, fun r hr => ?_⟩
  have keyed' : ((Reservation.request τ.groupSpace τ.groupName).alone now s).2.Keyed :=
    Program.keyed_alone now _ keyed
  have hkey : r.key = objectKey τ.groupSpace τ.groupName := by
    obtain ⟨g, b, -, -, -, hrequest⟩ | ⟨-, e, -, hrequest⟩ :=
      Reservation.alone_request keyed τ.groupSpace τ.groupName now
    · rw [hrequest] at hr
      obtain rfl := Except.ok.inj hr
      rfl
    · rw [hrequest] at hr
      cases hr
  rw [← hkey]
  exact Action.onGroup_bind.2 ⟨onGroup_claimMachine keyed' claim r now, fun _ _ => onGroup_nil⟩

theorem requests_exclusively {α : Type} (waiting : Interrupted) (a : Action α) (now : Nat) :
    (exclusively waiting a).requests now s = .lock :: a.requests now s ++ [.unlock] := by
  unfold exclusively
  rw [Action.requests_bind]
  show [.lock] ++ Action.requests now _ s = _
  rw [if_pos rfl, Action.requests_bind, Action.requests_outcome, Action.alone_outcome]
  show _ ++ (_ ++ Action.requests now _ (a.alone now s).2) = _
  rw [Action.requests_bind]
  rfl

theorem requests_resolveClass {name : String} (hne : name ≠ "") (owner : Owner) (now : Nat) :
    (resolveClass (some name) owner).requests now s = [.call (.getClass name)] := by
  unfold resolveClass
  simp only [hne, if_false]
  refine (Action.requests_bind ..).trans ?_
  rw [Action.requests_outcome, Action.alone_outcome, Action.requests_call]
  dsimp only
  split <;> rfl

theorem requests_machineTypes (p : Provider) (c : CapacityClass) (now : Nat) :
    (p.machineTypes c).requests now s = [.call (.listGroups c.selector)] := by
  unfold machineTypes
  rw [Action.requests_bind, Action.requests_call]
  split <;> rfl

/-- Alone, a creation looks up the class, lists the groups and asks for what providing the claim with
a machine of the chosen group takes. -/
theorem requests_create {c : CapacityClass} {types : List MachineType} {constraints : Constraints}
    (unbound : claim.binding? = none) (h : p.Reads claim s c types constraints)
    (hchoose : choose types constraints claim.requests = some τ) (now : Nat) :
    ∃ name, (p.create claim).requests now s =
      [.lock, .cancelled, .call (.getClass name), .call (.listGroups c.selector)] ++
        (p.provide claim τ).requests now s ++ [.unlock] := by
  obtain ⟨name, hname, hne, hc⟩ := h.named
  have hclass := alone_resolveClass hne hc (.claim claim.header.name) now
  have htypes := alone_machineTypes (s := s) p h.sound now
  rw [h.typed] at htypes
  have hfresh : (p.createFresh claim).requests now s = .call (.getClass name) ::
      .call (.listGroups c.selector) :: (p.provide claim τ).requests now s := by
    unfold createFresh
    rw [hname, Action.requests_bind, requests_resolveClass hne, hclass]
    dsimp only
    rw [Action.requests_bind, requests_machineTypes, htypes]
    dsimp only
    rw [h.constrained, Action.requests_bind]
    dsimp only [Action.alone_pure]
    rw [hchoose]
    rfl
  refine ⟨name, ?_⟩
  unfold create
  dsimp only
  rw [requests_exclusively, Action.requests_bind, Action.requests_request]
  show .lock :: ([.cancelled] ++ Action.requests now _ s) ++ _ = _
  simp only [unbound, hfresh, Bool.false_eq_true, if_false]
  rfl

/-- Providing a claim with a machine begins with a look at the group. -/
theorem getGroup_mem_requests_provide (p : Provider) (claim : Claim) (τ : MachineType) (now : Nat) :
    .call (.getGroup τ.groupSpace τ.groupName) ∈ (p.provide claim τ).requests now s := by
  unfold provide Reservation.request
  rw [Action.requests_bind, Action.requests_bind]
  exact List.mem_append_left _ (List.mem_append_left _ (List.mem_singleton_self _))

/-- Alone, a creation asks for the group of the chosen type and for no other. -/
theorem onGroup_create {c : CapacityClass} {types : List MachineType} {constraints : Constraints}
    (keyed : s.Keyed) (unbound : claim.binding? = none) (h : p.Reads claim s c types constraints)
    (hchoose : choose types constraints claim.requests = some τ) (now : Nat) :
    .call (.getGroup τ.groupSpace τ.groupName) ∈ (p.create claim).requests now s ∧
      OnGroup (objectKey τ.groupSpace τ.groupName) ((p.create claim).requests now s) := by
  obtain ⟨name, hrequests⟩ := requests_create unbound h hchoose now
  have hmem := getGroup_mem_requests_provide (s := s) p claim τ now
  have hprovide := onGroup_provide (p := p) keyed claim τ now
  rw [hrequests]
  constructor
  · exact List.mem_append_left _ (List.mem_append_right _ hmem)
  · simp [Request.group?, hprovide]

/-- Providing succeeds only by binding the claim to the machine that it returns the claim with. -/
theorem binds_of_provide {claim' : Claim} {now : Nat} (keyed : s.Keyed)
    (hok : ((p.provide claim τ).alone now s).1 = .ok claim') :
    ∃ g b m, Binds claim s τ g b m ∧
      ((p.provide claim τ).alone now s).2 = bindingStore claim s g b m ∧
      claim'.binding? = some m.header.key := by
  by_cases hbinds : ∃ g b m, Binds claim s τ g b m
  · obtain ⟨g, b, m, hbinds⟩ := hbinds
    have hprovide := alone_provide p keyed hbinds now
    rw [hprovide] at hok ⊢
    obtain ⟨id, -, -, rfl⟩ := populate_eq_ok_iff.1 hok
    exact ⟨g, b, m, hbinds, rfl, claim.binding?_bound _⟩
  · simp only [not_exists] at hbinds
    exact absurd hok ((alone_provide_fails p keyed hbinds now).ne_ok claim')

/-! ### The group that is selected -/

/-- Where a group comes: by its name in lower case, then by its name space, then by its name. -/
def place (g : MachineGroup) : String ×ₗ String ×ₗ String :=
  toLex (Text.lowerCase g.header.name, toLex (g.header.space, g.header.name))

/-- A stored group that a class selects and whose type admits a claim. -/
structure Eligible (p : Provider) (claim : Claim) (s : Store) (c : CapacityClass)
    (constraints : Constraints) (g : MachineGroup) : Prop where
  stored : s.groups.get? g.header.key = some g
  selected : c.selector.all (·.accepts g.header.labels) = true
  admits : ∃ τ, MachineType.ofGroup p.propagation g = .ok τ ∧
    τ.admits constraints claim.requests = true

/-- A group is the least of those that are eligible. -/
structure Selects (p : Provider) (claim : Claim) (s : Store) (c : CapacityClass)
    (constraints : Constraints) (g : MachineGroup) : Prop where
  eligible : p.Eligible claim s c constraints g
  least : ∀ g', p.Eligible claim s c constraints g' → g' ≠ g → place g < place g'

variable {c : CapacityClass} {types : List MachineType} {constraints : Constraints}
  {g g' : MachineGroup}

theorem Selects.unique (h : p.Selects claim s c constraints g)
    (h' : p.Selects claim s c constraints g') : g = g' := by
  by_contra hne
  exact lt_asymm (h.least g' h'.eligible (Ne.symm hne)) (h'.least g h.eligible hne)

/-- Only one stored group is in a given place. -/
theorem eq_of_place_eq (hg : s.groups.get? g.header.key = some g)
    (hg' : s.groups.get? g'.header.key = some g') (h : place g = place g') : g = g' := by
  obtain ⟨-, hrest⟩ := Prod.mk.inj (toLex_inj.1 h)
  obtain ⟨hspace, hname⟩ := Prod.mk.inj (toLex_inj.1 hrest)
  have hkey : g.header.key = g'.header.key := by simp only [Header.key, hspace, hname]
  rw [hkey, hg'] at hg
  exact (Option.some.inj hg).symm

theorem rankKey_of_ofGroup (h : MachineType.ofGroup p.propagation g = .ok τ) :
    rankKey (rank τ) = place g := by
  obtain ⟨hname, hspace⟩ := name_of_ofGroup h
  unfold rankKey rank place
  rw [hname, hspace]

/-- The admitted types of a list are those of the eligible groups, in whatever order. -/
def Lists (p : Provider) (claim : Claim) (s : Store) (c : CapacityClass)
    (constraints : Constraints) (types : List MachineType) : Prop :=
  ∀ τ, τ ∈ types ∧ τ.admits constraints claim.requests = true ↔
    ∃ g, p.Eligible claim s c constraints g ∧ MachineType.ofGroup p.propagation g = .ok τ

theorem Reads.lists (keyed : s.Keyed) (h : p.Reads claim s c types constraints) :
    p.Lists claim s c constraints types := by
  intro τ
  rw [mem_typesOf_iff h.typed]
  constructor
  · rintro ⟨⟨g, hg, hτ⟩, hadmits⟩
    obtain ⟨hmem, hselected⟩ := List.mem_filter.1 hg
    exact ⟨g, ⟨(keyed.mem_values_iff .group g).1 hmem, hselected, τ, hτ, hadmits⟩, hτ⟩
  · rintro ⟨g, hg, hτ⟩
    obtain ⟨τ', hτ', hadmits⟩ := hg.admits
    obtain rfl := Except.ok.inj (hτ.symm.trans hτ')
    have hmem : g ∈ selected c s :=
      List.mem_filter.2 ⟨(keyed.mem_values_iff .group g).2 hg.stored, hg.selected⟩
    exact ⟨⟨g, hmem, hτ⟩, hadmits⟩

/-- What is chosen from a list of types depends only on the eligible groups: it is the type of the
least of them. -/
theorem choose_of_lists (h : p.Lists claim s c constraints types) :
    choose types constraints claim.requests = some τ ↔
      ∃ g, p.Selects claim s c constraints g ∧ MachineType.ofGroup p.propagation g = .ok τ := by
  have hmem : ∀ τ, τ ∈ types.filter (·.admits constraints claim.requests) ↔
      ∃ g, p.Eligible claim s c constraints g ∧ MachineType.ofGroup p.propagation g = .ok τ :=
    fun τ => List.mem_filter.trans (h τ)
  have distinct : ∀ τ ∈ types.filter (·.admits constraints claim.requests),
      ∀ υ ∈ types.filter (·.admits constraints claim.requests), rank τ = rank υ → τ = υ := by
    intro τ hτ υ hυ heq
    obtain ⟨g, hg, hgτ⟩ := (hmem τ).1 hτ
    obtain ⟨g', hg', hgυ⟩ := (hmem υ).1 hυ
    have hplace : place g = place g' := by
      rw [← rankKey_of_ofGroup hgτ, ← rankKey_of_ofGroup hgυ, heq]
    obtain rfl := eq_of_place_eq hg.stored hg'.stored hplace
    exact Except.ok.inj (hgτ.symm.trans hgυ)
  unfold choose
  rw [least_eq_some_iff distinct, hmem]
  constructor
  · rintro ⟨⟨g, hg, hgτ⟩, hleast⟩
    refine ⟨g, ⟨hg, fun g' hg' hne => ?_⟩, hgτ⟩
    obtain ⟨υ, hgυ, -⟩ := hg'.admits
    have hne' : υ ≠ τ := by
      rintro rfl
      refine hne (eq_of_place_eq hg'.stored hg.stored ?_)
      rw [← rankKey_of_ofGroup hgυ, ← rankKey_of_ofGroup hgτ]
    have hbefore := rankBefore_iff.1 (hleast υ ((hmem υ).2 ⟨g', hg', hgυ⟩) hne')
    rwa [rankKey_of_ofGroup hgτ, rankKey_of_ofGroup hgυ] at hbefore
  · rintro ⟨g, hg, hgτ⟩
    refine ⟨⟨g, hg.eligible, hgτ⟩, fun υ hυ hne => rankBefore_iff.2 ?_⟩
    obtain ⟨g', hg', hgυ⟩ := (hmem υ).1 hυ
    rw [rankKey_of_ofGroup hgτ, rankKey_of_ofGroup hgυ]
    refine hg.least g' hg' ?_
    rintro rfl
    exact hne (Except.ok.inj (hgυ.symm.trans hgτ))

/-- A machine of a group that nobody has taken and whose removal has not begun. -/
structure Spare (g : MachineGroup) (m : Machine) : Prop where
  unlabelled : m.isMember = false
  staying : m.isDeleting = false
  owner : m.owner? = some g.header.name
  space : m.header.space = g.header.space

/-- The first spare machine of a group, in the order of keys. -/
structure Offers (s : Store) (g : MachineGroup) (m : Machine) : Prop where
  stored : s.machines.get? m.header.key = some m
  spare : Spare g m
  first : ∀ m', s.machines.get? m'.header.key = some m' → Spare g m' →
    m' = m ∨ m.header.key < m'.header.key

theorem Binds.offers (keyed : s.Keyed) {b : Nat} {m : Machine} (h : Binds claim s τ g b m)
    (hτ : MachineType.ofGroup p.propagation g = .ok τ) : Offers s g m := by
  obtain ⟨hname, hspace⟩ := name_of_ofGroup hτ
  obtain ⟨hstored, hfree, hfirst⟩ := (Reservation.first?_eq_some_iff keyed).1 h.machine
  refine ⟨hstored, ⟨hfree.unlabelled, hfree.staying, ?_, ?_⟩, fun m' hm' hspare => ?_⟩
  · exact hname ▸ hfree.owner
  · exact hspace ▸ hfree.space
  · exact hfirst m' hm'
      ⟨hspare.unlabelled, hname.symm ▸ hspare.owner, hspace.symm ▸ hspare.space, hspare.staying⟩

end Provider

/-- Alone, a creation for a claim that is not bound asks for one group only, the least of those that
are eligible, whatever the order in which these are listed; and it gives the claim the first spare
machine of that group. If no group is eligible, it fails and changes nothing. -/
theorem create_selects_least {p : Provider} {claim : Claim} {s : Store} {c : CapacityClass}
    {name : String} {constraints : Constraints} (now : Nat) (keyed : s.Keyed)
    (unbound : claim.binding? = none) (named : claim.classRef = some name) (nonempty : name ≠ "")
    (stored : s.classes.get? (objectKey "" name) = some c)
    (sound : c.selector.bind (·.fault?) = none)
    (typed : ∀ g, s.groups.get? g.header.key = some g →
      c.selector.all (·.accepts g.header.labels) = true →
        ∃ τ, MachineType.ofGroup p.propagation g = .ok τ)
    (constrained : Constraints.ofDemands claim.demands = .ok constraints) :
    ((∀ g, ¬ p.Eligible claim s c constraints g) ∧ (p.create claim).alone now s =
      (.error (.insufficientCapacity claim.header.name (Provider.selected c s).length
        c.header.name), s)) ∨
    ∃ g, p.Selects claim s c constraints g ∧
      (∀ types, p.Lists claim s c constraints types → ∃ τ, MachineType.ofGroup p.propagation g =
        .ok τ ∧ Provider.choose types constraints claim.requests = some τ) ∧
      .call (.getGroup g.header.space g.header.name) ∈ (p.create claim).requests now s ∧
      OnGroup g.header.key ((p.create claim).requests now s) ∧
      (∀ key, key ≠ g.header.key →
        ((p.create claim).alone now s).2.groups.get? key = s.groups.get? key) ∧
      ∀ claim', ((p.create claim).alone now s).1 = .ok claim' →
        ∃ b m, g.replicas = some b ∧ Provider.Offers s g m ∧
          ((p.create claim).alone now s).2 = Provider.bindingStore claim s g b m ∧
          claim'.binding? = some m.header.key := by
  have htypes : ∀ g ∈ Provider.selected c s, ∃ τ, MachineType.ofGroup p.propagation g = .ok τ := by
    intro g hg
    obtain ⟨hmem, hselected⟩ := List.mem_filter.1 hg
    exact typed g ((keyed.mem_values_iff .group g).1 hmem) hselected
  obtain ⟨types, htyped⟩ := Provider.exists_typesOf htypes
  have hreads : p.Reads claim s c types constraints :=
    ⟨⟨name, named, nonempty, stored⟩, sound, htyped, constrained⟩
  have hlists := hreads.lists keyed
  have halone := Provider.alone_create_of_unbound (s := s) p unbound now
  rw [Provider.alone_createFresh hreads] at halone
  cases hchoose : Provider.choose types constraints claim.requests with
  | none =>
    rw [hchoose, Provider.length_typesOf htyped] at halone
    refine .inl ⟨fun g hg => ?_, halone⟩
    obtain ⟨τ, hτ, -⟩ := hg.admits
    obtain ⟨hmem, hadmits⟩ := (hlists τ).2 ⟨g, hg, hτ⟩
    have hnot := Provider.choose_eq_none_iff.1 hchoose τ hmem
    exact Bool.false_ne_true (hnot.symm.trans hadmits)
  | some τ =>
    simp only [hchoose] at halone
    obtain ⟨g, hg, hτ⟩ := (Provider.choose_of_lists hlists).1 hchoose
    obtain ⟨hname, hspace⟩ := Provider.name_of_ofGroup hτ
    have hkey : objectKey τ.groupSpace τ.groupName = g.header.key := by
      rw [hname, hspace]
      rfl
    obtain ⟨hasked, honly⟩ := Provider.onGroup_create keyed unbound hreads hchoose now
    rw [hkey] at honly
    rw [hname, hspace] at hasked
    refine .inr ⟨g, hg, fun types' h => ⟨τ, hτ, (Provider.choose_of_lists h).2 ⟨g, hg, hτ⟩⟩,
      hasked, honly, fun key hne => ?_, fun claim' hok => ?_⟩
    · exact Program.groups_alone now _ s fun r hr heq => hne (honly r hr key heq)
    · rw [halone] at hok ⊢
      obtain ⟨g', b, m, hbinds, hstore, hbinding⟩ := Provider.binds_of_provide keyed hok
      obtain rfl : g' = g := by
        have hgroup := hbinds.group
        rw [hkey, hg.eligible.stored] at hgroup
        exact (Option.some.inj hgroup).symm
      exact ⟨b, m, hbinds.count, hbinds.offers keyed hτ, hstore, hbinding⟩

/-- The small store with two claims and with a second group, whose name differs in case only. -/
def Store.cased : Store :=
  (Store.claimed.put .group (Kind.group.bump (.new "ns" "Workers" (some 1)))).put .machine
    (Kind.machine.bump { Machine.new "ns" "worker-2" "Workers" with providerId := some "vm-2" })

theorem Store.keyed_cased : Store.cased.Keyed := (keyed_claimed.put .group _).put .machine _

/-- Of the two groups the one with the capital letter is the least. -/
theorem create_selects_least_cased :
    ∃ c constraints g claim' s',
      (Provider.sample.create (Kind.claim.bump .sample)).alone 0 .cased = (.ok claim', s') ∧
        Provider.sample.Selects (Kind.claim.bump .sample) .cased c constraints g ∧
        g.header.key = "ns/Workers" ∧ claim'.binding? = some "ns/worker-2" := by
  let claim : Claim := Kind.claim.bump .sample
  let c : CapacityClass := Kind.capacityClass.bump (.new "small" none)
  obtain ⟨constraints, hconstrained⟩ :
    ∃ constraints, Constraints.ofDemands claim.demands = .ok constraints := ⟨_, rfl⟩
  have hunbound : claim.binding? = none := rfl
  have hnamed : claim.classRef = some "small" := rfl
  have hstored : Store.cased.classes.get? (objectKey "" "small") = some c := by decide +kernel
  have htyped : ∀ g ∈ Store.cased.groups.values,
      (MachineType.ofGroup Provider.sample.propagation g).toOption.isSome = true := by
    decide +kernel
  have hbinding : (((Provider.sample.create claim).alone 0 .cased).1.toOption.bind (·.binding?)) =
      some "ns/worker-2" := by decide +kernel
  have hraised : ((Provider.sample.create claim).alone 0 .cased).2.groups.get? "ns/Workers" ≠
      Store.cased.groups.get? "ns/Workers" := by decide +kernel
  have hselects := create_selects_least (p := Provider.sample) 0 Store.keyed_cased hunbound hnamed
    (by decide) hstored rfl (fun g hg _ => ?_) hconstrained
  · obtain ⟨x, s', hrun⟩ : ∃ x s', (Provider.sample.create claim).alone 0 .cased = (x, s') :=
      ⟨_, _, rfl⟩
    rw [hrun] at hbinding hraised hselects
    cases x with
    | error e => cases hbinding
    | ok claim' =>
      obtain ⟨-, hnone⟩ | ⟨g, hg, -, -, -, hframe, -⟩ := hselects
      · cases hnone
      · refine ⟨c, constraints, g, claim', s', hrun, hg, ?_, hbinding⟩
        by_contra hne
        exact hraised (hframe "ns/Workers" (Ne.symm hne))
  · have hsome := htyped g ((Store.keyed_cased.mem_values_iff .group g).2 hg)
    cases hτ : MachineType.ofGroup Provider.sample.propagation g with
    | error e =>
      rw [hτ] at hsome
      cases hsome
    | ok τ => exact ⟨τ, rfl⟩

end MachineClaims
