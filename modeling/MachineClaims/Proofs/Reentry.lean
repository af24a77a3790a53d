import MachineClaims.Proofs.Amounts
import MachineClaims.Proofs.Serve
import MachineClaims.Proofs.Undisturbed

/-!
# Creating again

A creation that is called again for the claim that it has bound comes to the same machine, the same
group and the same type, and so to the same status (`create_again`): at once, after the claim was
saved with its status, and after the machine got the provider id that the first call had missed.
-/

namespace MachineClaims

namespace Claim

variable {c : Claim} {id : String} {τ : MachineType}

@[simp] theorem served_served : (c.served id τ).served id τ = c.served id τ := by
  simp [served, NameMap.insertAll_insertAll]

@[simp] theorem served_bump :
    Kind.claim.bump (c.served id τ) = Claim.served (Kind.claim.bump c) id τ := rfl

theorem settled_served (h : c.Settled) (hτ : τ.capacity.Settled ∧ τ.allocatable = τ.capacity) :
    (c.served id τ).Settled :=
  ⟨h.requests, hτ.1, by rw [show (c.served id τ).allocatable = τ.capacity from hτ.2]; exact hτ.1⟩

theorem boundMachine?_of_parse {s : Store} {b space name : String} (hb : c.binding? = some b)
    (hparse : Binding.parse b = .ok (space, name)) :
    c.boundMachine? s = s.machines.get? (objectKey space name) := by
  unfold boundMachine?
  rw [hb, Option.map_some, hparse]

end Claim

namespace Provider

variable {p : Provider} {claim c : Claim} {s s' : Store} {τ : MachineType} {g : MachineGroup}
  {b : Nat} {m u : Machine}

/-- A retry that finds the machine of the claim, and the group of the type, gives the claim the
status of these. -/
theorem alone_retry (found : c.boundMachine? s = some u) (owner : u.owner? = some τ.groupName)
    (space : u.header.space = τ.groupSpace)
    (group : s.groups.get? (objectKey τ.groupSpace τ.groupName) = some g)
    (typed : MachineType.ofGroup p.propagation g = .ok τ) (now : Nat) :
    (p.create c).alone now s = (populate c u τ, s) := by
  have howning := alone_owningGroup owner (space ▸ group) now
  have htype : p.machineType (.typingGroup g.header.key) g = .ok τ := machineType_eq_ok_iff.2 typed
  rw [alone_create_again p found]
  simp [finish, howning, htype]

/-- The type of a group does not depend on its count. -/
theorem ofGroup_bump_scaled (policy : Propagation) (g : MachineGroup) (n : Nat) :
    MachineType.ofGroup policy (Kind.group.bump (g.scaled n)) = MachineType.ofGroup policy g := rfl

/-- A stored claim that becomes bound is read as it was written. -/
theorem lookup_bindingStore (stored : s.lookup .claim claim.header.key = .ok claim) :
    (bindingStore claim s g b m).lookup .claim claim.header.key =
      .ok (Kind.claim.bump (claim.bound m.header.key)) := by
  have settled : claim.Settled := Store.settled_of_lookup stored
  refine Store.lookup_of_settled ?_ ⟨settled.requests, settled.capacity, settled.allocatable⟩
  rw [claims_bindingStore, NameMap.get?_insert_self]

/-- The first free machine stays the first if only its provider id becomes another. -/
theorem Binds.put_providerId (keyed : s.Keyed) (h : Binds claim s τ g b m) (id : Option String) :
    Binds claim (s.put .machine { m with providerId := id }) τ g b { m with providerId := id } where
  group := h.group
  count := h.count
  room := h.room
  accepts := h.accepts.congr rfl
  machine := by
    have keyed' := keyed.put .machine { m with providerId := id }
    have hget : ∀ key, (s.put .machine { m with providerId := id }).machines.get? key =
        if key = m.header.key then some { m with providerId := id } else s.machines.get? key :=
      Store.get?_table_put s .machine { m with providerId := id }
    obtain ⟨-, hfree, hfirst⟩ := (Reservation.first?_eq_some_iff keyed).1 h.machine
    refine (Reservation.first?_eq_some_iff keyed').2 ⟨?_, ?_, fun m' hm' hfree' => ?_⟩
    · rw [hget, if_pos rfl]
    · exact ⟨hfree.unlabelled, hfree.owner, hfree.space, hfree.staying⟩
    · rw [hget] at hm'
      split at hm'
      · exact .inl (Option.some.inj hm').symm
      · rename_i hne
        obtain rfl | hlt := hfirst m' hm' hfree'
        · exact absurd rfl hne
        · exact .inr hlt

/-- A creation gives a claim back and leaves the store as it is, at any time. -/
def Returns (p : Provider) (c : Claim) (s : Store) (c' : Claim) : Prop :=
  ∀ now, (p.create c).alone now s = (.ok c', s)

/-! ### After a creation that has bound its claim

The store may have changed since, but not the groups; and the binding still leads to the machine. -/

section

variable {s₁ : Store} {c' : Claim} {id : String}

theorem returns_of_binds (keyed : s.Keyed) (h : Binds claim s τ g b m)
    (typed : MachineType.ofGroup p.propagation g = .ok τ)
    (groups : s₁.groups = (bindingStore claim s g b m).groups)
    (found : c.boundMachine? s₁ = some u) (owner : u.owner? = (Kind.machine.bump m.joined).owner?)
    (space : u.header.space = m.header.space) (populated : populate c u τ = .ok c') :
    p.Returns c s₁ c' := by
  have hgroup : s₁.groups.get? (objectKey τ.groupSpace τ.groupName) =
      some (Kind.group.bump (g.scaled (b + 1))) := groups ▸ h.found keyed
  have hspace : u.header.space = τ.groupSpace := space.trans (h.free keyed).space
  have howner : u.owner? = some τ.groupName := owner.trans (h.owner keyed)
  have htyped := (ofGroup_bump_scaled p.propagation g (b + 1)).trans typed
  intro now
  rw [alone_retry found howner hspace hgroup htyped now, populated]

/-- After the claim was saved with its status. -/
theorem returns_saved (keyed : s.Keyed) (h : Binds claim s τ g b m)
    (typed : MachineType.ofGroup p.propagation g = .ok τ)
    (stored : s.lookup .claim claim.header.key = .ok claim)
    (parsed : Binding.parse m.header.key = .ok (m.header.space, m.header.name))
    (hid : m.providerId = some id) (hne : id ≠ "")
    (hc : c = Kind.claim.bump (claim.bound m.header.key)) :
    ∃ s'', (bindingStore claim s g b m).update .claim (c.served id τ) =
        .ok (Kind.claim.bump (c.served id τ), s'') ∧
      s''.lookup .claim claim.header.key = .ok (Kind.claim.bump (c.served id τ)) ∧
      p.Returns (Kind.claim.bump (c.served id τ)) s'' (Kind.claim.bump (c.served id τ)) := by
  have hread : (bindingStore claim s g b m).lookup .claim claim.header.key = .ok c :=
    hc ▸ lookup_bindingStore stored
  have hkey : c.header.key = claim.header.key := by rw [hc]; rfl
  have hbinding : c.binding? = some m.header.key := by rw [hc]; exact claim.binding?_bound _
  have haccepts : (bindingStore claim s g b m).Accepts .claim (c.served id τ) :=
    ⟨c, by rw [show Kind.claim.key (c.served id τ) = claim.header.key from hkey, hread], rfl⟩
  have hsettled : (c.served id τ).Settled :=
    Claim.settled_served (Store.settled_of_lookup hread) (MachineType.settled_of_ofGroup typed)
  refine ⟨_, Store.update_of_accepts haccepts, ?_, ?_⟩
  · refine Store.lookup_of_settled ?_ ⟨hsettled.requests, hsettled.capacity, hsettled.allocatable⟩
    rw [← hkey]
    exact NameMap.get?_insert_self ..
  · have hfound : (Kind.claim.bump (c.served id τ)).boundMachine?
        ((bindingStore claim s g b m).put .claim (Kind.claim.bump (c.served id τ))) =
        some (Kind.machine.bump m.joined) := by
      have hsaved : Claim.binding? (Kind.claim.bump (c.served id τ)) = some m.header.key := hbinding
      rw [Claim.boundMachine?_of_parse hsaved parsed]
      exact NameMap.get?_insert_self ..
    refine returns_of_binds keyed h typed rfl hfound rfl rfl ?_
    rw [populate_of_providerId (u := Kind.machine.bump m.joined) hid hne, Claim.served_bump,
      Claim.served_served]

/-- If the machine had had a provider id from the start. -/
theorem create_numbered {class' : CapacityClass} {types : List MachineType}
    {constraints : Constraints} (keyed : s.Keyed) (unbound : claim.binding? = none)
    (hreads : p.Reads claim s class' types constraints)
    (hchoose : choose types constraints claim.requests = some τ) (h : Binds claim s τ g b m)
    (hne : id ≠ "") (hc : c = Kind.claim.bump (claim.bound m.header.key)) (now : Nat) :
    (p.create claim).alone now (s.put .machine { m with providerId := some id }) =
      (.ok (c.served id τ), bindingStore claim (s.put .machine { m with providerId := some id }) g b
        { m with providerId := some id }) := by
  have keyed' := keyed.put .machine { m with providerId := some id }
  have hreads' : p.Reads claim (s.put .machine { m with providerId := some id }) class' types
      constraints := ⟨hreads.named, hreads.sound, hreads.typed, hreads.constrained⟩
  have hbinds' := h.put_providerId keyed (some id)
  rw [alone_create_of_binds keyed' unbound hreads' hchoose hbinds' now, hc]
  exact Prod.ext (populate_of_providerId rfl hne _ τ) rfl

/-- After the machine got its provider id. -/
theorem returns_numbered (keyed : s.Keyed) (h : Binds claim s τ g b m)
    (typed : MachineType.ofGroup p.propagation g = .ok τ)
    (parsed : Binding.parse m.header.key = .ok (m.header.space, m.header.name))
    (hbinding : c.binding? = some m.header.key) (hne : id ≠ "") (version : Nat) :
    p.Returns c ((bindingStore claim s g b m).put .machine
      (Kind.machine.withVersion { Kind.machine.bump m.joined with providerId := some id } version))
      (c.served id τ) := by
  have hfound : c.boundMachine? ((bindingStore claim s g b m).put .machine
      (Kind.machine.withVersion { Kind.machine.bump m.joined with providerId := some id } version)) =
      some (Kind.machine.withVersion { Kind.machine.bump m.joined with providerId := some id }
        version) := by
    rw [Claim.boundMachine?_of_parse hbinding parsed]
    exact NameMap.get?_insert_self ..
  exact returns_of_binds keyed h typed rfl hfound rfl rfl (populate_of_providerId rfl hne c τ)

end

end Provider

/-- A creation that has bound a claim and is called again comes to the same end. If it gave back a
claim, it gives back the same claim, also after that was saved. If the machine had no provider id
yet, it gives back what the first call would have given back if the machine had had its id. -/
theorem create_again {p : Provider} {claim c : Claim} {s s' : Store} {u : Machine} {now : Nat}
    {x : Except Failure Claim} (keyed : s.Keyed)
    (stored : s.lookup .claim claim.header.key = .ok claim) (unbound : claim.binding? = none)
    (run : (p.create claim).alone now s = (x, s'))
    (written : s'.lookup .claim claim.header.key = .ok c) (bound : c.binding? = some u.header.key)
    (machine : s'.machines.get? u.header.key = some u)
    (parsed : Binding.parse u.header.key = .ok (u.header.space, u.header.name)) :
    (∀ c', x = .ok c' → p.Returns c s' c' ∧
      ∃ s'', s'.update .claim c' = .ok (Kind.claim.bump c', s'') ∧
        s''.lookup .claim claim.header.key = .ok (Kind.claim.bump c') ∧
        p.Returns (Kind.claim.bump c') s'' (Kind.claim.bump c')) ∧
    ∀ key, x = .error (.missingProviderId key) → ∀ id version, id ≠ "" →
      ∃ c' m s₁, s.machines.get? u.header.key = some m ∧
        (p.create claim).alone now (s.put .machine { m with providerId := some id }) =
          (.ok c', s₁) ∧
        p.Returns c
          (s'.put .machine (Kind.machine.withVersion { u with providerId := some id } version)) c' := by
  obtain hfails | ⟨_, types, constraints, τ, g, b, m, hreads, hchoose, typed, hbinds⟩ :=
    Provider.alone_create_cases p keyed unbound now
  · rw [run] at hfails
    exact ⟨fun c' hx => absurd hx (hfails.ne_ok c'),
      fun key hx => absurd hx (hfails.ne_missingProviderId key)⟩
  have hcreate := Provider.alone_create_of_binds keyed unbound hreads hchoose hbinds now
  obtain ⟨rfl, rfl⟩ := Prod.mk.inj (run.symm.trans hcreate)
  have hc : c = Kind.claim.bump (claim.bound m.header.key) :=
    Except.ok.inj (written.symm.trans (Provider.lookup_bindingStore stored))
  have hbinding : c.binding? = some m.header.key := by rw [hc]; exact claim.binding?_bound _
  have hkey : m.header.key = u.header.key := Option.some.inj (hbinding.symm.trans bound)
  obtain rfl : Kind.machine.bump m.joined = u := by
    rw [Provider.machines_bindingStore, ← hkey, NameMap.get?_insert_self] at machine
    exact Option.some.inj machine
  rw [← hc]
  constructor
  · intro c' hx
    obtain ⟨id, hid, hne, rfl⟩ := Provider.populate_eq_ok_iff.1 hx
    have hfound := (Claim.boundMachine?_of_parse hbinding parsed).trans machine
    exact ⟨Provider.returns_of_binds keyed hbinds typed rfl hfound rfl rfl hx,
      Provider.returns_saved keyed hbinds typed stored parsed hid hne hc⟩
  · intro key _ id version hne
    exact ⟨c.served id τ, m, _, hbinds.stored keyed,
      Provider.create_numbered keyed unbound hreads hchoose hbinds hne hc now,
      Provider.returns_numbered keyed hbinds typed parsed hbinding hne version⟩

/-- The small store with a claim and with a machine that has no provider id yet. -/
def Store.unnumbered : Store :=
  (Store.small.put .machine (Kind.machine.bump (.new "ns" "worker-1" "workers"))).put .claim
    (Kind.claim.bump .sample)

theorem Store.keyed_unnumbered : Store.unnumbered.Keyed := (keyed_small.put .machine _).put .claim _

/-- A first creation for the claim of the samples. -/
private def firstRun (s : Store) : Except Failure Claim × Store :=
  (Provider.sample.create (Kind.claim.bump .sample)).alone 0 s

/-- A claim that gets its status at once, and one whose machine has no provider id yet. -/
theorem create_again_workers :
    ∃ c, c = Kind.claim.bump ((Kind.claim.bump .sample).bound "ns/worker-1") ∧
      (∃ c' s', (Provider.sample.create (Kind.claim.bump .sample)).alone 0 .claimed = (.ok c', s') ∧
        c'.providerId = "vm-1" ∧ Provider.sample.Returns c s' c') ∧
      ∃ s' u, (Provider.sample.create (Kind.claim.bump .sample)).alone 0 .unnumbered =
          (.error (.missingProviderId "ns/worker-1"), s') ∧
        s'.machines.get? "ns/worker-1" = some u ∧
        ∀ id version, id ≠ "" → ∃ c', Provider.sample.Returns c (s'.put .machine
          (Kind.machine.withVersion { u with providerId := some id } version)) c' := by
  let c : Claim := Kind.claim.bump ((Kind.claim.bump .sample).bound "ns/worker-1")
  have hbound : c.binding? = some "ns/worker-1" := by decide +kernel
  have hparse : Binding.parse "ns/worker-1" = .ok ("ns", "worker-1") := by decide +kernel
  refine ⟨c, rfl, ?_, ?_⟩
  · obtain ⟨c', s', u, hrun, hid, hlookup, hkey, hu, hname⟩ : ∃ c' s' u,
        firstRun .claimed = (.ok c', s') ∧ c'.providerId = "vm-1" ∧
          s'.lookup .claim Claim.sample.header.key = .ok c ∧ u.header.key = "ns/worker-1" ∧
          s'.machines.get? "ns/worker-1" = some u ∧
          (u.header.space, u.header.name) = ("ns", "worker-1") :=
      ⟨(firstRun .claimed).1.toOption.getD default, (firstRun .claimed).2,
        ((firstRun .claimed).2.machines.get? "ns/worker-1").getD default, by decide +kernel,
        by decide +kernel, by decide +kernel, by decide +kernel, by decide +kernel,
        by decide +kernel⟩
    obtain ⟨hagain, -⟩ := create_again Store.keyed_claimed (by decide +kernel) rfl hrun hlookup
      (hkey ▸ hbound) (hkey ▸ hu) (by rw [hkey, hname, hparse])
    exact ⟨c', s', hrun, hid, (hagain c' rfl).1⟩
  · obtain ⟨s', u, hrun, hlookup, hkey, hu, hname⟩ : ∃ s' u,
        firstRun .unnumbered = (.error (.missingProviderId "ns/worker-1"), s') ∧
          s'.lookup .claim Claim.sample.header.key = .ok c ∧ u.header.key = "ns/worker-1" ∧
          s'.machines.get? "ns/worker-1" = some u ∧
          (u.header.space, u.header.name) = ("ns", "worker-1") :=
      ⟨(firstRun .unnumbered).2,
        ((firstRun .unnumbered).2.machines.get? "ns/worker-1").getD default, by decide +kernel,
        by decide +kernel, by decide +kernel, by decide +kernel, by decide +kernel⟩
    obtain ⟨-, hlater⟩ := create_again Store.keyed_unnumbered (by decide +kernel) rfl hrun hlookup
      (hkey ▸ hbound) (hkey ▸ hu) (by rw [hkey, hname, hparse])
    refine ⟨s', u, hrun, hu, fun id version hne => ?_⟩
    obtain ⟨c', -, -, -, -, hreturns⟩ := hlater _ rfl id version hne
    exact ⟨c', hreturns⟩

end MachineClaims
