import MachineClaims.Proofs.Compensation
import MachineClaims.Proofs.Undisturbed

/-!
# A release undoes a creation

A fleet manager may add machines while a creation waits, as long as no two have the same provider id.
What it has added is read off the history (`Scene.deliveries`), and at every point of the creation
the store is the one from the start with these machines and with what the creation has written, in
any order (`Reversal.outline`). So the release that follows finds the machine by its provider id and
the group by the label of the machine, and takes back the one replica (`delete_reverses_create`).
-/

namespace MachineClaims

namespace Store

variable {s : Store}

/-- No two machines have the same provider id. -/
def Distinct (s : Store) : Prop :=
  ∀ key key' m m' id, s.machines.get? key = some m → s.machines.get? key' = some m' → id ≠ "" →
    m.providerId = some id → m'.providerId = some id → key = key'

theorem Distinct.congr {s' : Store} (h : s.Distinct) (same : s'.machines = s.machines) :
    s'.Distinct := by
  unfold Distinct
  rw [same]
  exact h

/-- A machine can be written again if it keeps its provider id. -/
theorem Distinct.put_machine (h : s.Distinct) {m m' : Machine}
    (hm : s.machines.get? m'.header.key = some m) (same : m'.providerId = m.providerId) :
    (s.put .machine m').Distinct := by
  have before : ∀ key m₁, (s.put .machine m').machines.get? key = some m₁ →
      ∃ m₀, s.machines.get? key = some m₀ ∧ m₁.providerId = m₀.providerId := by
    intro key m₁ h₁
    rw [machines_put_machine, NameMap.get?_insert] at h₁
    split at h₁
    · rename_i hkey
      obtain rfl := Option.some.inj h₁
      exact ⟨m, hkey ▸ hm, same⟩
    · exact ⟨m₁, h₁, rfl⟩
  intro key key' m₁ m₂ id h₁ h₂ hne hid hid'
  obtain ⟨n₁, hn₁, hsame₁⟩ := before key m₁ h₁
  obtain ⟨n₂, hn₂, hsame₂⟩ := before key' m₂ h₂
  exact h key key' n₁ n₂ id hn₁ hn₂ hne (hsame₁ ▸ hid) (hsame₂ ▸ hid')

/-- The one machine with a provider id is found by it. -/
theorem Distinct.find (h : s.Distinct) {m : Machine} {key id : String}
    (hm : s.machines.get? key = some m) (hid : m.providerId = some id) (hne : id ≠ "") :
    s.machines.values.find? (·.providerId == some id) = some m := by
  refine NameMap.find?_values_eq_some_iff.2 ⟨key, hm, by simp [hid], fun key' m' hm' hid' => ?_⟩
  exact .inl (h key' key m' m id hm' hm hne (by simpa using hid') hid)

/-- The store with machines added, the last of the list first. -/
def stocked (s : Store) (l : List Machine) : Store := l.foldr (fun m s => s.put .machine m) s

@[simp] theorem groups_stocked (s : Store) (l : List Machine) :
    (s.stocked l).groups = s.groups := by
  induction l with
  | nil => rfl
  | cons m l ih => exact ih

@[simp] theorem classes_stocked (s : Store) (l : List Machine) :
    (s.stocked l).classes = s.classes := by
  induction l with
  | nil => rfl
  | cons m l ih => exact ih

end Store

/-- A fleet manager adds a machine, and provider ids stay distinct. -/
inductive Scene.Delivers : Scene → Scene → Prop where
  | mk {w : Scene} {m m' : Machine} {s : Store}
    (created : w.store.create .machine m = .ok (m', s)) (distinct : s.Distinct) :
    Delivers w (w.record .foreign s)

/-- The machine that a fleet manager added. -/
def Event.delivery? (e : Event) : Option Machine :=
  match e.deed with
  | .foreign => e.after.machines.values.find? fun m => !e.before.machines.contains m.header.key
  | _ => none

/-- The machines that a fleet manager has added, the last first. -/
def Scene.deliveries (w : Scene) : List Machine := w.events.filterMap (·.delivery?)

namespace Scene

variable {w w' : Scene}

/-- A delivery as a step of the store. -/
structure Gets (w w' : Scene) (m : Machine) : Prop where
  new : w.store.machines.get? m.header.key = none
  store : w'.store = w.store.put .machine m
  deliveries : w'.deliveries = m :: w.deliveries
  distinct : w'.store.Distinct

theorem Delivers.gains (h : w.Delivers w') : w.store.Gains w'.store := by
  obtain @⟨m₀, m, s, created, -⟩ := h
  obtain ⟨hnew, rfl, rfl⟩ := Store.create_ok created
  exact ⟨Kind.machine.withVersion m₀ 1, hnew, rfl⟩

theorem Delivers.gets (keyed : w.store.Keyed) (h : w.Delivers w') : ∃ m, w.Gets w' m := by
  obtain @⟨m₀, m, s, created, distinct⟩ := h
  obtain ⟨hnew, hm, rfl⟩ := Store.create_ok created
  have hkey : m.header.key = m₀.header.key := by rw [hm]; rfl
  have hnew' : w.store.machines.get? m.header.key = none := hkey ▸ hnew
  refine ⟨m, hnew', rfl, ?_, distinct⟩
  have hdelivery : (Event.mk w.store .foreign (w.store.put .machine m)).delivery? = some m := by
    refine NameMap.find?_values_eq_some_iff.2 ⟨m.header.key, ?_, ?_, fun key m' hm' hfree => ?_⟩
    · exact NameMap.get?_insert_self ..
    · simp [NameMap.contains, hnew']
    · rw [Store.machines_put_machine, NameMap.get?_insert] at hm'
      split at hm'
      · rename_i heq
        exact .inl heq
      · have hkey' : m'.header.key = key := keyed .machine key m' hm'
        simp [NameMap.contains, hkey', hm'] at hfree
  exact List.filterMap_cons_some hdelivery

end Scene

namespace Reversal

/-- A caller works while a fleet manager adds machines. -/
def terms (me : Caller) : Terms := .beside Scene.Delivers me

variable {p : Provider} {claim : Claim} {s : Store} {me : Caller} {w w' : Scene} {r : Reservation}
  {g : MachineGroup} {m : Machine}

/-- The group of a reservation, as it was at the start. -/
structure Origin (p : Provider) (claim : Claim) (s : Store) (r : Reservation) (g : MachineGroup) :
    Prop where
  chosen : ∃ τ, p.chosen? claim s s = some τ ∧ τ.groupSpace = r.space ∧ τ.groupName = r.group
  stored : s.groups.get? r.key = some g
  key : g.header.key = r.key
  count : g.replicas = some r.baseline

/-- The store at the start with the machines that were added, and with one replica more in the
group. -/
def raised (s : Store) (l : List Machine) (r : Reservation) (g : MachineGroup) : Store :=
  (s.stocked l).put .group (Kind.group.bump (g.scaled (r.baseline + 1)))

/-- A machine that is to be taken was free when it was added, or at the start. -/
structure Took (s : Store) (l : List Machine) (r : Reservation) (m : Machine) : Prop where
  free : r.Free m
  stored : (s.stocked l).machines.get? m.header.key = some m

/-! ### The points of a creation, by the store and the machines that were added -/

/-- The count of the group has been raised. -/
def Reserved (p : Provider) (claim : Claim) (s : Store) (r : Reservation) (s' : Store)
    (l : List Machine) : Prop :=
  ∃ g, Origin p claim s r g ∧ s' = raised s l r g

/-- A machine has been labelled. -/
def Labelled (p : Provider) (claim : Claim) (s : Store) (r : Reservation) (s' : Store)
    (l : List Machine) : Prop :=
  ∃ g m, Origin p claim s r g ∧ r.machine = some (Kind.machine.bump m.joined) ∧ Took s l r m ∧
    s' = (raised s l r g).put .machine (Kind.machine.bump m.joined)

/-- The claim has been bound, and its status filled in. -/
def Provided (p : Provider) (claim : Claim) (s : Store) (c' : Claim) (s' : Store)
    (l : List Machine) : Prop :=
  ∃ r g m τ, Origin p claim s r g ∧ Took s l r m ∧
    s' = Provider.bindingStore claim (s.stocked l) g r.baseline m ∧
    Provider.populate (Kind.claim.bump (claim.bound m.header.key)) (Kind.machine.bump m.joined) τ =
      .ok c'

/-- What holds of the store and of the machines that were added, in a store that is keyed and has
distinct provider ids. -/
structure Point (Q : Store → List Machine → Prop) (w : Scene) : Prop where
  keyed : w.store.Keyed
  distinct : w.store.Distinct
  holds : Q w.store w.deliveries

/-- How a creation ends that gives back a claim. -/
def Final (p : Provider) (claim : Claim) (s : Store) : Except Failure Claim → Scene → Prop
  | .ok c' => Point (Provided p claim s c')
  | .error _ => fun _ => True

/-- A fact lasts if it survives that a machine is added. -/
theorem lasting_point (me : Caller) {Q : Store → List Machine → Prop}
    (h : ∀ s' l m, Q s' l → s'.machines.get? m.header.key = none →
      Q (s'.put .machine m) (m :: l)) : (terms me).Lasting (Point Q) where
  stable w w' hw step := by
    obtain ⟨m, hgets⟩ := Scene.Delivers.gets hw.keyed step
    have hQ := h _ _ m hw.holds hgets.new
    refine ⟨?_, hgets.distinct, ?_⟩
    · rw [hgets.store]
      exact hw.keyed.put .machine m
    · rw [hgets.store, hgets.deliveries]
      exact hQ
  quiet w c x _ hw := ⟨hw.keyed, hw.distinct, hw.holds⟩

/-- A machine with a new key does not replace one that is stored. -/
private theorem ne_of_new {s' : Store} {m m₀ : Machine} {key : String}
    (new : s'.machines.get? m.header.key = none) (stored : s'.machines.get? key = some m₀) :
    m.header.key ≠ key := by
  rintro rfl
  cases new.symm.trans stored

theorem Took.cons {l : List Machine} (h : Took s l r m) {m' : Machine}
    (hne : m'.header.key ≠ m.header.key) : Took s (m' :: l) r m where
  free := h.free
  stored := (NameMap.get?_insert_of_ne _ _ (Ne.symm hne)).trans h.stored

theorem raised_cons (s : Store) (l : List Machine) (r : Reservation) (g : MachineGroup)
    (m : Machine) : raised s (m :: l) r g = (raised s l r g).put .machine m := by
  show ((s.stocked l).put .machine m).put .group _ = ((s.stocked l).put .group _).put .machine m
  exact Store.put_comm_of_ne _ _ _ (by decide)

/-- A labelled machine and one that is added do not disturb each other. -/
theorem labelled_cons (s : Store) (l : List Machine) (r : Reservation) (g : MachineGroup)
    {m m' : Machine} (hne : m'.header.key ≠ m.header.key) :
    (raised s (m' :: l) r g).put .machine (Kind.machine.bump m.joined) =
      ((raised s l r g).put .machine (Kind.machine.bump m.joined)).put .machine m' := by
  rw [raised_cons]
  exact Store.put_comm _ _ _ fun _ => hne

theorem lasting_idle (s : Store) (me : Caller) :
    (terms me).Lasting (Point fun s' l => s' = s.stocked l) :=
  lasting_point me fun s' l m h _ => by
    rw [h]
    rfl

theorem lasting_reserved (p : Provider) (claim : Claim) (s : Store) (r : Reservation)
    (me : Caller) : (terms me).Lasting (Point (Reserved p claim s r)) :=
  lasting_point me fun s' l m ⟨g, horigin, hs'⟩ _ => by
    refine ⟨g, horigin, ?_⟩
    rw [hs', raised_cons]

theorem lasting_labelled (p : Provider) (claim : Claim) (s : Store) (r : Reservation)
    (me : Caller) : (terms me).Lasting (Point (Labelled p claim s r)) :=
  lasting_point me fun s' l m' ⟨g, m, horigin, hr, htook, hs'⟩ new => by
    have hstored : s'.machines.get? m.header.key = some (Kind.machine.bump m.joined) := by
      rw [hs']
      exact NameMap.get?_insert_self ..
    have hne := ne_of_new new hstored
    refine ⟨g, m, horigin, hr, htook.cons hne, ?_⟩
    rw [hs', labelled_cons s l r g hne]

theorem lasting_provided (p : Provider) (claim : Claim) (s : Store) (c' : Claim) (me : Caller) :
    (terms me).Lasting (Point (Provided p claim s c')) :=
  lasting_point me fun s' l m' ⟨r, g, m, τ, horigin, htook, hs', hpopulate⟩ new => by
    have hstored : s'.machines.get? m.header.key = some (Kind.machine.bump m.joined) := by
      rw [hs']
      exact NameMap.get?_insert_self ..
    have hne := ne_of_new new hstored
    refine ⟨r, g, m, τ, horigin, htook.cons hne, ?_, hpopulate⟩
    rw [hs']
    show _ = ((raised s (m' :: l) r g).put .machine (Kind.machine.bump m.joined)).put .claim _
    rw [labelled_cons s l r g hne]
    exact Store.put_comm_of_ne _ _ _ (by decide)

theorem lasting_final (p : Provider) (claim : Claim) (s : Store) (x : Except Failure Claim)
    (me : Caller) : (terms me).Lasting (Final p claim s x) := by
  cases x with
  | ok c' => exact lasting_provided p claim s c' me
  | error e => exact .const _ _

/-- What a call has read stays as it was read. -/
theorem lasting_read (me : Caller) {P : Store → Prop}
    (h : ∀ s₁ s₂, s₁.Gains s₂ → P s₁ → P s₂) : (terms me).Lasting fun w => P w.store where
  stable _ _ hP step := h _ _ step.gains hP
  quiet _ _ _ _ hP := hP

/-- A creation beside which a fleet manager adds machines. What there is to undo does not matter. -/
def outline (me : Caller) (p : Provider) (claim : Claim) (s : Store) :
    CreateOutline (terms me) p claim where
  chosen τ := p.chosen? claim s s = some τ
  idle := Point fun s' l => s' = s.stocked l
  knowsGroup key g w := w.store.groups.get? key = some g
  knows key m w := w.store.machines.get? key = some m
  reserved r := Point (Reserved p claim s r)
  labelled r := Point (Labelled p claim s r)
  undoing _ _ := True
  released _ _ := True
  final x := Final p claim s x
  lasting_idle := lasting_idle s me
  lasting_knowsGroup key g := by
    refine lasting_read me (P := fun s' => s'.groups.get? key = some g) fun s₁ s₂ hg h => ?_
    obtain ⟨m, -, rfl⟩ := hg
    exact h
  lasting_knows key m := by
    refine lasting_read me (P := fun s' => s'.machines.get? key = some m) fun s₁ s₂ hg h => ?_
    exact Compensation.get?_of_gains hg h
  lasting_reserved r := lasting_reserved p claim s r me
  lasting_labelled r := lasting_labelled p claim s r me
  lasting_undoing _ := .const _ _
  lasting_released _ := .const _ _
  lasting_final x := lasting_final p claim s x me
  choose τ w₁ w₂ h₁ h₂ hτ := by
    have hclasses : w₁.store.classes = s.classes := by rw [h₁.holds, Store.classes_stocked]
    have hgroups : w₂.store.groups = s.groups := by rw [h₂.holds, Store.groups_stocked]
    rwa [p.chosen?_congr claim hclasses hgroups] at hτ
  stop _ _ _ _ := trivial
  readGroup _ _ _ _ hg := hg
  raise τ g b w hτ h hg hb _ _ := by
    have hstored : s.groups.get? (objectKey τ.groupSpace τ.groupName) = some g := by
      rw [h.holds, Store.groups_stocked] at hg
      exact hg
    have hkey : g.header.key = objectKey τ.groupSpace τ.groupName := h.keyed .group _ g hg
    refine ⟨trivial, Scene.keyed_writeGroup h.keyed, h.distinct.congr rfl, g,
      ⟨⟨τ, hτ, rfl, rfl⟩, hstored, hkey, hb⟩, ?_⟩
    show w.store.put .group _ = _
    rw [h.holds]
    rfl
  list r m w h _ hm := (h.keyed.mem_values_iff .machine m).1 hm
  label r m w h hfree hm _ := by
    obtain ⟨g, horigin, hstore⟩ := h.holds
    have htook : Took s w.deliveries r m := ⟨hfree, by rw [hstore] at hm; exact hm⟩
    refine ⟨trivial, Scene.keyed_writeMachine h.keyed, h.distinct.put_machine hm rfl, g, m,
      ⟨horigin.chosen, horigin.stored, horigin.key, horigin.count⟩, rfl,
      ⟨⟨hfree.unlabelled, hfree.owner, hfree.space, hfree.staying⟩, htook.stored⟩, ?_⟩
    show w.store.put .machine _ = _
    rw [hstore]
    rfl
  refuse _ _ _ _ _ _ _ _ := trivial
  bind r m τ w h hr hτ _ := by
    obtain ⟨g, m₀, horigin, hr', htook, hstore⟩ := h.holds
    obtain rfl : Kind.machine.bump m₀.joined = m := Option.some.inj (hr'.symm.trans hr)
    refine ⟨trivial, ?_⟩
    cases hpopulate : Provider.populate _ _ τ with
    | error e => trivial
    | ok c' =>
      refine ⟨Scene.keyed_writeClaim h.keyed, h.distinct.congr rfl, r, g, m₀, τ, horigin, htook, ?_,
        hpopulate⟩
      show w.store.put .claim _ = _
      rw [hstore]
      rfl
  giveUp _ _ _ _ := trivial
  abandon _ _ _ := trivial
  reread _ _ _ _ _ _ hm := hm
  empty _ _ _ _ := trivial
  gone _ _ _ _ _ _ := trivial
  clean _ _ _ _ _ _ _ _ _ := trivial
  release _ _ _ _ _ _ _ _ _ _ := ⟨trivial, trivial⟩
  stuck _ _ _ _ _ := trivial
  rereadGroup _ _ _ _ hg := hg
  restore _ _ _ _ _ _ _ _ := ⟨trivial, trivial⟩
  half _ _ _ _ _ := trivial

/-! ### The release -/

section

variable {A : Store} {b : Nat} (claim : Claim) (now : Nat)

/-- Raising and lowering the count leaves a group as it was, but for its version. -/
theorem lowered_raised (hb : g.replicas = some b) :
    Kind.group.bump (MachineGroup.scaled (Kind.group.bump (g.scaled (b + 1))) b) =
      Kind.group.withVersion g (g.header.version + 2) := by
  obtain ⟨header, replicas, template⟩ := g
  obtain rfl : replicas = some b := hb
  rfl

/-- The machine of a claim after its release. -/
def condemnedMachine (m : Machine) (now : Nat) : Machine :=
  if m.isMarked then Kind.machine.bump m.joined
  else Kind.machine.bump ((Kind.machine.bump m.joined).marked (Text.decimal now))

theorem alike_condemnedMachine (m : Machine) (now : Nat) :
    Kind.machine.Alike (m.joined.condemned now) (condemnedMachine m now) := by
  unfold condemnedMachine Machine.condemned
  rw [Machine.isMarked_joined]
  split
  · exact Kind.alike_bump _
  · exact ⟨m.header.version + 1 + 1, rfl⟩

theorem markedStore_bindingStore (A : Store) (g : MachineGroup) (b : Nat) (m : Machine) :
    Provider.markedStore (Provider.bindingStore claim A g b m) (Kind.machine.bump m.joined) now =
      ((A.put .group (Kind.group.bump (g.scaled (b + 1)))).put .machine
        (condemnedMachine m now)).put .claim (Kind.claim.bump (claim.bound m.header.key)) := by
  unfold Provider.markedStore condemnedMachine
  rw [Machine.isMarked_bump, Machine.isMarked_joined]
  split
  · rfl
  · have hkey : Kind.machine.key (Kind.machine.bump
        ((Kind.machine.bump m.joined).marked (Text.decimal now))) =
        Kind.machine.key (Kind.machine.bump m.joined) := rfl
    unfold Provider.bindingStore
    rw [Store.put_comm_of_ne _ _ _ (by decide), Store.put_put _ hkey]

/-- Marking the machine and lowering the count leaves the group with its old count, the machine with
a label and a mark, and the claim bound. -/
theorem released_bindingStore (A : Store) (m : Machine) (hb : g.replicas = some b) :
    (Provider.markedStore (Provider.bindingStore claim A g b m) (Kind.machine.bump m.joined)
      now).put .group (Kind.group.bump (MachineGroup.scaled
        (Kind.group.bump (g.scaled (b + 1))) b)) =
    ((A.put .group (Kind.group.withVersion g (g.header.version + 2))).put .machine
      (condemnedMachine m now)).put .claim (Kind.claim.bump (claim.bound m.header.key)) := by
  have hkey : Kind.group.key (Kind.group.withVersion g (g.header.version + 2)) =
      Kind.group.key (Kind.group.bump (g.scaled (b + 1))) := rfl
  rw [markedStore_bindingStore, lowered_raised hb, Store.put_comm_of_ne _ _ _ (by decide),
    Store.put_comm_of_ne (A.put _ _) _ _ (by decide), Store.put_put _ hkey]

end

/-- How a creation has ended that gave back a claim. -/
theorem provided_of_ends {c' : Claim} (keyed : s.Keyed) (distinct : s.Distinct)
    (unbound : claim.binding? = none)
    (run : (p.create claim).Ends me Scene.Delivers (.start s) (.ok c') w) :
    Point (Provided p claim s c') w := by
  let o := outline me p claim s
  have idle : o.idle (.start s) := ⟨keyed, distinct, rfl⟩
  have ensures : (p.create claim).Ensures (terms me) (Final p claim s) (.start s) := by
    refine o.ensures_create o.lasting_idle idle (fun e w' he h => o.stop e w' he h)
      (fun w' h _ => ⟨trivial, h.keyed, h.distinct, h.holds⟩) (fun hb => absurd unbound hb) ?_
    intro x w' h
    cases x with
    | error e => exact ⟨trivial, trivial⟩
    | ok c => exact ⟨trivial, h.keyed, h.distinct, h.holds⟩
  exact ensures.of_ends run

end Reversal

/-- While a fleet manager adds machines, a creation gives back a claim. Then a release that is alone
comes to the machine of the claim and to the chosen group, and leaves the store as it was at the
start, with the machines that were added; only the group has a newer version, the machine its label
and a mark, and the claim its binding. -/
theorem delete_reverses_create {p : Provider} {claim c' : Claim} {s : Store} {me : Caller}
    {w : Scene} (now : Nat) (keyed : s.Keyed) (distinct : s.Distinct)
    (unbound : claim.binding? = none)
    (run : (p.create claim).Ends me Scene.Delivers (.start s) (.ok c') w) :
    ∃ τ g m u g₁ m' c₁, p.chosen? claim s s = some τ ∧
      s.groups.get? (objectKey τ.groupSpace τ.groupName) = some g ∧
      (s.stocked w.deliveries).machines.get? m.header.key = some m ∧
      c'.binding? = some m.header.key ∧
      (Provider.resolveMachine c').alone now w.store = (.ok u, w.store) ∧
      u.header.key = m.header.key ∧
      (Provider.owningGroup u).alone now w.store = (.ok g₁, w.store) ∧
      g₁.header.key = g.header.key ∧
      Kind.machine.Alike (m.joined.condemned now) m' ∧
      Kind.claim.Alike (claim.bound m.header.key) c₁ ∧
      (Provider.delete c').alone now w.store =
        (.ok (), (((s.stocked w.deliveries).put .group
          (Kind.group.withVersion g (g.header.version + 2))).put .machine m').put .claim c₁) := by
  have hpoint := Reversal.provided_of_ends keyed distinct unbound run
  obtain ⟨keyed', distinct', r, g, m, υ, horigin, htook, hstore, hpopulate⟩ := hpoint
  obtain ⟨τ, hτ, hspace, hname⟩ := horigin.chosen
  obtain ⟨id, hid, hne, rfl⟩ := Provider.populate_eq_ok_iff.1 hpopulate
  have hkey : objectKey τ.groupSpace τ.groupName = r.key := by rw [hspace, hname]; rfl
  let u := Kind.machine.bump m.joined
  have hmachine : w.store.machines.get? u.header.key = some u := by
    rw [hstore]
    exact NameMap.get?_insert_self ..
  have hfound : (Claim.served (Kind.claim.bump (claim.bound m.header.key)) id υ).machine? w.store =
      some u := Claim.machine?_of_find hne (distinct'.find hmachine hid hne)
  have howner : u.owner? = some r.group := by
    rw [Machine.owner?_bump, Machine.owner?_joined, htook.free.owner]
  let g₁ := Kind.group.bump (g.scaled (r.baseline + 1))
  have hgroup : w.store.groups.get? (objectKey u.header.space r.group) = some g₁ := by
    have hspace' : u.header.space = r.space := htook.free.space
    rw [hstore, hspace', Provider.groups_bindingStore, horigin.key]
    exact NameMap.get?_insert_self ..
  have hdelete := Provider.alone_delete keyed' hfound htook.free.staying howner hgroup rfl now
  rw [hstore, Reversal.released_bindingStore claim now _ m horigin.count, ← hstore] at hdelete
  exact ⟨τ, g, m, u, g₁, _, _, hτ, hkey ▸ horigin.stored, htook.stored, claim.binding?_bound _,
    Provider.alone_resolveMachine hfound now, rfl, Provider.alone_owningGroup howner hgroup now, rfl,
    Reversal.alike_condemnedMachine m now, Kind.alike_bump _, hdelete⟩

/-- If all machines lie under one key, their provider ids are distinct. -/
theorem Store.distinct_of_keys {s : Store} {k : String} (h : ∀ key ∈ s.machines.keys, key = k) :
    s.Distinct := by
  intro key key' m m' id hm hm' _ _ _
  have hkey : key = k := h key (NameMap.mem_keys_iff.2 (by simp [NameMap.contains, hm]))
  have hkey' : key' = k := h key' (NameMap.mem_keys_iff.2 (by simp [NameMap.contains, hm']))
  rw [hkey, hkey']

/-- The small store with a claim. -/
def Store.unstaffed : Store := Store.small.put .claim (Kind.claim.bump .sample)

/-- The machine is added while the creation waits for one. -/
theorem delete_reverses_create_delivered :
    ∃ (c' : Claim) (w : Scene) (m m' : Machine) (c₁ : Claim),
      (Provider.sample.create (Kind.claim.bump .sample)).Ends ⟨0, 0⟩ Scene.Delivers
        (.start .unstaffed) (.ok c') w ∧ c'.binding? = some m.header.key ∧
      m'.isMember = true ∧ m'.isMarked = true ∧ (Provider.delete c').alone 0 w.store =
        (.ok (), (((Store.unstaffed.stocked w.deliveries).put .group
          (Kind.group.withVersion (Kind.group.bump (.new "ns" "workers" (some 1))) 3)).put .machine
            m').put .claim c₁) := by
  let added : Machine := { Machine.new "ns" "worker-1" "workers" with providerId := some "vm-1" }
  let served : Claim :=
    { Kind.claim.bump ((Kind.claim.bump .sample).bound "ns/worker-1") with providerId := "vm-1" }
  have distinct : Store.unstaffed.Distinct :=
    Store.distinct_of_keys (k := "ns/worker-1") (by decide +kernel)
  have run : (Provider.sample.create (Kind.claim.bump .sample)).Ends ⟨0, 0⟩ Scene.Delivers
      (.start .unstaffed) (.ok served) _ :=
    Program.ends_interrupted ⟨0, 0⟩ Scene.Delivers 0 8 12 (by decide +kernel)
      (.mk (m := added) (by rfl) (Store.distinct_of_keys (k := "ns/worker-1") (by decide +kernel)))
      (Program.eq_of_hasReturned (by decide +kernel))
  obtain ⟨τ, g, m, u, g₁, m', c₁, hτ, hg, hm, hbinding, -, -, -, -, ⟨version, rfl⟩, -, hdelete⟩ :=
    delete_reverses_create 0 (Store.keyed_small.put .claim _) distinct rfl run
  have honly : ∀ g ∈ Store.unstaffed.groups.values,
      g = Kind.group.bump (.new "ns" "workers" (some 1)) := by decide +kernel
  obtain rfl := honly g (NameMap.mem_values_iff.2 ⟨_, hg⟩)
  refine ⟨served, _, m, _, c₁, run, hbinding, ?_, ?_, hdelete⟩
  · show (m.joined.condemned 0).isMember = true
    unfold Machine.condemned
    split <;> simp
  · show (m.joined.condemned 0).isMarked = true
    unfold Machine.condemned
    split
    · assumption
    · simp

end MachineClaims
