import MachineClaims.Proofs.Changes
import MachineClaims.Proofs.Releases
import MachineClaims.Proofs.Snapshots

/-!
# The status that a creation fills in

A creation reads the group of a machine before it asks for the machine, and a snapshot reads it
afterwards from the machine. What both see of a group is its declaration. So if others leave the
declarations of groups and the places and provider ids of machines as they are, a snapshot of the machine
shows what the creation has filled in (`create_get_list_agree`).
-/

namespace MachineClaims

/-- All of a group but its count, its version and whether its removal has begun. -/
def MachineGroup.declaration (g : MachineGroup) : MachineGroup :=
  { g with replicas := none, header := { g.header with version := 0, deletion := none } }

/-- A group declares no processors or no memory. -/
def MachineGroup.Unsized (g : MachineGroup) : Prop :=
  ∃ capacity, Capacity.declared g.header.annotations = .ok capacity ∧
    (capacity.contains Capacity.cpu = false ∨ capacity.contains Capacity.memory = false)

/-- A machine as it is later: in the same place, made for the same group, and with the provider id that
it had. -/
structure Machine.Persists (m m' : Machine) : Prop where
  space : m'.header.space = m.header.space
  owner : m'.owner? = m.owner?
  id : ∀ id, m.providerId = some id → id ≠ "" → m'.providerId = some id

theorem Machine.Persists.refl (m : Machine) : m.Persists m := ⟨rfl, rfl, fun _ h _ => h⟩

theorem Machine.Persists.trans {m₁ m₂ m₃ : Machine} (h : m₁.Persists m₂) (h' : m₂.Persists m₃) :
    m₁.Persists m₃ where
  space := h'.space.trans h.space
  owner := h'.owner.trans h.owner
  id id hid known := h'.id id (h.id id hid known) known

namespace NameMap

theorem values_mapValues {α β : Type} (m : NameMap α) (f : α → β) :
    (m.mapValues fun _ => f).values = m.values.map f := by
  simp [values, mapValues]

end NameMap

namespace Store

variable {s s' : Store} {key : String} {g : MachineGroup}

/-- What the stored groups declare. -/
def declarations (s : Store) : NameMap MachineGroup := s.groups.mapValues fun _ => (·.declaration)

/-- Which groups the stored classes select. -/
def selectors (s : Store) : NameMap (Option Selector) := s.classes.mapValues fun _ => (·.selector)

theorem get?_declarations (s : Store) (key : String) :
    s.declarations.get? key = (s.groups.get? key).map (·.declaration) := NameMap.get?_mapValues ..

/-- Of a group that is stored, a write may change what is no declaration. -/
theorem declarations_put_group (h : s.declarations.get? g.header.key = some g.declaration) :
    (s.put .group g).declarations = s.declarations := by
  apply NameMap.ext_get?
  intro key
  rw [get?_declarations]
  have hput := get?_table_put s .group g key
  refine (congrArg (Option.map _) hput).trans ?_
  split
  · rename_i hkey
    rw [hkey]
    exact h.symm
  · exact (get?_declarations s key).symm

/-- A group under a key that declares the same is found in the other store too. -/
theorem exists_declaration_eq (h : s'.declarations = s.declarations)
    (hg : s.groups.get? key = some g) :
    ∃ g', s'.groups.get? key = some g' ∧ g'.declaration = g.declaration := by
  have hsame := congrArg (·.get? key) h
  simp only [get?_declarations, hg, Option.map_some] at hsame
  exact Option.map_eq_some_iff.1 hsame

/-- What follows an object goes on to do so after an operation that leaves something in its place. -/
theorem Follows.perform {k : Kind} {o : k.Object} (h : s.Follows k o) (op : Operation)
    (stays : ((op.perform s).2.table k).get? (k.key o) ≠ none) : (op.perform s).2.Follows k o := by
  obtain ⟨stored, hstored, hsince⟩ := h
  rcases op.entry_cases s k (k.key o) with
    hsame | ⟨o', -, -, hnone, -⟩ | ⟨o', -, hkey, ⟨current, hcurrent, hversion⟩, hput⟩ | ⟨-, hgone⟩
  · exact ⟨stored, hsame.trans hstored, hsince⟩
  · cases hnone.symm.trans hstored
  · rw [hkey] at hcurrent
    obtain rfl := Option.some.inj (hstored.symm.trans hcurrent)
    refine ⟨_, hput, .inr ?_⟩
    rw [Kind.version_bump]
    obtain rfl | hlt := hsince <;> omega
  · exact absurd hgone stays

end Store

theorem MachineType.ofGroup_of_declaration {policy : Propagation} {g g' : MachineGroup}
    (h : g'.declaration = g.declaration) : ofGroup policy g' = ofGroup policy g := by
  have hdeclared : ∀ g : MachineGroup, ofGroup policy g = ofGroup policy g.declaration := fun _ => rfl
  rw [hdeclared, h, ← hdeclared]

namespace Provider

variable {p : Provider} {claim : Claim} {s s' s₁ s₂ : Store} {c c' : CapacityClass}

theorem typesOf_of_declarations (selector : c'.selector = c.selector)
    (groups : s'.declarations = s.declarations) : p.typesOf c' s' = p.typesOf c s := by
  have hdeclared : ∀ s, p.typesOf c s =
      (s.declarations.values.filter fun g => c.selector.all (·.accepts g.header.labels)).mapM
        fun g => p.machineType (.typingGroup g.header.key) g := by
    intro s
    rw [Store.declarations, NameMap.values_mapValues, List.filter_map, List.mapM_map]
    rfl
  have hselected : p.typesOf c' s' = p.typesOf c s' := by
    unfold typesOf selected
    rw [selector]
  rw [hselected, hdeclared, groups, ← hdeclared]

/-- A choice depends on the selectors of classes and on the declarations of groups only. -/
theorem chosen?_of_declarations (classes : s₁.selectors = s.selectors)
    (groups : s₂.declarations = s.declarations) : p.chosen? claim s₁ s₂ = p.chosen? claim s s := by
  have hselector : ∀ key, (s₁.classes.get? key).map (·.selector) =
      (s.classes.get? key).map (·.selector) := by
    intro key
    have hsame := congrArg (·.get? key) classes
    simpa only [Store.selectors, NameMap.get?_mapValues] using hsame
  have htypes : ∀ c c' : CapacityClass, c'.selector = c.selector → p.typesOf c' s₂ = p.typesOf c s :=
    fun c c' h => typesOf_of_declarations h groups
  unfold chosen?
  cases claim.classRef with
  | none => rfl
  | some name =>
    have hclass := hselector (objectKey "" name)
    cases hc₁ : s₁.classes.get? (objectKey "" name) with
    | none =>
      rw [hc₁, Option.map_none, eq_comm, Option.map_eq_none_iff] at hclass
      simp [hc₁, hclass]
    | some c₁ =>
      rw [hc₁, Option.map_some, eq_comm, Option.map_eq_some_iff] at hclass
      obtain ⟨c, hc, hsame⟩ := hclass
      have htyped := htypes c c₁ hsame.symm
      unfold typesOf selected at htyped
      simp [hc₁, hc, htyped]

end Provider

/-- A client operates on the store, but leaves alone what groups declare and what classes select.
Machines stay where they are with the provider ids that they have, and no two get the same one. -/
inductive Scene.Preserves : Scene → Scene → Prop where
  | mk {w : Scene} (client : Caller) (op : Store.Operation)
    (declarations : (op.perform w.store).2.declarations = w.store.declarations)
    (selectors : (op.perform w.store).2.selectors = w.store.selectors)
    (machines : ∀ key m, w.store.machines.get? key = some m →
      ∃ m', (op.perform w.store).2.machines.get? key = some m' ∧ m.Persists m')
    (distinct : (op.perform w.store).2.Distinct) : Preserves w (w.operate client op)

namespace Statuses

/-- A caller works beside clients that leave alone what it reads. -/
def terms (me : Caller) : Terms := .beside Scene.Preserves me

/-- Groups declare, and classes select, what they did at the start. -/
structure Still (s : Store) (w : Scene) : Prop where
  keyed : w.store.Keyed
  declarations : w.store.declarations = s.declarations
  selectors : w.store.selectors = s.selectors

/-- What a creation can count on before it binds its claim. -/
structure Base (s : Store) (w : Scene) : Prop extends Still s w where
  distinct : w.store.Distinct

/-- A machine is still there. -/
def Stands (m : Machine) (w : Scene) : Prop :=
  ∃ m', w.store.machines.get? m.header.key = some m' ∧ m.Persists m'

/-- The group that a machine was made for was of a type at the start. -/
def Typed (p : Provider) (s : Store) (m : Machine) (τ : MachineType) : Prop :=
  ∃ owner g, m.owner? = some owner ∧ s.groups.get? (objectKey m.header.space owner) = some g ∧
    MachineType.ofGroup p.propagation g = .ok τ

/-- A claim has got the status that a machine gives it, whose group was of a type at the start. -/
structure Filled (p : Provider) (s : Store) (c c' : Claim) (m : Machine) (τ : MachineType)
    (w : Scene) : Prop where
  base : Base s w
  stands : Stands m w
  typed : Typed p s m τ
  filled : ∃ id, m.providerId = some id ∧ id ≠ "" ∧ c' = c.served id τ

/-- Which claim gets the status of a machine: one that has been bound to a machine of the chosen group, or
one whose binding is read as the key of the machine. -/
inductive Source (p : Provider) (claim : Claim) (s : Store) : Claim → Machine → MachineType → Prop where
  | fresh {m : Machine} {τ : MachineType} (unbound : claim.binding? = none)
    (chosen : p.chosen? claim s s = some τ) (owner : m.owner? = some τ.groupName)
    (space : m.header.space = τ.groupSpace) :
    Source p claim s (Kind.claim.bump (claim.bound m.header.key)) m τ
  | retried {m : Machine} {τ : MachineType} {b space name : String} (bound : claim.binding? = some b)
    (parsed : Binding.parse b = .ok (space, name)) (key : objectKey space name = m.header.key) :
    Source p claim s claim m τ

/-- How a creation ends that returns a claim. -/
def Final (p : Provider) (claim : Claim) (s : Store) : Except Failure Claim → Scene → Prop
  | .ok c', w => ∃ c m τ, Source p claim s c m τ ∧ Filled p s c c' m τ w
  | .error _, _ => True

variable {p : Provider} {claim c c' : Claim} {s : Store} {me : Caller} {w w' : Scene} {m : Machine}
  {g : MachineGroup} {r : Reservation} {τ : MachineType}

theorem Still.start (keyed : s.Keyed) : Still s (.start s) := ⟨keyed, rfl, rfl⟩

theorem lasting_still (s : Store) (me : Caller) : (terms me).Lasting (Still s) where
  stable w w' h step := by
    obtain ⟨client, op, declarations, selectors, -, -⟩ := step
    exact ⟨h.keyed.perform op, declarations.trans h.declarations, selectors.trans h.selectors⟩
  quiet _ _ _ _ h := ⟨h.keyed, h.declarations, h.selectors⟩

theorem lasting_base (s : Store) (me : Caller) : (terms me).Lasting (Base s) where
  stable w w' h step := by
    have still := (lasting_still s me).stable w w' h.toStill step
    obtain ⟨client, op, -, -, -, distinct⟩ := step
    exact ⟨still, distinct⟩
  quiet w c x hx h := ⟨(lasting_still s me).quiet w c x hx h.toStill, h.distinct⟩

theorem lasting_stands (m : Machine) (me : Caller) : (terms me).Lasting (Stands m) where
  stable w w' h step := by
    obtain ⟨client, op, -, -, machines, -⟩ := step
    obtain ⟨m', hm', hpersists⟩ := h
    obtain ⟨m'', hm'', hpersists'⟩ := machines _ m' hm'
    exact ⟨m'', hm'', hpersists.trans hpersists'⟩
  quiet _ _ _ _ h := h

theorem lasting_follows (m : Machine) (me : Caller) :
    (terms me).Lasting fun w => w.store.Follows .machine m where
  stable w w' h step := by
    obtain ⟨client, op, -, -, machines, -⟩ := step
    obtain ⟨stored, hstored, -⟩ := id h
    obtain ⟨m', hm', -⟩ := machines _ stored hstored
    exact h.perform op fun hnone => by cases hnone.symm.trans hm'
  quiet _ _ _ _ h := h

theorem lasting_filled (p : Provider) (s : Store) (c c' : Claim) (m : Machine) (τ : MachineType)
    (me : Caller) : (terms me).Lasting (Filled p s c c' m τ) :=
  .of_passes fun _ _ hw h => ⟨(lasting_base s me).passes hw h.base,
    (lasting_stands m me).passes hw h.stands, h.typed, h.filled⟩

theorem lasting_final (p : Provider) (claim : Claim) (s : Store) (x : Except Failure Claim)
    (me : Caller) : (terms me).Lasting (Final p claim s x) := by
  cases x with
  | error e => exact .const _ _
  | ok c' => exact .ex fun c => .ex fun m => .ex fun τ =>
      (Terms.Lasting.const _ _).and (lasting_filled p s c c' m τ me)

/-- The group that was read under a key declares what the one did that was there at the start. -/
theorem Still.declares (h : Still s w) {key : String} (hg : w.store.groups.get? key = some g) :
    g.header.key = key ∧ s.declarations.get? key = some g.declaration := by
  refine ⟨h.keyed .group key g hg, ?_⟩
  rw [← h.declarations, Store.get?_declarations, hg]
  rfl

theorem Still.writeMachine (h : Still s w) (m : Machine) : Still s (w.writeMachine me m) :=
  ⟨Scene.keyed_writeMachine h.keyed, h.declarations, h.selectors⟩

/-- Another count of a group changes nothing that it declares. -/
theorem Still.writeGroup (h : Still s w) {key : String}
    (hg : g.header.key = key ∧ s.declarations.get? key = some g.declaration) (n : Nat) :
    Still s (w.writeGroup me (g.scaled n)) := by
  refine ⟨Scene.keyed_writeGroup h.keyed, ?_, h.selectors⟩
  have hstored : w.store.declarations.get? g.header.key = some g.declaration := by
    rw [h.declarations, hg.1]
    exact hg.2
  have hput : (w.store.put .group (Kind.group.bump (g.scaled n))).declarations = w.store.declarations :=
    Store.declarations_put_group hstored
  exact hput.trans h.declarations

private theorem eq_ok_of_toOption {ε α : Type} {x : Except ε α} {a : α}
    (h : x.toOption = some a) : x = .ok a := by
  cases x with
  | error e => cases h
  | ok b => exact congrArg Except.ok (Option.some.inj h)

/-- The group of the chosen type is stored. -/
theorem exists_group_of_chosen (keyed : s.Keyed) (h : p.chosen? claim s s = some τ) :
    ∃ g, s.groups.get? (objectKey τ.groupSpace τ.groupName) = some g ∧
      MachineType.ofGroup p.propagation g = .ok τ := by
  obtain ⟨name, -, h⟩ := Option.bind_eq_some_iff.1 h
  obtain ⟨c, -, h⟩ := Option.bind_eq_some_iff.1 h
  obtain ⟨types, htypes, h⟩ := Option.bind_eq_some_iff.1 h
  obtain ⟨constraints, -, hchoose⟩ := Option.bind_eq_some_iff.1 h
  have htyped : p.typesOf c s = .ok types := eq_ok_of_toOption htypes
  obtain ⟨g, hg, hτ⟩ := (Provider.mem_typesOf_iff htyped τ).1 (Provider.mem_of_choose hchoose).1
  exact ⟨g, Provider.stored_of_selected keyed hg hτ, hτ⟩

/-- The type of a group that declares the same as the one that was there at the start. -/
theorem Still.typed (h : Still s w) {key : String} {activity : Activity}
    (hg : w.store.groups.get? key = some g) (hτ : p.machineType activity g = .ok τ) :
    ∃ g₀, s.groups.get? key = some g₀ ∧ MachineType.ofGroup p.propagation g₀ = .ok τ := by
  obtain ⟨g₀, hg₀, hsame⟩ := Store.exists_declaration_eq h.declarations.symm hg
  rw [Provider.machineType_eq_ok_iff] at hτ
  exact ⟨g₀, hg₀, (MachineType.ofGroup_of_declaration hsame).trans hτ⟩

/-- The group of a reservation is the chosen one. -/
def OfChosen (p : Provider) (claim : Claim) (s : Store) (r : Reservation) : Prop :=
  ∃ τ, p.chosen? claim s s = some τ ∧ τ.groupSpace = r.space ∧ τ.groupName = r.group

/-- A machine of the group of a reservation is still there. -/
def Taken (r : Reservation) (m : Machine) (w : Scene) : Prop :=
  (m.owner? = some r.group ∧ m.header.space = r.space) ∧ Stands m w

/-- A creation for a claim that is not bound. -/
def outline (me : Caller) (keyed : s.Keyed) (unbound : claim.binding? = none) :
    CreateOutline (terms me) p claim where
  chosen τ := p.chosen? claim s s = some τ
  idle := Base s
  knowsGroup key g _ := g.header.key = key ∧ s.declarations.get? key = some g.declaration
  knows key m w := m.header.key = key ∧ w.store.Follows .machine m
  reserved r w := Base s w ∧ OfChosen p claim s r
  labelled r w := (Base s w ∧ OfChosen p claim s r) ∧ ∀ m ∈ r.machine, Taken r m w
  undoing _ := Still s
  released _ := Still s
  final := Final p claim s
  lasting_idle := lasting_base s me
  lasting_knowsGroup _ _ := .const _ _
  lasting_knows _ m := (Terms.Lasting.const _ _).and (lasting_follows m me)
  lasting_reserved _ := (lasting_base s me).and (.const _ _)
  lasting_labelled r := ((lasting_base s me).and (.const _ _)).and
    (.all fun m => .all fun _ => (Terms.Lasting.const _ _).and (lasting_stands m me))
  lasting_undoing _ := lasting_still s me
  lasting_released _ := lasting_still s me
  lasting_final x := lasting_final p claim s x me
  choose τ w₁ w₂ h₁ h₂ hτ := by
    rwa [Provider.chosen?_of_declarations h₁.selectors h₂.declarations] at hτ
  stop _ _ _ _ := trivial
  readGroup _ _ _ h hg := h.declares hg
  raise τ g b w hτ h hg _ _ _ :=
    ⟨trivial, ⟨h.writeGroup hg (b + 1), h.distinct.congr rfl⟩, τ, hτ, rfl, rfl⟩
  list r m w h _ hm := ⟨rfl, .of_stored (k := .machine) ((h.1.keyed.mem_values_iff .machine m).1 hm)⟩
  label r m w h hfree hm current := by
    have hstored : w.store.machines.get? m.header.key = some m := hm.2.eq_of_current current
    refine ⟨trivial, ⟨⟨h.1.writeMachine m.joined, h.1.distinct.put_machine hstored rfl⟩, h.2⟩, ?_⟩
    intro m' hm'
    obtain rfl : Kind.machine.bump m.joined = m' := Option.some.inj hm'
    have howner : (Kind.machine.bump m.joined).owner? = some r.group := by
      rw [Machine.owner?_bump, Machine.owner?_joined, hfree.owner]
    exact ⟨⟨howner, hfree.space⟩, _, NameMap.get?_insert_self .., .refl _⟩
  refuse _ _ _ _ _ h _ _ := (lasting_still s me).quiet _ _ _ (.inr ⟨_, rfl⟩) h.1.toStill
  bind r m τ w h hr hτ _ := by
    refine ⟨trivial, ?_⟩
    cases hpopulate : Provider.populate _ m τ with
    | error e => trivial
    | ok c' =>
      obtain ⟨⟨base, τ', hτ', hspace, hname⟩, taken⟩ := h
      obtain rfl : τ' = τ := Option.some.inj (hτ'.symm.trans hτ)
      obtain ⟨⟨howner, hplace⟩, stands⟩ := taken m hr
      rw [← hname] at howner
      rw [← hspace] at hplace
      obtain ⟨g, hg, htyped⟩ := exists_group_of_chosen keyed hτ
      refine ⟨_, m, τ', .fresh unbound hτ howner hplace, ?_⟩
      exact {
        base := ⟨⟨Scene.keyed_writeClaim base.keyed, base.declarations, base.selectors⟩,
          base.distinct.congr rfl⟩
        stands := stands
        typed := ⟨τ'.groupName, g, howner, hplace ▸ hg, htyped⟩
        filled := Provider.populate_eq_ok_iff.1 hpopulate }
  giveUp _ _ h _ := h.1.toStill
  abandon _ _ h := h.1.1.toStill
  reread r m stored w h _ hm := by
    have hkey : stored.header.key = m.header.key := h.keyed .machine _ stored hm
    exact ⟨hkey, .of_stored (h.keyed.stored .machine hm)⟩
  empty _ _ h _ := h
  gone _ _ _ h _ _ := h
  clean _ _ _ _ h _ _ _ _ := h
  release _ _ _ _ _ h _ _ _ _ := ⟨trivial, h.writeMachine _⟩
  stuck _ _ _ _ _ := trivial
  rereadGroup _ _ _ h hg := h.declares hg
  restore _ _ _ _ _ _ _ _ := ⟨trivial, trivial⟩
  half _ _ _ _ _ := trivial

/-- The status of a machine is filled in as its group declares. -/
private theorem ensures_filled (source : ∀ τ, Source p claim s c m τ) (base : Base s w)
    (stands : Stands m w) :
    Action.Ensures (terms me) (Final p claim s) (do
      let g ← Provider.owningGroup m
      let τ ← Action.ofExcept (p.machineType (.typingGroup g.header.key) g)
      Action.ofExcept (Provider.populate c m τ)) w := by
  have lasting := (lasting_base s me).and (lasting_stands m me)
  refine Action.Ensures.bind (Provider.ensures_owningGroup lasting
    (fun g => lasting.and (.const _ (∀ activity τ, p.machineType activity g = .ok τ → Typed p s m τ)))
    ⟨base, stands⟩ fun owner g w howner h hg => ⟨h, fun activity τ hτ => ?_⟩)
    (fun g w h => ?_) fun _ _ _ _ => trivial
  · obtain ⟨g₀, hg₀, htyped⟩ := h.1.typed hg hτ
    exact ⟨owner, g₀, howner, hg₀, htyped⟩
  · obtain ⟨⟨base, stands⟩, typed⟩ := h
    rw [Action.ensures_bind, Action.ensures_ofExcept]
    cases hτ : p.machineType (.typingGroup g.header.key) g with
    | error e => trivial
    | ok τ =>
      show Final p claim s (Provider.populate c m τ) w
      cases hpopulate : Provider.populate c m τ with
      | error e => trivial
      | ok c' =>
        exact ⟨c, m, τ, source τ, base, stands, typed _ τ hτ, Provider.populate_eq_ok_iff.1 hpopulate⟩

/-- A retry fills in the status of the machine that the binding is read as. -/
theorem ensures_resume {b : String} (hb : claim.binding? = some b) (h : Base s w) :
    (p.resume claim b).Ensures (terms me) (Final p claim s) w := by
  unfold Provider.resume
  cases hparse : Binding.parse b with
  | error e => trivial
  | ok place =>
    show Action.Ensures (terms me) _ (Action.call (.getMachine place.1 place.2) >>= _) w
    refine Action.Ensures.bind (Action.ensures_getMachine (lasting_base s me)
      (fun x => (lasting_base s me).and (.all fun m => .all fun _ : m ∈ x =>
        (Terms.Lasting.const _ (objectKey place.1 place.2 = m.header.key)).and (lasting_stands m me)))
      h fun w h => ⟨h, fun m hm => ?_⟩) (fun x w h => ?_) fun _ _ _ _ => trivial
    · have hkey : m.header.key = objectKey place.1 place.2 := h.keyed .machine _ m hm
      exact ⟨hkey.symm, m, hkey ▸ hm, .refl m⟩
    · cases x with
      | none => trivial
      | some m =>
        obtain ⟨base, found⟩ := h
        obtain ⟨hkey, stands⟩ := found m rfl
        exact ensures_filled (fun _ => .retried hb hparse hkey) base stands

theorem Final.with_holders {x : Except Failure Claim} (h : Final p claim s x w)
    (holders : List Caller) : Final p claim s x { w with holders } := by
  cases x with
  | error e => trivial
  | ok c' =>
    obtain ⟨c, m, τ, source, filled⟩ := h
    exact ⟨c, m, τ, source, ⟨⟨filled.base.keyed, filled.base.declarations, filled.base.selectors⟩,
      filled.base.distinct⟩, filled.stands, filled.typed, filled.filled⟩

theorem ensures_create (keyed : s.Keyed) (distinct : s.Distinct) :
    (p.create claim).Ensures (terms me) (Final p claim s) (.start s) := by
  have start : Base s (.start s) := ⟨.start keyed, distinct⟩
  have entered : ∀ w holders, Base s w → Base s { w with holders } := fun w holders h =>
    ⟨⟨h.keyed, h.declarations, h.selectors⟩, h.distinct⟩
  cases hb : claim.binding? with
  | none =>
    exact (outline me keyed hb).ensures_create (lasting_base s me) start (fun _ _ _ _ => trivial)
      (fun w h _ => ⟨trivial, entered w _ h⟩) (fun bound => absurd hb bound)
      fun x w h => ⟨trivial, h.with_holders _⟩
  | some b =>
    unfold Provider.create
    refine Provider.ensures_exclusively (lasting_base s me) start (fun _ _ => trivial)
      (fun x => lasting_final p claim s x me) (fun w h _ => ⟨trivial, ?_⟩)
      fun x w h => ⟨trivial, h.with_holders _⟩
    refine (Action.ensures_bind ..).2 (Action.ensures_cancelled (lasting_base s me) (entered w _ h)
      fun cancelled w h => ?_)
    cases cancelled with
    | true => trivial
    | false =>
      dsimp only [Action.andThen]
      rw [hb]
      exact ensures_resume hb h

end Statuses

/-! ### What is shown of a status -/

theorem MachineGroup.unsized_iff {policy : Propagation} {g : MachineGroup} {τ : MachineType}
    (hτ : MachineType.ofGroup policy g = .ok τ) : g.Unsized ↔
      τ.capacity.contains Capacity.cpu = false ∨ τ.capacity.contains Capacity.memory = false := by
  obtain ⟨capacity, hcapacity, rfl⟩ := MachineType.ofGroup_ok hτ
  constructor
  · rintro ⟨capacity', hcapacity', h⟩
    obtain rfl := Except.ok.inj (hcapacity.symm.trans hcapacity')
    exact h
  · exact fun h => ⟨capacity, hcapacity, h⟩

namespace Provider

/-- What getting a claim by its provider id comes to: a failure if the group of the machine declares no
processors or no memory, and otherwise the status of the claim, without labels that are the claim's
own. -/
structure Rereads (p : Provider) (now : Nat) (s : Store) (c : Claim) (m : Machine)
    (g : MachineGroup) : Prop where
  missing : (∃ resource, (p.get c.providerId).alone now s =
    (.error (.missingCapacity m.header.key g.header.key resource), s)) ↔ g.Unsized
  shown : ¬ g.Unsized → ∃ c', (p.get c.providerId).alone now s = (.ok c', s) ∧
    c'.providerId = c.providerId ∧ c'.capacity = c.capacity ∧ c'.allocatable = c.allocatable ∧
    c'.binding? = some m.header.key ∧
    ∀ key value, c'.header.labels.get? key = some value → c.header.labels.get? key = some value

variable {p : Provider} {now : Nat} {s : Store} {c : Claim} {m : Machine} {g : MachineGroup}
  {τ : MachineType}

theorem rereads_served {id : String} (hτ : MachineType.ofGroup p.propagation g = .ok τ)
    (hid : m.providerId = some id) (hget : (p.get id).alone now s = (p.snapshotOf m g, s)) :
    p.Rereads now s (c.served id τ) m g := by
  have hunsized := MachineGroup.unsized_iff hτ
  rw [snapshotOf_eq hτ] at hget
  cases hfind : [Capacity.cpu, Capacity.memory].find? fun resource =>
      !τ.capacity.contains resource with
  | some resource =>
    have hlacks : g.Unsized := by
      have hnot := List.find?_some hfind
      have hmem := List.mem_of_find?_eq_some hfind
      simp only [List.mem_cons, List.not_mem_nil, or_false] at hmem
      rw [hunsized]
      obtain rfl | rfl := hmem
      · exact .inl (by simpa using hnot)
      · exact .inr (by simpa using hnot)
    rw [hfind] at hget
    exact ⟨iff_of_true ⟨resource, hget⟩ hlacks, fun h => absurd hlacks h⟩
  | none =>
    have hsized : ¬ g.Unsized := by
      have hall := List.find?_eq_none.1 hfind
      rw [hunsized]
      simpa using hall
    rw [hfind] at hget
    refine ⟨iff_of_false ?_ hsized, fun _ => ⟨_, hget, ?_, rfl, rfl, Claim.binding?_showing m τ, ?_⟩⟩
    · rintro ⟨resource, hmissing⟩
      cases (congrArg Prod.fst hget).symm.trans (congrArg Prod.fst hmissing)
    · show m.providerId.getD "" = id
      rw [hid, Option.getD_some]
    · intro key value hvalue
      have hlabel : τ.labels.get? key = some value := hvalue
      show (c.header.labels.insertAll τ.labels.entries).get? key = some value
      rw [NameMap.get?_insertAll, NameMap.ofList_entries, hlabel, Option.some_or]

end Provider

/-- Listing and getting show machines alike. And while others leave alone what groups declare, what
classes select, and where machines are with which provider ids: a creation that returns a claim has filled
in the status that getting it by its provider id shows. The machine is one of the chosen group; but for a
claim that had been bound, it is the one that the binding is read as, and is shown bound to its key. -/
theorem create_get_list_agree {p : Provider} {s : Store} (now : Nat) (keyed : s.Keyed)
    (distinct : s.Distinct) : p.ReadsAlike now s ∧
      ∀ (claim c' : Claim) (me : Caller) (w : Scene),
        (p.create claim).Ends me Scene.Preserves (.start s) (.ok c') w →
        ∃ m g, w.store.machines.get? m.header.key = some m ∧ m.providerId = some c'.providerId ∧
          c'.providerId ≠ "" ∧ (Provider.owningGroup m).alone now w.store = (.ok g, w.store) ∧
          p.Rereads now w.store c' m g ∧
          (claim.binding? = none → c'.binding? = some m.header.key ∧
            ∃ τ, p.chosen? claim s s = some τ ∧
              g.header.key = objectKey τ.groupSpace τ.groupName) ∧
          ∀ b, claim.binding? = some b → c'.binding? = some b ∧
            ∃ space name, Binding.parse b = .ok (space, name) ∧
              objectKey space name = m.header.key := by
  refine ⟨Provider.readsAlike keyed distinct p now, fun claim c' me w run => ?_⟩
  have final : Statuses.Final p claim s (.ok c') w :=
    (Statuses.ensures_create keyed distinct).of_ends run
  obtain ⟨c, m, τ, source, base, ⟨u, hu, persists⟩, ⟨owner, g, howner, hg, hτ⟩, id, hid, known, rfl⟩ :=
    final
  have hkey : u.header.key = m.header.key := base.keyed .machine _ u hu
  have hid' : u.providerId = some id := persists.id id hid known
  obtain ⟨g', hg', hsame⟩ := Store.exists_declaration_eq base.declarations hg
  have hτ' : MachineType.ofGroup p.propagation g' = .ok τ :=
    (MachineType.ofGroup_of_declaration hsame).trans hτ
  have howner' : u.owner? = some owner := persists.owner.trans howner
  rw [← persists.space] at hg'
  have hget := Provider.alone_get (p := p) base.distinct hu hid' known now
  rw [Provider.alone_snapshot howner' hg'] at hget
  refine ⟨u, g', hkey ▸ hu, hid', known, Provider.alone_owningGroup howner' hg' now,
    Provider.rereads_served hτ' hid' hget, ?_, ?_⟩
  · intro unbound
    cases source with
    | fresh _ chosen owned space =>
      refine ⟨(Claim.binding?_bound claim _).trans (congrArg some hkey.symm), τ, chosen, ?_⟩
      have hplace : g'.header.key = objectKey u.header.space owner := base.keyed .group _ g' hg'
      obtain rfl : owner = τ.groupName := Option.some.inj (howner.symm.trans owned)
      rw [hplace, persists.space, space]
    | retried bound _ _ => cases unbound.symm.trans bound
  · intro b hb
    cases source with
    | fresh unbound _ _ _ => cases unbound.symm.trans hb
    | retried bound parsed key =>
      obtain rfl := Option.some.inj (hb.symm.trans bound)
      exact ⟨bound, _, _, parsed, key.trans hkey.symm⟩

/-- A group that declares processors and memory. -/
def MachineGroup.sized : MachineGroup :=
  { MachineGroup.new "ns" "workers" (some 1) with
    header := ((Header.new "ns" "workers").annotate Capacity.cpuKey "4").annotate Capacity.memoryKey
      "8Gi" }

/-- A small store whose group declares processors and memory, with a claim and no machine. -/
def Store.sized : Store := Store.unstaffed.put .group (Kind.group.bump .sized)

theorem Store.keyed_sized : Store.sized.Keyed :=
  (keyed_small.put .claim _).put .group _

/-- The machine is added while the creation waits for one, and shown afterwards. -/
theorem create_get_list_agree_delivered : ∃ (c' c'' : Claim) (w : Scene),
    (Provider.sample.create (Kind.claim.bump .sample)).Ends ⟨0, 0⟩ Scene.Preserves (.start .sized)
      (.ok c') w ∧
    (Provider.sample.get c'.providerId).alone 0 w.store = (.ok c'', w.store) ∧
    c'.capacity.contains Capacity.cpu = true ∧ c''.capacity = c'.capacity ∧
    c''.binding? = c'.binding? := by
  let added : Machine := { Machine.new "ns" "worker-1" "workers" with providerId := some "vm-1" }
  let capacity : Resources :=
    (Capacity.declared MachineGroup.sized.header.annotations).toOption.getD ∅
  let served : Claim :=
    { Kind.claim.bump ((Kind.claim.bump .sample).bound "ns/worker-1") with
      providerId := "vm-1", capacity, allocatable := capacity }
  let paused := Program.advance ⟨0, 0⟩ 0 8 (Provider.sample.create (Kind.claim.bump .sample)).run
    (.start .sized)
  let w : Scene := (paused.1.advance ⟨0, 0⟩ 0 12
    (paused.2.operate ⟨1, 0⟩ (.create .machine added))).2
  have run : (Provider.sample.create (Kind.claim.bump .sample)).Ends ⟨0, 0⟩ Scene.Preserves
      (.start .sized) (.ok served) w :=
    Program.ends_interrupted ⟨0, 0⟩ Scene.Preserves 0 8 12 (by decide +kernel)
      (.mk ⟨1, 0⟩ (.create .machine added) (by decide +kernel) (by decide +kernel)
        (fun _ _ hm => by cases hm)
        (Store.distinct_of_keys (k := "ns/worker-1") (by decide +kernel)))
      (Program.eq_of_hasReturned (by decide +kernel))
  have distinct : Store.sized.Distinct :=
    Store.distinct_of_keys (k := "ns/worker-1") (by decide +kernel)
  obtain ⟨m, g, -, -, -, -, rereads, hfresh, -⟩ :=
    (create_get_list_agree 0 Store.keyed_sized distinct).2 _ _ _ _ run
  have hok : ((Provider.sample.get "vm-1").alone 0 w.store).1.toOption.isSome = true := by
    decide +kernel
  have hsized : ¬ g.Unsized := by
    intro hunsized
    obtain ⟨resource, hmissing⟩ := rereads.missing.2 hunsized
    rw [show (Provider.sample.get "vm-1").alone 0 w.store = _ from hmissing] at hok
    cases hok
  obtain ⟨c'', hget, -, hcapacity, -, hbinding, -⟩ := rereads.shown hsized
  exact ⟨served, c'', w, run, hget, by decide +kernel, hcapacity, hbinding.trans (hfresh rfl).1.symm⟩

/-- A claim whose binding has a blank keeps it, but its machine is shown without one. -/
theorem binding_shown_without_blank :
    let s := Store.sized.put .machine (Kind.machine.bump
      { Machine.new "ns" "worker-1" "workers" with providerId := some "vm-1" })
    s.Keyed ∧ s.Distinct ∧
      ((Provider.sample.create ((Kind.claim.bump .sample).bound " ns/worker-1")).alone 0 s).1.toOption.map
        (fun c => (c.providerId, c.binding?)) = some ("vm-1", some " ns/worker-1") ∧
      ((Provider.sample.get "vm-1").alone 0 s).1.toOption.map
        (fun c => (c.providerId, c.binding?)) = some ("vm-1", some "ns/worker-1") := by
  refine ⟨Store.keyed_sized.put .machine _,
    Store.distinct_of_keys (k := "ns/worker-1") (by decide +kernel), ?_, ?_⟩
  · decide +kernel
  · decide +kernel

end MachineClaims
