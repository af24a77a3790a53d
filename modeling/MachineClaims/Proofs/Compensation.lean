import MachineClaims.Proofs.CreateOutline
import MachineClaims.Proofs.Serve

/-!
# A failed creation undoes itself

While nobody else writes, except that new machines arrive, a creation that fails leaves what it
found, but for a mark on at most one machine of the chosen group (`create_undone`). If undoing fails
as well, the chosen group has one replica too many, and that machine may still have its label.
-/

namespace MachineClaims

/-- A machine arrives that nobody has taken. -/
inductive Scene.Arrives : Scene → Scene → Prop where
  | mk {w : Scene} {m m' : Machine} {s : Store} (unlabelled : m.isMember = false)
    (created : w.store.create .machine m = .ok (m', s)) : Arrives w (w.record .foreign s)

/-- Whether a machine belongs to the group that is chosen for a claim, and nobody has taken it. -/
structure Provider.MayTake (p : Provider) (claim : Claim) (s : Store) (m : Machine) : Prop where
  unlabelled : m.isMember = false
  chosen : ∃ τ, p.chosen? claim s s = some τ ∧ m.owner? = some τ.groupName ∧
    m.header.space = τ.groupSpace

/-- What a machine becomes that was to be taken and is let go. -/
structure Machine.LetGo (m m' : Machine) : Prop where
  unlabelled : m'.isMember = false
  marked : m'.isMarked = true
  alike : ∃ now, Kind.machine.Alike (m.condemned now) m'

/-- A machine is added under a new key. -/
def Store.Gains (s s' : Store) : Prop :=
  ∃ m : Machine, s.machines.get? m.header.key = none ∧ s' = s.put .machine m

theorem Scene.Arrives.gains {w w' : Scene} (h : w.Arrives w') : w.store.Gains w'.store := by
  obtain @⟨m, m', s, _, created⟩ := h
  obtain ⟨hnew, rfl, rfl⟩ := Store.create_ok created
  exact ⟨Kind.machine.withVersion m 1, hnew, rfl⟩

namespace Store

/-- The machines of a store are still there as they were, but for one that a creation may take,
which has changed in the given way. -/
def MachinesKept (s s' : Store) (may : Machine → Prop) (change : Machine → Machine → Prop) : Prop :=
  ∃ found, ∀ key m, s.machines.get? key = some m → s'.machines.get? key = some m ∨
    key = found ∧ may m ∧ ∃ m', s'.machines.get? key = some m' ∧ change m m'

/-- What a creation leaves that has undone itself. -/
structure Undone (p : Provider) (claim : Claim) (s s' : Store) : Prop where
  claims : s'.claims = s.claims
  classes : s'.classes = s.classes
  groups : ∀ key g, s.groups.get? key = some g →
    ∃ g', s'.groups.get? key = some g' ∧ Kind.group.Alike g g'
  machines : s.MachinesKept s' (p.MayTake claim s) Machine.LetGo

/-- What a creation leaves that could not undo itself. -/
structure HalfDone (p : Provider) (claim : Claim) (s s' : Store) : Prop where
  claims : s'.claims = s.claims
  classes : s'.classes = s.classes
  groups : ∃ τ g b, p.chosen? claim s s = some τ ∧
    s.groups.get? (objectKey τ.groupSpace τ.groupName) = some g ∧ g.replicas = some b ∧
    (∃ g', s'.groups.get? (objectKey τ.groupSpace τ.groupName) = some g' ∧
      Kind.group.Alike (g.scaled (b + 1)) g') ∧
    ∀ key, key ≠ objectKey τ.groupSpace τ.groupName → s'.groups.get? key = s.groups.get? key
  machines : s.MachinesKept s' (p.MayTake claim s)
    fun m m' => Kind.machine.Alike m.joined m' ∨ m.LetGo m'

end Store

namespace Compensation

variable (p : Provider) (claim : Claim) (s : Store) (r : Reservation) (s' : Store)

/-- The tables that a creation does not write before it binds. -/
structure Frame : Prop where
  keyed : s'.Keyed
  claims : s'.claims = s.claims
  classes : s'.classes = s.classes

/-- The chosen group has one replica more. -/
structure Raised : Prop where
  chosen : ∃ τ, p.chosen? claim s s = some τ ∧ τ.groupSpace = r.space ∧ τ.groupName = r.group
  groups : ∃ g, s.groups.get? r.key = some g ∧ g.header.key = r.key ∧
    g.replicas = some r.baseline ∧
    s'.groups = s.groups.insert r.key (Kind.group.bump (g.scaled (r.baseline + 1)))

/-- Every machine is still there as it was. -/
def AllKept : Prop :=
  ∀ key m, s.machines.get? key = some m → s'.machines.get? key = some m

/-- A machine that was listed as the first is now as the second, and all others are as they were. -/
structure Holds (m₀ m₁ : Machine) : Prop where
  free : r.Free m₀
  stored : s'.machines.get? m₀.header.key = some m₁
  before : ∀ m, s.machines.get? m₀.header.key = some m → m = m₀
  others : ∀ key m, key ≠ m₀.header.key → s.machines.get? key = some m →
    s'.machines.get? key = some m

variable {p claim s r s'}

theorem AllKept.holds (h : AllKept s s') {m : Machine} (hfree : r.Free m)
    (hm : s'.machines.get? m.header.key = some m) : Holds s r s' m m where
  free := hfree
  stored := hm
  before m' hm' := Option.some.inj ((h _ m' hm').symm.trans hm)
  others key m' _ hm' := h key m' hm'

/-- Writing the held machine again. -/
theorem Holds.write {m₀ m₁ m : Machine} (h : Holds s r s' m₀ m₁)
    (hkey : m.header.key = m₀.header.key) :
    Holds s r (s'.put .machine (Kind.machine.bump m)) m₀ (Kind.machine.bump m) where
  free := h.free
  stored := by rw [Store.machines_put_machine, Machine.key_bump, ← hkey, NameMap.get?_insert_self]
  before := h.before
  others key m' hne hm' := by
    rw [Store.machines_put_machine, Machine.key_bump, NameMap.get?_insert_of_ne _ _ (hkey ▸ hne)]
    exact h.others key m' hne hm'

theorem Raised.mayTake (h : Raised p claim s r s') {m : Machine} (hm : r.Free m) :
    p.MayTake claim s m := by
  obtain ⟨τ, hτ, hspace, hgroup⟩ := h.chosen
  exact ⟨hm.unlabelled, τ, hτ, by rw [hm.owner, hgroup], by rw [hm.space, hspace]⟩

theorem Holds.kept {m₀ m₁ : Machine} {change : Machine → Machine → Prop}
    (h : Holds s r s' m₀ m₁) (hr : Raised p claim s r s') (hchange : change m₀ m₁) :
    s.MachinesKept s' (p.MayTake claim s) change := by
  refine ⟨m₀.header.key, fun key m hm => ?_⟩
  by_cases hkey : key = m₀.header.key
  · subst hkey
    obtain rfl := h.before m hm
    exact .inr ⟨rfl, hr.mayTake h.free, m₁, h.stored, hchange⟩
  · exact .inl (h.others key m hkey hm)

theorem AllKept.kept (h : AllKept s s') (change : Machine → Machine → Prop) :
    s.MachinesKept s' (p.MayTake claim s) change := ⟨"", fun key m hm => .inl (h key m hm)⟩

/-! ### The points of a creation -/

/-- What there is to undo: a machine that was listed and may have been labelled, if there is one. -/
def Pending (s : Store) (r : Reservation) (s' : Store) : Option Machine → Prop
  | none => AllKept s s'
  | some m => ∃ m₀ m₁, m.header.key = m₀.header.key ∧
      (m₁ = m₀ ∨ m₁ = Kind.machine.bump m₀.joined) ∧ Holds s r s' m₀ m₁

/-- The machine, if there is one, is let go. -/
def Settled (s : Store) (r : Reservation) (s' : Store) : Prop :=
  AllKept s s' ∨ ∃ m₀ m₁, m₀.LetGo m₁ ∧ Holds s r s' m₀ m₁

theorem Settled.kept (h : Settled s r s') (hr : Raised p claim s r s') :
    s.MachinesKept s' (p.MayTake claim s) Machine.LetGo := by
  obtain h | ⟨m₀, m₁, hlet, h⟩ := h
  · exact h.kept _
  · exact h.kept hr hlet

/-- Machines that were released on behalf of a reservation. -/
theorem letGo_released {m₀ m₁ : Machine} (hfree : m₀.isMember = false)
    (h : m₁ = m₀ ∨ m₁ = Kind.machine.bump m₀.joined) (now : Nat) :
    m₀.LetGo (Kind.machine.bump (m₁.released now)) where
  unlabelled := by simp
  marked := by simp
  alike := by
    refine ⟨now, Kind.Alike.bump ?_⟩
    obtain rfl | rfl := h
    · rw [Machine.released_of_not_isMember now hfree]
      exact .refl _
    · exact Machine.alike_released_joined now hfree

theorem letGo_of_marked {m : Machine} (hfree : m.isMember = false) (hmarked : m.isMarked = true) :
    m.LetGo m where
  unlabelled := hfree
  marked := hmarked
  alike := ⟨0, by rw [Machine.condemned, if_pos hmarked]; exact .refl _⟩

/-! ### Arrivals spoil nothing -/

theorem get?_of_gains {s₁ s₂ : Store} (h : s₁.Gains s₂) {key : String} {m : Machine}
    (hm : s₁.machines.get? key = some m) : s₂.machines.get? key = some m := by
  obtain ⟨m', hnew, rfl⟩ := h
  rw [Store.machines_put_machine, NameMap.get?_insert_of_ne]
  · exact hm
  · rintro rfl
    rw [hnew] at hm
    cases hm

theorem Frame.gains {s₁ s₂ : Store} (hg : s₁.Gains s₂) (h : Frame s s₁) : Frame s s₂ := by
  obtain ⟨m, _, rfl⟩ := hg
  exact ⟨h.keyed.put .machine m, h.claims, h.classes⟩

theorem Raised.gains {s₁ s₂ : Store} (hg : s₁.Gains s₂) (h : Raised p claim s r s₁) :
    Raised p claim s r s₂ := by
  obtain ⟨m, _, rfl⟩ := hg
  exact ⟨h.chosen, h.groups⟩

theorem AllKept.gains {s₁ s₂ : Store} (hg : s₁.Gains s₂) (h : AllKept s s₁) : AllKept s s₂ :=
  fun key m hm => get?_of_gains hg (h key m hm)

theorem Holds.gains {s₁ s₂ : Store} (hg : s₁.Gains s₂) {m₀ m₁ : Machine}
    (h : Holds s r s₁ m₀ m₁) : Holds s r s₂ m₀ m₁ :=
  ⟨h.free, get?_of_gains hg h.stored, h.before,
    fun key m hne hm => get?_of_gains hg (h.others key m hne hm)⟩

theorem Pending.gains {s₁ s₂ : Store} (hg : s₁.Gains s₂) {x : Option Machine}
    (h : Pending s r s₁ x) : Pending s r s₂ x := by
  cases x with
  | none => exact AllKept.gains hg h
  | some m =>
    obtain ⟨m₀, m₁, hkey, hm₁, h⟩ := h
    exact ⟨m₀, m₁, hkey, hm₁, h.gains hg⟩

theorem Settled.gains {s₁ s₂ : Store} (hg : s₁.Gains s₂) (h : Settled s r s₁) :
    Settled s r s₂ := by
  obtain h | ⟨m₀, m₁, hlet, h⟩ := h
  · exact .inl (h.gains hg)
  · exact .inr ⟨m₀, m₁, hlet, h.gains hg⟩

theorem kept_gains {s₁ s₂ : Store} (hg : s₁.Gains s₂) {may : Machine → Prop}
    {change : Machine → Machine → Prop} (h : s.MachinesKept s₁ may change) :
    s.MachinesKept s₂ may change := by
  obtain ⟨found, h⟩ := h
  refine ⟨found, fun key m hm => ?_⟩
  obtain hm' | ⟨hkey, hmay, m', hm', hchange⟩ := h key m hm
  · exact .inl (get?_of_gains hg hm')
  · exact .inr ⟨hkey, hmay, m', get?_of_gains hg hm', hchange⟩

theorem Undone.gains {s₁ s₂ : Store} (hg : s₁.Gains s₂) (h : s.Undone p claim s₁) :
    s.Undone p claim s₂ := by
  obtain ⟨m, _, rfl⟩ := id hg
  exact ⟨h.claims, h.classes, h.groups, kept_gains hg h.machines⟩

theorem HalfDone.gains {s₁ s₂ : Store} (hg : s₁.Gains s₂) (h : s.HalfDone p claim s₁) :
    s.HalfDone p claim s₂ := by
  obtain ⟨m, _, rfl⟩ := id hg
  exact ⟨h.claims, h.classes, h.groups, kept_gains hg h.machines⟩

/-! ### From one point to the next -/

theorem undone_of_untouched (hf : Frame s s') (hgroups : s'.groups = s.groups)
    (hkept : AllKept s s') : s.Undone p claim s' where
  claims := hf.claims
  classes := hf.classes
  groups _ g hg := ⟨g, hgroups ▸ hg, Kind.Alike.refl (k := .group) g⟩
  machines := hkept.kept _

theorem raised_scaled {τ : MachineType} {g : MachineGroup} {b : Nat}
    (hτ : p.chosen? claim s s = some τ) (hgroups : s'.groups = s.groups)
    (hg : s'.groups.get? (objectKey τ.groupSpace τ.groupName) = some g)
    (hkey : g.header.key = objectKey τ.groupSpace τ.groupName) (hb : g.replicas = some b) :
    Raised p claim s (.fresh τ.groupSpace τ.groupName b)
      (s'.put .group (Kind.group.bump (g.scaled (b + 1)))) where
  chosen := ⟨τ, hτ, rfl, rfl⟩
  groups := by
    refine ⟨g, hgroups ▸ hg, hkey, hb, ?_⟩
    show s'.groups.insert g.header.key _ = s.groups.insert (objectKey _ _) _
    rw [hkey, hgroups]
    rfl

theorem halfDone_of_raised {change : Machine → Machine → Prop} (hf : Frame s s')
    (hr : Raised p claim s r s') (hkept : s.MachinesKept s' (p.MayTake claim s) change)
    (hchange : ∀ m m', change m m' → Kind.machine.Alike m.joined m' ∨ m.LetGo m') :
    s.HalfDone p claim s' where
  claims := hf.claims
  classes := hf.classes
  groups := by
    obtain ⟨τ, hτ, hspace, hgroup⟩ := hr.chosen
    obtain ⟨g, hg, _, hb, hgroups⟩ := hr.groups
    have hkey : objectKey τ.groupSpace τ.groupName = r.key := by rw [hspace, hgroup]; rfl
    refine ⟨τ, g, r.baseline, hτ, hkey ▸ hg, hb, ⟨_, ?_, Kind.alike_bump _⟩, fun key hne => ?_⟩
    · rw [hkey, hgroups, NameMap.get?_insert_self]
    · rw [hgroups, NameMap.get?_insert_of_ne _ _ (hkey ▸ hne)]
  machines := by
    obtain ⟨found, h⟩ := hkept
    refine ⟨found, fun key m hm => ?_⟩
    obtain h | ⟨hkey, hmay, m', hm', hc⟩ := h key m hm
    · exact .inl h
    · exact .inr ⟨hkey, hmay, m', hm', hchange m m' hc⟩

theorem undone_restored {g : MachineGroup} (hf : Frame s s') (hr : Raised p claim s r s')
    (hsettled : Settled s r s') (hg : s'.groups.get? r.key = some g) :
    s.Undone p claim (s'.put .group (Kind.group.bump (g.scaled r.baseline))) where
  claims := hf.claims
  classes := hf.classes
  groups key g₁ hg₁ := by
    obtain ⟨g₀, hg₀, hkey₀, hb, hgroups⟩ := hr.groups
    rw [hgroups, NameMap.get?_insert_self, Option.some.injEq] at hg
    subst hg
    have hback : Kind.group.Alike g₀
        (Kind.group.bump ((Kind.group.bump (g₀.scaled (r.baseline + 1))).scaled r.baseline)) := by
      refine ⟨g₀.header.version + 1 + 1, ?_⟩
      obtain ⟨header, replicas, template⟩ := g₀
      obtain rfl : replicas = some r.baseline := hb
      rfl
    by_cases hkey : key = r.key
    · subst hkey
      obtain rfl : g₀ = g₁ := Option.some.inj (hg₀.symm.trans hg₁)
      refine ⟨_, ?_, hback⟩
      show (s'.groups.insert g₀.header.key _).get? r.key = _
      rw [hkey₀, NameMap.get?_insert_self]
    · refine ⟨g₁, ?_, Kind.Alike.refl (k := .group) g₁⟩
      show (s'.groups.insert g₀.header.key _).get? key = _
      rw [hkey₀, NameMap.get?_insert_of_ne _ _ hkey, hgroups, NameMap.get?_insert_of_ne _ _ hkey]
      exact hg₁
  machines := hsettled.kept hr

theorem Holds.allKept {m : Machine} (h : Holds s r s' m m) : AllKept s s' := by
  intro key m' hm'
  by_cases hkey : key = m.header.key
  · subst hkey
    rw [h.before m' hm']
    exact h.stored
  · exact h.others key m' hkey hm'

theorem Pending.kept {x : Option Machine} (h : Pending s r s' x) (hr : Raised p claim s r s') :
    s.MachinesKept s' (p.MayTake claim s) fun m m' => m' = Kind.machine.bump m.joined := by
  cases x with
  | none => exact AllKept.kept h _
  | some m =>
    obtain ⟨m₀, m₁, _, rfl | rfl, h⟩ := h
    · exact h.allKept.kept _
    · exact h.kept hr rfl

/-! ### The outline -/

/-- The terms of a caller who is the only one to write, but for machines that arrive. -/
def terms (me : Caller) : Terms where
  caller := me
  rely := Scene.Arrives
  guarantee _ _ := True
  rests _ := trivial
  quiet _ _ _ _ := trivial

theorem lasting (me : Caller) (P : Store → Prop) (h : ∀ s₁ s₂, s₁.Gains s₂ → P s₁ → P s₂) :
    (terms me).Lasting fun w => P w.store where
  stable _ _ hP hw := h _ _ hw.gains hP
  quiet _ _ _ _ hP := hP

/-- Nothing has been written yet. -/
def Idle (s s' : Store) : Prop := Frame s s' ∧ s'.groups = s.groups ∧ AllKept s s'

def Reserved (p : Provider) (claim : Claim) (s : Store) (r : Reservation) (s' : Store) : Prop :=
  Frame s s' ∧ Raised p claim s r s' ∧ AllKept s s'

def Labelled (p : Provider) (claim : Claim) (s : Store) (r : Reservation) (s' : Store) : Prop :=
  Frame s s' ∧ Raised p claim s r s' ∧
    ∃ m₀, r.machine = some (Kind.machine.bump m₀.joined) ∧
      Holds s r s' m₀ (Kind.machine.bump m₀.joined)

def Undoing (p : Provider) (claim : Claim) (s : Store) (r : Reservation) (s' : Store) : Prop :=
  Frame s s' ∧ Raised p claim s r s' ∧ Pending s r s' r.machine

def Released (p : Provider) (claim : Claim) (s : Store) (r : Reservation) (s' : Store) : Prop :=
  Frame s s' ∧ Raised p claim s r s' ∧ Settled s r s'

/-- How a creation may end. -/
def Final (p : Provider) (claim : Claim) (s s' : Store) : Except Failure Claim → Prop
  | .ok _ => True
  | .error e => (e.plain → s.Undone p claim s') ∧
      ∀ primary cleanup, e = .compensationFailed primary cleanup → s.HalfDone p claim s'

theorem final_of_undone {e : Failure} (he : e.plain) (h : s.Undone p claim s') :
    Final p claim s s' (.error e) := by
  refine ⟨fun _ => h, fun primary cleanup hcf => ?_⟩
  rw [hcf] at he
  cases he

theorem final_of_halfDone {e cleanup : Failure} (h : s.HalfDone p claim s') :
    Final p claim s s' (.error (.compensationFailed e cleanup)) :=
  ⟨nofun, fun _ _ _ => h⟩

theorem final_populate (c : Claim) (m : Machine) (τ : MachineType) :
    Final p claim s s' (Provider.populate c m τ) := by
  unfold Provider.populate
  split
  · exact ⟨nofun, nofun⟩
  · trivial

/-- A creation beside which nobody else writes, but for machines that arrive. -/
def outline (me : Caller) (p : Provider) (claim : Claim) (s : Store) :
    CreateOutline (terms me) p claim where
  chosen τ := p.chosen? claim s s = some τ
  idle w := Idle s w.store
  knowsGroup key g w := w.store.groups.get? key = some g ∧ g.header.key = key
  knows key m w := w.store.machines.get? key = some m ∧ m.header.key = key
  reserved r w := Reserved p claim s r w.store
  labelled r w := Labelled p claim s r w.store
  undoing r w := Undoing p claim s r w.store
  released r w := Released p claim s r w.store
  final x w := Final p claim s w.store x
  lasting_idle := lasting me (Idle s) fun s₁ s₂ hg h => by
    obtain ⟨m, _, rfl⟩ := id hg
    exact ⟨h.1.gains hg, h.2.1, h.2.2.gains hg⟩
  lasting_knowsGroup key g :=
    lasting me (fun s' => s'.groups.get? key = some g ∧ g.header.key = key)
    fun s₁ s₂ hg h => by
      obtain ⟨m, _, rfl⟩ := hg
      exact h
  lasting_knows key m := lasting me
    (fun s' => s'.machines.get? key = some m ∧ m.header.key = key)
    fun _ _ hg h => ⟨get?_of_gains hg h.1, h.2⟩
  lasting_reserved r := lasting me (Reserved p claim s r)
    fun _ _ hg h => ⟨h.1.gains hg, h.2.1.gains hg, h.2.2.gains hg⟩
  lasting_labelled r := lasting me (Labelled p claim s r) fun _ _ hg ⟨hf, hr, m₀, hm₀, h⟩ =>
    ⟨hf.gains hg, hr.gains hg, m₀, hm₀, h.gains hg⟩
  lasting_undoing r := lasting me (Undoing p claim s r)
    fun _ _ hg h => ⟨h.1.gains hg, h.2.1.gains hg, h.2.2.gains hg⟩
  lasting_released r := lasting me (Released p claim s r)
    fun _ _ hg h => ⟨h.1.gains hg, h.2.1.gains hg, h.2.2.gains hg⟩
  lasting_final x := lasting me (fun s' => Final p claim s s' x) fun _ _ hg h => by
    cases x with
    | ok c => trivial
    | error e =>
      exact ⟨fun he => Undone.gains hg (h.1 he), fun _ _ he => HalfDone.gains hg (h.2 _ _ he)⟩
  choose τ w₁ w₂ h₁ h₂ hτ := by
    rwa [p.chosen?_congr claim h₁.1.classes h₂.2.1] at hτ
  stop e w he h := final_of_undone he (undone_of_untouched h.1 h.2.1 h.2.2)
  readGroup key g w h hg := ⟨hg, h.1.keyed .group key g hg⟩
  raise τ g b w hτ h hg hb _ _ := by
    refine ⟨trivial, ⟨?_, h.1.claims, h.1.classes⟩, raised_scaled hτ h.2.1 hg.1 hg.2 hb, h.2.2⟩
    exact Scene.keyed_writeGroup h.1.keyed
  list r m w h _ hm := ⟨(h.1.keyed.mem_values_iff .machine m).1 hm, rfl⟩
  label r m w h hfree hm _ := by
    refine ⟨trivial, ⟨?_, h.1.claims, h.1.classes⟩, ⟨h.2.1.chosen, h.2.1.groups⟩, m, rfl, ?_⟩
    · exact Scene.keyed_writeMachine h.1.keyed
    · obtain ⟨free, stored, before, others⟩ := (h.2.2.holds hfree hm.1).write m.key_joined
      exact ⟨⟨free.unlabelled, free.owner, free.space, free.staying⟩, stored, before, others⟩
  refuse r m _ _ w h hfree hm := by
    refine ⟨h.1, ⟨h.2.1.chosen, h.2.1.groups⟩, m, m, rfl, .inl rfl, ?_⟩
    obtain ⟨free, stored, before, others⟩ := h.2.2.holds hfree hm.1
    exact ⟨⟨free.unlabelled, free.owner, free.space, free.staying⟩, stored, before, others⟩
  bind r m τ w _ _ _ _ := ⟨trivial, final_populate _ _ _⟩
  giveUp r w h hr := ⟨h.1, h.2.1, by rw [hr]; exact h.2.2⟩
  abandon r w h := by
    obtain ⟨hf, hr, m₀, hm₀, h⟩ := h
    refine ⟨hf, hr, ?_⟩
    rw [hm₀]
    exact ⟨m₀, _, rfl, .inr rfl, h⟩
  reread r m stored w h _ hm := ⟨hm, h.1.keyed .machine _ stored hm⟩
  empty r w h hr := by
    refine ⟨h.1, h.2.1, .inl ?_⟩
    have := h.2.2
    rw [hr] at this
    exact this
  gone r m w h hr hgone := by
    obtain ⟨_, _, h⟩ := h
    rw [hr] at h
    obtain ⟨m₀, m₁, hkey, _, h⟩ := h
    rw [hkey, h.stored] at hgone
    cases hgone
  clean r m stored w h hr hm hmember hmarked := by
    obtain ⟨hf, hraised, h⟩ := h
    rw [hr] at h
    obtain ⟨m₀, m₁, hkey, hm₁, h⟩ := h
    obtain rfl : m₁ = stored := Option.some.inj (h.stored.symm.trans (hkey ▸ hm.1))
    obtain rfl | rfl := hm₁
    · exact ⟨hf, hraised, .inr ⟨m₁, m₁, letGo_of_marked hmember hmarked, h⟩⟩
    · simp at hmember
  release r m known now w h hr hm _ _ := by
    obtain ⟨hf, hraised, h⟩ := h
    rw [hr] at h
    obtain ⟨m₀, m₁, hkey, hm₁, h⟩ := h
    obtain rfl : m₁ = known := Option.some.inj (h.stored.symm.trans (hkey ▸ hm.1))
    refine ⟨trivial, ⟨?_, hf.claims, hf.classes⟩, ⟨hraised.chosen, hraised.groups⟩, .inr
      ⟨m₀, _, letGo_released h.free.unlabelled hm₁ now, h.write ?_⟩⟩
    · exact Scene.keyed_writeMachine hf.keyed
    · rw [Machine.key_released, hm.2, hkey]
  stuck r e cleanup w h := final_of_halfDone
    (halfDone_of_raised h.1 h.2.1 (h.2.2.kept h.2.1) fun m m' hm => .inl (hm ▸ Kind.alike_bump _))
  rereadGroup r g w h hg := ⟨hg, h.1.keyed .group _ g hg⟩
  restore r e g w he h hg _ :=
    ⟨trivial, final_of_undone he (undone_restored h.1 h.2.1 h.2.2 hg.1)⟩
  half r e cleanup w h := final_of_halfDone
    (halfDone_of_raised h.1 h.2.1 (h.2.2.kept h.2.1) fun m m' hm => .inr hm)

end Compensation

/-- A creation that fails has undone itself, and if it says that undoing failed, it is half done. -/
theorem create_undone {p : Provider} {claim : Claim} {me : Caller} {w w' : Scene} {e : Failure}
    (keyed : w.store.Keyed) (unbound : claim.binding? = none)
    (run : (p.create claim).Ends me Scene.Arrives w (.error e) w') :
    (e.plain → w.store.Undone p claim w'.store) ∧
      ∀ primary cleanup, e = .compensationFailed primary cleanup →
        w.store.HalfDone p claim w'.store := by
  let o := Compensation.outline me p claim w.store
  have idle : o.idle w := ⟨⟨keyed, rfl, rfl⟩, rfl, fun _ _ hm => hm⟩
  have ensures : (p.create claim).Ensures (Compensation.terms me)
      (fun x w' => Compensation.Final p claim w.store w'.store x) w := by
    refine o.ensures_create o.lasting_idle idle (fun e w' he h => o.stop e w' he h)
      (fun w' h _ => ⟨trivial, h⟩) (fun hb => ?_) fun x w' h => ⟨trivial, h⟩
    exact absurd unbound hb
  exact ensures.of_ends run

/-- A claim that is not stored cannot be bound, so the machine that was taken for it is let go. -/
theorem create_undone_for_unstored_claim :
    ∃ w', (Provider.sample.create .sample).Ends ⟨0, 0⟩ Scene.Arrives (.start .sample)
        (.error (.store (.updatingClaim "web") (.notFound .claim "/web"))) w' ∧
      Store.sample.Undone Provider.sample .sample w'.store := by
  have run : (Provider.sample.create .sample).Ends ⟨0, 0⟩ Scene.Arrives (.start .sample)
      (.error (.store (.updatingClaim "web") (.notFound .claim "/web"))) _ :=
    Program.ends_advance ⟨0, 0⟩ Scene.Arrives 0 20 (Program.eq_of_hasFailed (by decide +kernel))
  exact ⟨_, run, (create_undone Store.keyed_sample rfl run).1 rfl⟩

end MachineClaims
