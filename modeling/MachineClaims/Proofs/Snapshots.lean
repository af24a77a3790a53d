import MachineClaims.Proofs.Reversal
import MachineClaims.Proofs.Sessions
import MachineClaims.Provider.Snapshot
import Mathlib.Data.List.Forall2

/-!
# How machines are shown

Showing a machine only reads: its group, and of that only what its machines offer
(`Provider.snapshotOf_eq`). Listing comes to the snapshots of all members in the order of their keys
(`Provider.alone_list`), and getting a claim to the snapshot of the one machine with its provider id
(`Provider.alone_get`).
-/

namespace MachineClaims

namespace Store

variable {s : Store} {m : Machine}

/-- The stored machines that have been taken, in the order of their keys. -/
def members (s : Store) : List Machine := s.machines.values.filter (·.isMember)

theorem Keyed.mem_members_iff (h : s.Keyed) :
    m ∈ s.members ↔ s.machines.get? m.header.key = some m ∧ m.isMember = true := by
  rw [members, List.mem_filter]
  exact and_congr_left fun _ => h.mem_values_iff .machine m

theorem Keyed.pairwise_members (h : s.Keyed) :
    (s.members.map (·.header.key)).Pairwise (· < ·) :=
  (h.pairwise_values .machine).sublist (List.filter_sublist.map _)

/-- The selector of a listing accepts just the members. -/
theorem list_members (s : Store) :
    s.list .machine (some (Selector.everything.withPresent memberLabel)) = .ok s.members := by
  have haccepts : ∀ m : Machine,
      (Selector.everything.withPresent memberLabel).accepts m.header.labels = m.isMember := by
    intro m
    rw [Selector.withPresent, Selector.accepts_withExpression, Selector.accepts_everything]
    rfl
  unfold Store.list
  rw [Store.mapM_read fun _ _ => rfl]
  exact congrArg Except.ok (List.filter_congr fun m _ => haccepts m)

end Store

/-- Actions that leave the store as it is are run one after the other. -/
theorem Action.alone_mapM {α β : Type} {f : α → Action β} {now : Nat} {s : Store} (l : List α)
    (h : ∀ a ∈ l, ((f a).alone now s).2 = s) :
    (l.mapM f).alone now s = (l.mapM fun a => ((f a).alone now s).1, s) := by
  induction l with
  | nil => rfl
  | cons a l ih =>
    rw [List.forall_mem_cons] at h
    rw [List.mapM_cons, List.mapM_cons, alone_bind, h.1]
    cases ((f a).alone now s).1 with
    | error e => rfl
    | ok b =>
      dsimp only
      rw [alone_bind, ih h.2]
      cases l.mapM fun a => ((f a).alone now s).1 with
      | error e => rfl
      | ok bs => rfl

/-- The claim that shows a machine of a type. -/
def Claim.showing (m : Machine) (τ : MachineType) : Claim :=
  let claim := (Claim.new "" none).bound m.header.key
  { claim with
    header := { claim.header with labels := τ.labels }
    providerId := m.providerId.getD ""
    capacity := τ.capacity
    allocatable := τ.allocatable }

@[simp] theorem Claim.binding?_showing (m : Machine) (τ : MachineType) :
    (showing m τ).binding? = some m.header.key := binding?_bound ..

namespace Provider

variable {p : Provider} {s : Store} {m : Machine} {g : MachineGroup} {τ : MachineType} {now : Nat}

/-- A machine is shown just if its group declares processors and memory. -/
theorem snapshotOf_eq (hτ : MachineType.ofGroup p.propagation g = .ok τ) : p.snapshotOf m g =
    match [Capacity.cpu, Capacity.memory].find? fun resource => !τ.capacity.contains resource with
    | some resource => .error (.missingCapacity m.header.key g.header.key resource)
    | none => .ok (.showing m τ) := by
  unfold snapshotOf
  rw [machineType_eq_ok_iff.2 hτ]
  rfl

theorem binding?_of_snapshotOf {c : Claim} (h : p.snapshotOf m g = .ok c) :
    c.binding? = some m.header.key := by
  cases hτ : MachineType.ofGroup p.propagation g with
  | error e =>
    simp only [snapshotOf, machineType, hτ] at h
    cases h
  | ok τ =>
    rw [snapshotOf_eq hτ] at h
    split at h
    · cases h
    · obtain rfl := Except.ok.inj h
      exact Claim.binding?_showing m τ

theorem store_owningGroup (m : Machine) (now : Nat) (s : Store) :
    ((owningGroup m).alone now s).2 = s := by
  unfold owningGroup
  cases m.owner? <;> rfl

theorem store_snapshot (p : Provider) (m : Machine) (now : Nat) (s : Store) :
    ((p.snapshot m).alone now s).2 = s := by
  unfold snapshot
  rw [Action.alone_bind, store_owningGroup]
  cases ((owningGroup m).alone now s).1 <;> rfl

theorem binding?_of_snapshot {c : Claim} (h : ((p.snapshot m).alone now s).1 = .ok c) :
    c.binding? = some m.header.key := by
  unfold snapshot at h
  rw [Action.alone_bind] at h
  cases hg : ((owningGroup m).alone now s).1 with
  | error e =>
    rw [hg] at h
    cases h
  | ok g =>
    rw [hg] at h
    exact binding?_of_snapshotOf h

theorem alone_snapshot {owner : String} (hm : m.owner? = some owner)
    (hg : s.groups.get? (objectKey m.header.space owner) = some g) (now : Nat) :
    (p.snapshot m).alone now s = (p.snapshotOf m g, s) := by
  unfold snapshot
  rw [Action.alone_bind, alone_owningGroup hm hg]
  rfl

theorem alone_list (p : Provider) (now : Nat) (s : Store) : p.list.alone now s =
    (s.members.mapM fun m => ((p.snapshot m).alone now s).1, s) := by
  unfold list
  simp only [Action.alone_bind, Action.call, Action.alone_ask, Action.alone_done,
    Program.answerAlone, Call.perform, s.list_members, Call.during]
  exact Action.alone_mapM _ fun m _ => store_snapshot p m now s

/-- The one machine with a provider id is shown under it. -/
theorem alone_get (distinct : s.Distinct) {key id : String} (hm : s.machines.get? key = some m)
    (hid : m.providerId = some id) (known : id ≠ "") (now : Nat) :
    (p.get id).alone now s = (p.snapshot m).alone now s := by
  have hfind := distinct.find hm hid known
  unfold get
  simp [known, Action.call, Program.answerAlone, Call.perform, s.list_machines, Call.during,
    Except.map, hfind]

/-- What showing machines comes to, by listing them and by their provider ids: the members come in the
order of their keys, each as its own snapshot, or one of them cannot be shown; and a machine is shown
by its provider id as it is in the list. -/
structure ReadsAlike (p : Provider) (now : Nat) (s : Store) : Prop where
  members : ∀ m, m ∈ s.members ↔ s.machines.get? m.header.key = some m ∧ m.isMember = true
  increasing : (s.members.map (·.header.key)).Pairwise (· < ·)
  lists : ∀ claims, p.list.alone now s = (.ok claims, s) ↔
    List.Forall₂ (fun m c => (p.snapshot m).alone now s = (.ok c, s)) s.members claims
  fails : (∃ e, p.list.alone now s = (.error e, s)) ↔
    ∃ m ∈ s.members, ∃ e, (p.snapshot m).alone now s = (.error e, s)
  gets : ∀ m key id, s.machines.get? key = some m → m.providerId = some id → id ≠ "" →
    (p.get id).alone now s = (p.snapshot m).alone now s
  listed : ∀ m ∈ s.members, ∀ id claims, m.providerId = some id → id ≠ "" →
    p.list.alone now s = (.ok claims, s) → ∃ c, (p.get id).alone now s = (.ok c, s) ∧
      ∀ c', c' ∈ claims ∧ c'.binding? = some m.header.key ↔ c' = c

/-- What a snapshot comes to, with the store that it leaves. -/
private theorem alone_snapshot_eq_iff {x : Except Failure Claim} :
    (p.snapshot m).alone now s = (x, s) ↔ ((p.snapshot m).alone now s).1 = x := by
  rw [Prod.ext_iff]
  exact and_iff_left (store_snapshot p m now s)

theorem alone_list_eq_ok_iff {claims : List Claim} : p.list.alone now s = (.ok claims, s) ↔
    s.members.mapM (fun m => ((p.snapshot m).alone now s).1) = .ok claims := by
  rw [alone_list, Prod.mk.injEq]
  exact and_iff_left rfl

/-- Members with one key are one. -/
private theorem eq_of_mem_members (keyed : s.Keyed) {m' : Machine} (hm : m ∈ s.members)
    (hm' : m' ∈ s.members) (h : m'.header.key = m.header.key) : m' = m := by
  have hstored := (keyed.mem_members_iff.1 hm).1
  rw [← h, (keyed.mem_members_iff.1 hm').1] at hstored
  exact Option.some.inj hstored

theorem readsAlike (keyed : s.Keyed) (distinct : s.Distinct) (p : Provider) (now : Nat) :
    p.ReadsAlike now s where
  members _ := keyed.mem_members_iff
  increasing := keyed.pairwise_members
  lists claims := by
    simp only [alone_snapshot_eq_iff]
    rw [alone_list_eq_ok_iff, mapM_eq_ok_iff, ← List.forall₂_eq_eq_eq, List.forall₂_map_left_iff,
      List.forall₂_map_right_iff]
  fails := by
    simp only [alone_snapshot_eq_iff, alone_list, Prod.mk.injEq, and_true]
    exact exists_mapM_eq_error_iff
  gets m key id hm hid known := alone_get distinct hm hid known now
  listed m hm id claims hid known hlist := by
    rw [alone_list_eq_ok_iff] at hlist
    have hstored := (keyed.mem_members_iff.1 hm).1
    obtain ⟨c, hc⟩ := exists_mapM_eq_ok_iff.1 ⟨claims, hlist⟩ m hm
    refine ⟨c, ?_, fun c' => ⟨?_, ?_⟩⟩
    · rw [alone_get distinct hstored hid known]
      exact alone_snapshot_eq_iff.2 hc
    · rintro ⟨hmem, hbinding⟩
      obtain ⟨m', hm', hc'⟩ := (mem_iff_of_mapM hlist c').1 hmem
      have hkey : m'.header.key = m.header.key :=
        Option.some.inj ((binding?_of_snapshot hc').symm.trans hbinding)
      obtain rfl := eq_of_mem_members keyed hm hm' hkey
      exact Except.ok.inj (hc'.symm.trans hc)
    · rintro rfl
      exact ⟨(mem_iff_of_mapM hlist c').2 ⟨m, hm, hc⟩, binding?_of_snapshot hc⟩

end Provider
end MachineClaims
