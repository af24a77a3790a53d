import MachineClaims.Proofs.Amounts
import MachineClaims.Proofs.Keyed
import MachineClaims.Provider.Create
import Mathlib.Data.Prod.Lex
import Mathlib.Data.String.Basic

/-!
# The order in which groups come

Ranks are ordered lexicographically (`rankBefore_iff`). Of types with different ranks, the one that
comes before all others is found, in whatever order they are listed (`least_eq_some_iff`). The types
of the groups that a class selects are listed just if all of them can be understood
(`mem_typesOf_iff`, `exists_typesOf`).
-/

namespace MachineClaims.Provider

variable {a b : String × String × String} {t u : MachineType} {l types : List MachineType}
  {constraints : Constraints} {requests : Resources}

/-- A rank as an element of the lexicographic order. -/
def rankKey (a : String × String × String) : String ×ₗ String ×ₗ String := toLex (a.1, toLex a.2)

theorem rankBefore_iff : rankBefore a b = true ↔ rankKey a < rankKey b := by
  unfold rankKey
  rw [Prod.Lex.toLex_lt_toLex, Prod.Lex.toLex_lt_toLex]
  simp [rankBefore]

theorem rankKey_inj (h : rankKey a = rankKey b) : a = b := by
  obtain ⟨hname, hrest⟩ := Prod.mk.inj (toLex_inj.1 h)
  exact Prod.ext hname (toLex_inj.1 hrest)

theorem least_eq_none_iff : least l = none ↔ l = [] := by
  constructor
  · intro h
    cases l with
    | nil => rfl
    | cons t l =>
      unfold least at h
      split at h
      · cases h
      · split at h <;> cases h
  · rintro rfl
    rfl

/-- What is found is listed, and nothing that is listed comes before it. -/
theorem least_spec (h : least l = some t) : t ∈ l ∧ ∀ u ∈ l, rankKey (rank t) ≤ rankKey (rank u) := by
  induction l generalizing t with
  | nil => cases h
  | cons v l ih =>
    rw [least] at h
    cases hrest : least l with
    | none =>
      obtain rfl := least_eq_none_iff.1 hrest
      rw [hrest] at h
      obtain rfl := Option.some.inj h
      exact ⟨List.mem_singleton_self v, fun u hu => by rw [List.mem_singleton.1 hu]⟩
    | some w =>
      obtain ⟨hmem, hle⟩ := ih hrest
      simp only [hrest] at h
      by_cases hbefore : rankBefore (rank w) (rank v) = true
      · rw [if_pos hbefore] at h
        obtain rfl := Option.some.inj h
        have hlt := rankBefore_iff.1 hbefore
        refine ⟨List.mem_cons_of_mem v hmem, fun u hu => ?_⟩
        obtain rfl | hu := List.mem_cons.1 hu
        · exact le_of_lt hlt
        · exact hle u hu
      · rw [if_neg hbefore] at h
        obtain rfl := Option.some.inj h
        have hvw : rankKey (rank v) ≤ rankKey (rank w) :=
          not_lt.1 fun hlt => hbefore (rankBefore_iff.2 hlt)
        refine ⟨List.mem_cons_self, fun u hu => ?_⟩
        obtain rfl | hu := List.mem_cons.1 hu
        · exact le_rfl
        · exact hvw.trans (hle u hu)

/-- Of types with different ranks, the one that comes before all others is found. -/
theorem least_eq_some_iff (distinct : ∀ t ∈ l, ∀ u ∈ l, rank t = rank u → t = u) :
    least l = some t ↔ t ∈ l ∧ ∀ u ∈ l, u ≠ t → rankBefore (rank t) (rank u) = true := by
  have first : ∀ {t}, least l = some t →
      t ∈ l ∧ ∀ u ∈ l, u ≠ t → rankBefore (rank t) (rank u) = true := by
    intro t h
    obtain ⟨hmem, hle⟩ := least_spec h
    refine ⟨hmem, fun u hu hne => rankBefore_iff.2 ?_⟩
    refine lt_of_le_of_ne (hle u hu) fun heq => hne ?_
    exact (distinct t hmem u hu (rankKey_inj heq)).symm
  constructor
  · exact first
  · rintro ⟨hmem, hbefore⟩
    cases hleast : least l with
    | none =>
      rw [least_eq_none_iff.1 hleast] at hmem
      cases hmem
    | some v =>
      obtain ⟨hv, hle⟩ := least_spec hleast
      by_cases heq : v = t
      · rw [heq]
      · have hlt := rankBefore_iff.1 (hbefore v hv heq)
        exact absurd (hle t hmem) (not_le.2 hlt)

theorem choose_eq_none_iff :
    choose types constraints requests = none ↔ ∀ t ∈ types, t.admits constraints requests = false := by
  unfold choose
  rw [least_eq_none_iff, List.filter_eq_nil_iff]
  simp only [Bool.not_eq_true]

theorem mem_of_choose (h : choose types constraints requests = some t) :
    t ∈ types ∧ t.admits constraints requests = true :=
  List.mem_filter.1 (least_spec h).1

/-! ### The types of groups -/

theorem machineType_eq_ok_iff {p : Provider} {activity : Activity} {g : MachineGroup} :
    p.machineType activity g = .ok t ↔ MachineType.ofGroup p.propagation g = .ok t := by
  unfold machineType
  cases MachineType.ofGroup p.propagation g with
  | ok u => simp only [Except.ok.injEq]
  | error e => exact ⟨nofun, nofun⟩

theorem name_of_ofGroup {policy : Propagation} {g : MachineGroup}
    (h : MachineType.ofGroup policy g = .ok t) :
    t.groupName = g.header.name ∧ t.groupSpace = g.header.space := by
  obtain ⟨capacity, -, rfl⟩ := MachineType.ofGroup_ok h
  exact ⟨rfl, rfl⟩

/-- The groups that a class selects, in the order of their keys. -/
def selected (c : CapacityClass) (s : Store) : List MachineGroup :=
  s.groups.values.filter fun g => c.selector.all (·.accepts g.header.labels)

/-- The types of the groups that a class selects, if all of them can be understood. -/
def typesOf (p : Provider) (c : CapacityClass) (s : Store) : Except Failure (List MachineType) :=
  (selected c s).mapM fun g => p.machineType (.typingGroup g.header.key) g

variable {p : Provider} {c : CapacityClass} {s : Store}

theorem mem_typesOf_iff (h : p.typesOf c s = .ok types) (t : MachineType) :
    t ∈ types ↔ ∃ g ∈ selected c s, MachineType.ofGroup p.propagation g = .ok t := by
  rw [mem_iff_of_mapM h]
  simp only [machineType_eq_ok_iff]

theorem length_typesOf (h : p.typesOf c s = .ok types) :
    types.length = (selected c s).length := by
  simpa using (congrArg List.length (mapM_eq_ok_iff.1 h)).symm

theorem exists_typesOf
    (h : ∀ g ∈ selected c s, ∃ t, MachineType.ofGroup p.propagation g = .ok t) :
    ∃ types, p.typesOf c s = .ok types := by
  refine exists_mapM_eq_ok_iff.2 fun g hg => ?_
  obtain ⟨t, ht⟩ := h g hg
  exact ⟨t, machineType_eq_ok_iff.2 ht⟩

/-- A selected group is stored under the key that its type gives. -/
theorem stored_of_selected (keyed : s.Keyed) {g : MachineGroup} (hg : g ∈ selected c s)
    (ht : MachineType.ofGroup p.propagation g = .ok t) :
    s.groups.get? (objectKey t.groupSpace t.groupName) = some g := by
  obtain ⟨hname, hspace⟩ := name_of_ofGroup ht
  rw [hname, hspace]
  exact (keyed.mem_values_iff .group g).1 (List.mem_filter.1 hg).1

end MachineClaims.Provider
