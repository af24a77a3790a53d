import MachineClaims.MachineType
import Mathlib.Algebra.Order.Group.Int
import Mathlib.Order.Lattice

/-!
# What machines leave for work

The three lists of an overhead hold back their sum of each resource (`Overhead.reserved`), and what is
left of the capacity depends on these sums alone. It is the difference, and at least nothing, where the
sum is not zero; where it is zero, the capacity stays as it is even if it is below zero. The main
statement is `MachineType.allocatable_floored_iff`.
-/

namespace MachineClaims

namespace Overhead

/-- What the three lists hold back of a resource together. -/
def reserved (o : Overhead) (resource : String) : Int :=
  amount o.kubeReserved resource + amount o.systemReserved resource + amount o.evictionThreshold resource

theorem amount_of_get?_eq_none {l : Resources} {resource : String}
    (h : l.get? resource = Option.none) :
    amount l resource = 0 := by
  rw [amount, h, Option.map_none, Option.getD_none]

theorem get?_total (o : Overhead) (resource : String) : o.total.get? resource =
    ((o.evictionThreshold.get? resource).or ((o.systemReserved.get? resource).or
      (o.kubeReserved.get? resource))).map fun _ => Quantity.ofMillis (o.reserved resource) := by
  rw [total, NameMap.get?_mapValues, NameMap.get?_insertAll, NameMap.get?_insertAll]
  simp only [NameMap.ofList_entries]
  rfl

/-- A resource that no list mentions is not held back. -/
theorem reserved_of_get?_total_eq_none {o : Overhead} {resource : String}
    (h : o.total.get? resource = Option.none) : o.reserved resource = 0 := by
  rw [get?_total, Option.map_eq_none_iff, Option.or_eq_none_iff, Option.or_eq_none_iff] at h
  obtain ⟨heviction, hsystem, hkube⟩ := h
  rw [reserved, amount_of_get?_eq_none hkube, amount_of_get?_eq_none hsystem,
    amount_of_get?_eq_none heviction, add_zero, add_zero]

end Overhead

namespace MachineType

variable (t : MachineType)

/-- What is left of a resource. The lists count by their sum, whether they mention the resource or not. -/
theorem get?_allocatable (resource : String) : t.allocatable.get? resource =
    (t.capacity.get? resource).map fun q => q.minus (.ofMillis (t.overhead.reserved resource)) := by
  rw [allocatable, NameMap.get?_mapValues]
  congr 1
  funext q
  cases htotal : t.overhead.total.get? resource with
  | none =>
    have hzero := Overhead.reserved_of_get?_total_eq_none htotal
    simp [hzero, Quantity.minus]
  | some r =>
    rw [Overhead.get?_total, Option.map_eq_some_iff] at htotal
    obtain ⟨_, -, rfl⟩ := htotal
    rfl

end MachineType

theorem Quantity.millis_minus (a b : Quantity) :
    (a.minus b).millis = if b.millis = 0 then a.millis else max 0 (a.millis - b.millis) := by
  unfold minus
  split
  · rfl
  · rw [millis_ofMillis, max_comm]

/-- The amounts that are left are those of the resources of the capacity. One is the capacity less what
the three lists hold back, and at least nothing, just if the capacity is not below zero or something is
held back of it in sum; otherwise the capacity itself is left. And only these sums matter. -/
theorem MachineType.allocatable_floored_iff (t : MachineType) :
    t.allocatable.keys = t.capacity.keys ∧
    (∀ resource q, t.capacity.get? resource = some q →
      ∃ left, t.allocatable.get? resource = some left ∧
        (left.millis = max 0 (q.millis - Overhead.amount t.overhead.kubeReserved resource -
            Overhead.amount t.overhead.systemReserved resource -
            Overhead.amount t.overhead.evictionThreshold resource) ↔
          0 ≤ q.millis ∨ t.overhead.reserved resource ≠ 0) ∧
        (0 ≤ left.millis ↔ 0 ≤ q.millis ∨ t.overhead.reserved resource ≠ 0) ∧
        (t.overhead.reserved resource = 0 → left = q)) ∧
    ∀ overhead, overhead.reserved = t.overhead.reserved →
      ({ t with overhead } : MachineType).allocatable = t.allocatable := by
  refine ⟨List.map_map .., fun resource q hq => ?_, fun overhead hsums => ?_⟩
  · refine ⟨_, by rw [get?_allocatable, hq, Option.map_some], ?_⟩
    have hmillis := q.millis_minus (.ofMillis (t.overhead.reserved resource))
    rw [Quantity.millis_ofMillis] at hmillis
    have hreserved : q.millis - Overhead.amount t.overhead.kubeReserved resource -
        Overhead.amount t.overhead.systemReserved resource -
        Overhead.amount t.overhead.evictionThreshold resource =
          q.millis - t.overhead.reserved resource := by
      unfold Overhead.reserved
      omega
    rw [hreserved, hmillis]
    refine ⟨?_, ?_, fun hzero => ?_⟩
    · split <;> omega
    · split <;> omega
    · rw [hzero]
      rfl
  · apply NameMap.ext_get?
    intro resource
    rw [get?_allocatable, get?_allocatable, hsums]

/-- A group whose machines have so many processors. -/
def MachineGroup.withProcessors (text : String) : MachineGroup :=
  { MachineGroup.new "capi" "md-1" (some 1) with
    header := (Header.new "capi" "md-1").annotate Capacity.cpuKey text }

/-- Of four processors three are left when two lists hold back half of one each, and the same is left when
one list holds back the whole. -/
theorem MachineType.allocatable_floored_iff_halves :
    let half : Resources := (∅ : Resources).insert Capacity.cpu (.ofMillis 500)
    let whole : Resources := (∅ : Resources).insert Capacity.cpu (.ofMillis 1000)
    ∃ τ left, ofGroup .standard (.withProcessors "4") = .ok τ ∧
      ({ τ with overhead := ⟨half, half, ∅⟩ } : MachineType).allocatable.get? Capacity.cpu = some left ∧
      left.millis = 3000 ∧
      ({ τ with overhead := ⟨∅, ∅, whole⟩ } : MachineType).allocatable =
        ({ τ with overhead := ⟨half, half, ∅⟩ } : MachineType).allocatable := by
  intro half whole
  obtain ⟨τ, q, hτ, hq, hmillis⟩ : ∃ τ q, ofGroup .standard (.withProcessors "4") = .ok τ ∧
      τ.capacity.get? Capacity.cpu = some q ∧ q.millis = 4000 := ⟨_, _, rfl, rfl, rfl⟩
  obtain ⟨-, hleft, hsums⟩ := allocatable_floored_iff { τ with overhead := ⟨half, half, ∅⟩ }
  obtain ⟨left, hget, hfloored, -⟩ := hleft Capacity.cpu q hq
  refine ⟨τ, left, hτ, hget, ?_, hsums ⟨∅, ∅, whole⟩ ?_⟩
  · rw [hfloored.2 (.inl (by omega)), hmillis]
    rfl
  · funext resource
    by_cases hcpu : resource = Capacity.cpu
    · subst hcpu
      rfl
    · simp [Overhead.reserved, Overhead.amount, half, whole, NameMap.get?_insert, hcpu]

/-- A group may declare less than nothing, and then less than nothing is left. -/
theorem MachineType.allocatable_below_zero : ∃ τ left,
    ofGroup .standard (.withProcessors "-1") = .ok τ ∧
      τ.allocatable.get? Capacity.cpu = some left ∧ left.millis = -1000 :=
  ⟨_, _, rfl, rfl, rfl⟩

end MachineClaims
