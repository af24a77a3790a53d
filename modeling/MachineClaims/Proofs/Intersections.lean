import MachineClaims.Proofs.Members
import Mathlib.Data.Int.Order.Basic
import Mathlib.Order.MinMax

/-!
# Intersections in any order

What an intersection lists is said by what both sets list or have (`ValueSet.contains_inter`), whether
they list values or exclude them. So it does not matter how intersections are nested, nor, but for the
key, which of two sets comes first. An intersection lists no value that its bounds exclude
(`ValueSet.Pruned`), and such sets are those that an intersection with themselves leaves as they are
(`ValueSet.inter_self_iff`). The main statement is `ValueSet.inter_semilattice`.
-/

namespace MachineClaims.ValueSet

theorem larger?_eq_merge {α : Type} [LinearOrder α] (a b : Option α) :
    larger? a b = a.merge max b := by
  cases a <;> cases b <;> simp [larger?, max_def_lt]

theorem smaller?_eq_merge {α : Type} [LinearOrder α] (a b : Option α) :
    smaller? a b = b.merge min a := by
  cases a <;> cases b <;> simp [smaller?, min_def_lt]

/-- The parts of a set, and which values it lists, determine it. -/
private theorem eq_of_parts {r s : ValueSet} (key : r.key = s.key)
    (complement : r.complement = s.complement)
    (values : ∀ value, r.values.contains value = s.values.contains value)
    (above : r.above = s.above) (below : r.below = s.below) (min : r.minValues = s.minValues) :
    r = s := by
  have hvalues : r.values = s.values := NameSet.ext_contains values
  cases r
  cases s
  simp_all

variable (r s t : ValueSet)

@[simp] theorem above_inter : (r.inter s).above = larger? r.above s.above := by rw [inter_eq]

@[simp] theorem below_inter : (r.inter s).below = smaller? r.below s.below := by rw [inter_eq]

/-- An intersection that excludes values excludes what either set excludes, and any other one lists
what both sets have. -/
theorem contains_inter (value : String) : (r.inter s).values.contains value =
    if r.complement && s.complement then r.values.contains value || s.values.contains value
    else r.has value && s.has value := by
  cases hfinite : r.complement && s.complement with
  | false => simp [contains_values_inter hfinite, has_inter]
  | true =>
    obtain ⟨hr, hs⟩ := (Bool.and_eq_true ..).mp hfinite
    simp [values_inter, interValues, hr, hs]

/-- An intersection depends on which set comes first only in its key. -/
theorem inter_swap : r.inter s = { s.inter r with key := r.key } := by
  apply eq_of_parts
  · simp
  · simp [Bool.and_comm]
  · intro value
    simp only [contains_inter, Bool.and_comm, Bool.or_comm]
  · simp only [above_inter, larger?_eq_merge]
    ac_rfl
  · simp only [below_inter, smaller?_eq_merge]
    ac_rfl
  · simp only [minValues_inter, larger?_eq_merge]
    ac_rfl

theorem inter_assoc : (r.inter s).inter t = r.inter (s.inter t) := by
  apply eq_of_parts
  · simp
  · simp [Bool.and_assoc]
  · intro value
    simp only [contains_inter, complement_inter, has_inter]
    -- Excluded values are united only as long as no set lists its values.
    cases r.complement <;> cases s.complement <;> cases t.complement <;>
      simp [Bool.and_assoc, Bool.or_assoc]
  · simp only [above_inter, larger?_eq_merge]
    ac_rfl
  · simp only [below_inter, smaller?_eq_merge]
    ac_rfl
  · simp only [minValues_inter, larger?_eq_merge]
    ac_rfl

theorem inter_comm_iff : r.inter s = s.inter r ↔ r.key = s.key := by
  constructor
  · intro h
    simpa using congrArg key h
  · intro h
    rw [inter_swap, h, ← key_inter s r]

theorem inter_comm {r s : ValueSet} (h : r.key = s.key) : r.inter s = s.inter r :=
  (inter_comm_iff r s).2 h

theorem inter_right_comm : (r.inter s).inter t = (r.inter t).inter s := by
  calc (r.inter s).inter t = r.inter (s.inter t) := inter_assoc r s t
    _ = r.inter (t.inter s) := by rw [inter_swap s t]; rfl
    _ = (r.inter t).inter s := (inter_assoc r t s).symm

/-! ### Sets without values that their bounds exclude -/

/-- If the set lists the values that it allows, all of them are within its bounds. -/
def Pruned : Prop :=
  r.complement = false → ∀ value, r.values.contains value = true → r.inBounds value = true

theorem pruned_inter : (r.inter s).Pruned := by
  intro hfinite value hvalue
  rw [complement_inter] at hfinite
  rw [contains_values_inter hfinite, has, Bool.and_eq_true] at hvalue
  exact hvalue.1

/-- The sets that are their own intersections are those that are pruned. -/
theorem inter_self_iff : r.inter r = r ↔ r.Pruned := by
  constructor
  · intro h
    exact h ▸ pruned_inter r r
  · intro h
    apply eq_of_parts
    · simp
    · simp
    · intro value
      rw [contains_inter, Bool.and_self, Bool.or_self, Bool.and_self]
      cases hfinite : r.complement with
      | true => simp
      | false =>
        rw [has, hfinite]
        cases hvalue : r.values.contains value with
        | false => simp
        | true => simp [h hfinite value hvalue]
    · cases habove : r.above <;> simp [larger?_eq_merge, habove]
    · cases hbelow : r.below <;> simp [smaller?_eq_merge, hbelow]
    · cases hmin : r.minValues <;> simp [larger?_eq_merge, hmin]

/-- An intersection has the values that both sets have. Intersecting is associative, and commutative
just for sets of one key; an intersection that lists its values lists only such as are within its bounds,
and it is its own intersection. -/
theorem inter_semilattice :
    (∀ value, (r.inter s).has value = true ↔ r.has value = true ∧ s.has value = true) ∧
    (r.inter s = s.inter r ↔ r.key = s.key) ∧
    (r.inter s).inter t = r.inter (s.inter t) ∧
    ((r.inter s).complement = false → ∀ value,
      (r.inter s).values.contains value = true → (r.inter s).inBounds value = true) ∧
    (r.inter s).inter (r.inter s) = r.inter s := by
  refine ⟨fun value => ?_, inter_comm_iff r s, inter_assoc r s t, pruned_inter r s,
    (inter_self_iff _).2 (pruned_inter r s)⟩
  rw [has_inter, Bool.and_eq_true]

/-- Of a set that was not pruned an intersection drops the value that its bound excludes. -/
example : (isIn "size" ["2", "8"]).inter (greater "size" 4) =
    { isIn "size" ["8"] with above := some 4 } := by decide

end MachineClaims.ValueSet
