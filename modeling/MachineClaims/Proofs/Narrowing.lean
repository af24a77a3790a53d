import MachineClaims.Proofs.Cardinality
import MachineClaims.Proofs.Compatibility

/-!
# Constraints that are narrowed

When a set is added to constraints, fewer values are left for its key and no fewer have to remain, so a
conflict stays (`Constraints.conflict?_inter_ne_none`) but for one way out: the narrowed set only
excludes values and so does that of the other side, and then a missing label is thought to satisfy both.
That is how a narrowed set can be compatible with what it was not compatible with before
(`Constraints.narrowing_creates_iff`).
-/

namespace MachineClaims

namespace Constraints

variable {key : String} {r s x : ValueSet}

/-- Two sets of which one is narrowed have no more values in common, and no fewer have to remain. So a
conflict stays, unless both only exclude values then. -/
theorem conflict?_inter_ne_none (h : conflict? key r s ≠ none)
    (demanding : ¬ (excludes (r.inter x) = true ∧ excludes s = true)) :
    conflict? key (r.inter x) s ≠ none := by
  have hnarrowed : (r.inter x).inter s = (r.inter s).inter x := ValueSet.inter_right_comm r x s
  have hsize := ValueSet.size_inter_le (r.inter s) x
  intro hnone
  rw [conflict?_eq_none_iff, or_iff_right demanding, hnarrowed] at hnone
  obtain ⟨hsome, henough⟩ := hnone
  refine h (conflict?_eq_none_iff.2 (.inr ⟨fun hzero => ?_, fun min hmin => ?_⟩))
  · rw [hzero] at hsize
    exact hsome (nonpos_iff_eq_zero.1 hsize)
  · obtain ⟨min', hmin', hle⟩ := ValueSet.exists_le_larger? hmin x.minValues
    rw [← ValueSet.minValues_inter] at hmin'
    calc (min : ℕ∞) ≤ min' := Nat.cast_le.2 hle
      _ ≤ ((r.inter s).inter x).size := henough min' hmin'
      _ ≤ (r.inter s).size := hsize

/-- Nothing stands against two sets that only exclude values. -/
theorem conflict?_of_excludes (hr : excludes r = true) (hs : excludes s = true) :
    conflict? key r s = none := conflict?_eq_none_iff.2 (.inl ⟨hr, hs⟩)

/-- What is in conflict before it is narrowed and not afterwards demands a value before and only excludes
some afterwards, as the other set does. -/
theorem conflict?_relieved_iff : conflict? key r s ≠ none ∧ conflict? key (r.inter x) s = none ↔
    conflict? key r s ≠ none ∧ excludes r = false ∧ excludes (r.inter x) = true ∧ excludes s = true := by
  refine and_congr_right fun hconflict => ⟨fun hnone => ?_, fun h => conflict?_of_excludes h.2.1 h.2.2⟩
  have hboth : excludes (r.inter x) = true ∧ excludes s = true := by
    by_contra hdemanding
    exact conflict?_inter_ne_none hconflict hdemanding hnone
  refine ⟨?_, hboth⟩
  rw [← Bool.not_eq_true]
  exact fun hr => hconflict (conflict?_of_excludes hr hboth.2)

/-! ### One key and the others -/

variable {ours theirs : Constraints}

/-- The sets that both sides keep for a key are not in conflict, if both keep one. -/
def AgreeOn (ours theirs : Constraints) (key : String) : Prop :=
  ∀ r s, ours.get? key = some r → theirs.get? key = some s → conflict? key r s = none

theorem compatible_iff_agreeOn :
    ours.compatible theirs = true ↔ ∀ key, AgreeOn ours theirs key := compatible_iff

theorem agreeOn_of_get? (hr : ours.get? key = some r) (hs : theirs.get? key = some s) :
    AgreeOn ours theirs key ↔ conflict? key r s = none := by
  simp [AgreeOn, hr, hs]

/-- Adding a set concerns its own key only. -/
theorem Keyed.agreeOn_add_of_ne (h : ours.Keyed) (hkey : key ≠ x.key) :
    AgreeOn (ours.add x) theirs key ↔ AgreeOn ours theirs key := by
  rw [AgreeOn, AgreeOn, h.get?_add, if_neg hkey]

/-- Adding a set relieves its key of a conflict just if it relieves the set that is kept there. -/
theorem Keyed.agreeOn_add_iff (h : ours.Keyed) :
    ¬ AgreeOn ours theirs x.key ∧ AgreeOn (ours.add x) theirs x.key ↔
      ∃ r s, ours.get? x.key = some r ∧ theirs.get? x.key = some s ∧ conflict? x.key r s ≠ none ∧
        excludes r = false ∧ excludes (r.inter x) = true ∧ excludes s = true := by
  have hadd : ∀ {r}, ours.get? x.key = some r → (ours.add x).get? x.key = some (r.inter x) := by
    intro r hr
    rw [h.get?_add, if_pos rfl, hr]
    rfl
  constructor
  · rintro ⟨hold, hnew⟩
    unfold AgreeOn at hold
    push Not at hold
    obtain ⟨r, s, hr, hs, hconflict⟩ := hold
    exact ⟨r, s, hr, hs, conflict?_relieved_iff.1 ⟨hconflict, hnew _ s (hadd hr) hs⟩⟩
  · rintro ⟨r, s, hr, hs, hrelieved⟩
    rw [agreeOn_of_get? hr hs, agreeOn_of_get? (hadd hr) hs]
    exact conflict?_relieved_iff.2 hrelieved

/-- Adding a set makes constraints compatible that were not, just if they were in conflict for its key
alone, and there because the set that was kept does not only exclude values, while the narrowed set does
and so does that of the other side. -/
theorem narrowing_creates_iff (l m : List ValueSet) (x : ValueSet) :
    ((ofList l).compatible (ofList m) = false ∧ ((ofList l).add x).compatible (ofList m) = true) ↔
      (∃ r s, (ofList l).get? x.key = some r ∧ (ofList m).get? x.key = some s ∧
        conflict? x.key r s ≠ none ∧ excludes r = false ∧ excludes (r.inter x) = true ∧
        excludes s = true) ∧
      ∀ key ≠ x.key, AgreeOn (ofList l) (ofList m) key := by
  have hkeyed := keyed_ofList l
  rw [← hkeyed.agreeOn_add_iff, ← Bool.not_eq_true, compatible_iff_agreeOn, compatible_iff_agreeOn]
  constructor
  · rintro ⟨hold, hnew⟩
    have hothers : ∀ key ≠ x.key, AgreeOn (ofList l) (ofList m) key :=
      fun key hkey => (hkeyed.agreeOn_add_of_ne hkey).1 (hnew key)
    refine ⟨⟨fun hagree => hold fun key => ?_, hnew x.key⟩, hothers⟩
    by_cases hkey : key = x.key
    · exact hkey ▸ hagree
    · exact hothers key hkey
  · rintro ⟨⟨hold, hnew⟩, hothers⟩
    refine ⟨fun hall => hold (hall x.key), fun key => ?_⟩
    by_cases hkey : key = x.key
    · exact hkey ▸ hnew
    · exact (hkeyed.agreeOn_add_of_ne hkey).2 (hothers key hkey)

/-- A label that has to be there is in conflict with one that must not be, until some value of it is
excluded as well. And a label that has to have a value is in conflict with one that must not have it,
until both must not. -/
theorem narrowing_creates_compatibility :
    (ofList [.present "gpu"]).compatible (ofList [.absent "gpu"]) = false ∧
    ((ofList [.present "gpu"]).add (.notIn "gpu" ["a100"])).compatible (ofList [.absent "gpu"]) = true ∧
    (ofList [.isIn "gpu" ["a100"]]).compatible (ofList [.notIn "gpu" ["a100"]]) = false ∧
    ((ofList [.isIn "gpu" ["a100"]]).add (.notIn "gpu" ["a100"])).compatible
      (ofList [.notIn "gpu" ["a100"]]) = true := by
  decide

end Constraints
end MachineClaims
