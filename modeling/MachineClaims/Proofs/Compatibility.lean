import MachineClaims.Proofs.Demands

/-!
# Constraints compared from both sides

Comparing constraints finds the least key that both constrain and on which their sets are in conflict
(`Constraints.incompatibility?_eq_some_iff`). Intersections are commutative, so the sets of one key are in
conflict from both sides for the same reason (`Constraints.conflict?_swap`), and so are the constraints
(`Constraints.compatible_both_ways`).
-/

namespace MachineClaims

/-- A search through a map stops at the least key for which there is something to find. -/
theorem NameMap.findSome?_entries_eq_some_iff {α β : Type} {m : NameMap α} {f : String × α → Option β}
    {b : β} : m.entries.findSome? f = some b ↔
      ∃ key value, m.get? key = some value ∧ f (key, value) = some b ∧
        ∀ key' < key, ∀ value', m.get? key' = some value' → f (key', value') = none := by
  simp only [← mem_entries_iff]
  constructor
  · intro h
    obtain ⟨before, ⟨key, value⟩, after, hsplit, hfound, hnone⟩ := List.findSome?_eq_some_iff.1 h
    have hmem : (key, value) ∈ m.entries := by simp [hsplit]
    refine ⟨key, value, hmem, hfound, fun key' hlt value' hmem' => ?_⟩
    have hsorted := m.increasing
    rw [hsplit, List.pairwise_append, List.pairwise_cons] at hsorted
    rw [hsplit, List.mem_append, List.mem_cons] at hmem'
    rcases hmem' with hbefore | heq | hafter
    · exact hnone _ hbefore
    · obtain ⟨rfl, -⟩ := Prod.mk.inj heq
      exact absurd hlt (String.lt_irrefl _)
    · exact absurd (String.lt_trans hlt (hsorted.2.1.1 _ hafter)) (String.lt_irrefl _)
  · rintro ⟨key, value, hmem, hfound, hnone⟩
    obtain ⟨before, after, hsplit⟩ := List.append_of_mem hmem
    refine List.findSome?_eq_some_iff.2 ⟨before, (key, value), after, hsplit, hfound, ?_⟩
    rintro ⟨key', value'⟩ hbefore
    have hsorted := m.increasing
    rw [hsplit, List.pairwise_append] at hsorted
    have hlt : key' < key := hsorted.2.2 _ hbefore _ List.mem_cons_self
    exact hnone key' hlt value' (by simp [hsplit, hbefore])

/-- The same reason as the other side sees it. -/
def Incompatibility.swap : Incompatibility → Incompatibility
  | .disjoint key ours theirs => .disjoint key theirs ours
  | .tooFew key count min => .tooFew key count min

@[simp] theorem Incompatibility.swap_swap (e : Incompatibility) : e.swap.swap = e := by
  cases e <;> rfl

namespace Constraints

variable {ours theirs : Constraints} {key : String} {r s : ValueSet}

/-- What is found is the conflict on the least key that has one. -/
theorem incompatibility?_eq_some_iff {e : Incompatibility} :
    ours.incompatibility? theirs = some e ↔
      ∃ key r s, ours.get? key = some r ∧ theirs.get? key = some s ∧ conflict? key r s = some e ∧
        ∀ key' < key, ∀ r' s', ours.get? key' = some r' → theirs.get? key' = some s' →
          conflict? key' r' s' = none := by
  rw [incompatibility?, NameMap.findSome?_entries_eq_some_iff]
  simp only [Option.bind_eq_some_iff, Option.bind_eq_none_iff]
  constructor
  · rintro ⟨key, r, hr, ⟨s, hs, he⟩, hnone⟩
    exact ⟨key, r, s, hr, hs, he, fun key' hlt r' s' hr' hs' => hnone key' hlt r' hr' s' hs'⟩
  · rintro ⟨key, r, s, hr, hs, he, hnone⟩
    exact ⟨key, r, hr, ⟨s, hs, he⟩, fun key' hlt r' hr' s' hs' => hnone key' hlt r' s' hr' hs'⟩

theorem conflict?_swap (key : String) (h : r.key = s.key) :
    conflict? key s r = (conflict? key r s).map .swap := by
  simp only [conflict?, ValueSet.inter_comm h.symm, Bool.and_comm (excludes s)]
  split
  · split <;> rfl
  · split <;> rfl
  · rfl

/-- What one side finds the other one finds as well. -/
theorem Keyed.incompatibility?_swap (hours : ours.Keyed) (htheirs : theirs.Keyed) {e : Incompatibility}
    (h : ours.incompatibility? theirs = some e) : theirs.incompatibility? ours = some e.swap := by
  obtain ⟨key, r, s, hr, hs, he, hnone⟩ := incompatibility?_eq_some_iff.1 h
  have hkeys : ∀ {key r s}, ours.get? key = some r → theirs.get? key = some s → r.key = s.key :=
    fun hr hs => (hours _ _ hr).trans (htheirs _ _ hs).symm
  refine incompatibility?_eq_some_iff.2 ⟨key, s, r, hs, hr, ?_, fun key' hlt s' r' hs' hr' => ?_⟩
  · rw [conflict?_swap key (hkeys hr hs), he]
    rfl
  · rw [conflict?_swap key' (hkeys hr' hs'), hnone key' hlt r' s' hr' hs']
    rfl

/-- Constraints are compatible from both sides or from neither, and then both sides find the same key,
for the same reason: either no value is left, or the same number of values when the same number has to
remain. -/
theorem compatible_both_ways (l m : List ValueSet) :
    ((ofList l).compatible (ofList m) = true ↔ (ofList m).compatible (ofList l) = true) ∧
    ∀ e, (ofList l).incompatibility? (ofList m) = some e ↔
      (ofList m).incompatibility? (ofList l) = some e.swap := by
  have hfound : ∀ (l m : List ValueSet) {e : Incompatibility},
      (ofList l).incompatibility? (ofList m) = some e →
        (ofList m).incompatibility? (ofList l) = some e.swap :=
    fun l m _ => (keyed_ofList l).incompatibility?_swap (keyed_ofList m)
  have hreason (e : Incompatibility) : (ofList l).incompatibility? (ofList m) = some e ↔
      (ofList m).incompatibility? (ofList l) = some e.swap :=
    ⟨hfound l m, fun h => by simpa using hfound m l h⟩
  refine ⟨?_, hreason⟩
  rw [compatible, compatible, Option.isNone_iff_eq_none, Option.isNone_iff_eq_none,
    Option.eq_none_iff_forall_ne_some, Option.eq_none_iff_forall_ne_some]
  exact ⟨fun h e he => h e.swap (hfound m l he), fun h e he => h e.swap (hfound l m he)⟩

end Constraints
end MachineClaims
