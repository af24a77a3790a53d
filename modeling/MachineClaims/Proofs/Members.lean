import MachineClaims.Constraints
import Mathlib.Data.List.Induction

/-!
# What sets of values and constraints allow

A property of sets distributes over intersections if it is one of the values that a set has
(`ValueSet.has_inter`) or a limit to the number of values that have to remain
(`ValueSet.minValues_inter_le_iff`). Constraints keep for each key the intersection of all sets that were
added for it (`Constraints.get?_ofList`), so such a property holds of what is kept just if it holds of
everything that was added (`Constraints.forall_get?_ofList`). A set is compatible with a single value
just if a label with this value satisfies it (`Constraints.conflict?_isIn_eq_none_iff`).
-/

namespace MachineClaims

/-- A key has at most one entry. -/
theorem NameMap.entries_filter_key {α : Type} (m : NameMap α) (key : String) :
    m.entries.filter (fun e => e.1 = key) = ((m.get? key).map (key, ·)).toList := by
  have hmap : m.filter (fun key' _ => key' = key) =
      ((m.get? key).map fun value => (∅ : NameMap α).insert key value).getD ∅ := by
    apply NameMap.ext_get?
    intro key'
    rw [NameMap.get?_filter]
    by_cases hkey : key' = key
    · subst hkey
      cases m.get? key' <;> simp [Option.filter]
    · cases m.get? key <;> cases m.get? key' <;>
        simp [hkey, Option.filter, NameMap.get?_insert]
  have hentries := congrArg NameMap.entries hmap
  refine Eq.trans hentries ?_
  cases m.get? key <;> rfl

namespace ValueSet

section

variable {α : Type} {a b : Option α} {p : α → Bool}

private theorem all_merge {f : α → α → α} (hf : ∀ x y, p (f x y) = (p x && p y)) :
    (a.merge f b).all p = (a.all p && b.all p) := by
  cases a <;> cases b <;> simp [hf]

private theorem ite_eq_and {c : Prop} [Decidable c] {x y : α} (hy : c → p y = true → p x = true)
    (hx : ¬ c → p x = true → p y = true) : p (if c then y else x) = (p x && p y) := by
  rw [Bool.eq_iff_iff, Bool.and_eq_true]
  split
  · rename_i hc
    exact ⟨fun h => ⟨hy hc h, h⟩, fun h => h.2⟩
  · rename_i hc
    exact ⟨fun h => ⟨h, hx hc h⟩, fun h => h.1⟩

variable [LT α] [DecidableLT α]

/-- What holds of smaller values too holds of the larger one just if it holds of both. -/
theorem all_larger? (hlt : ∀ x y, x < y → p y = true → p x = true)
    (hle : ∀ x y, ¬ x < y → p x = true → p y = true) :
    (larger? a b).all p = (a.all p && b.all p) := by
  have hmerge : larger? a b = a.merge (fun x y => if x < y then y else x) b := by
    cases a <;> cases b <;> rfl
  rw [hmerge, all_merge fun x y => ite_eq_and (hlt x y) (hle x y)]

/-- What holds of larger values too holds of the smaller one just if it holds of both. -/
theorem all_smaller? (hlt : ∀ x y, x < y → p x = true → p y = true)
    (hle : ∀ x y, ¬ x < y → p y = true → p x = true) :
    (smaller? a b).all p = (a.all p && b.all p) := by
  have hmerge : smaller? a b = a.merge (fun x y => if y < x then y else x) b := by
    cases a <;> cases b <;> rfl
  rw [hmerge, all_merge fun x y => ite_eq_and (hlt y x) (hle y x)]

end

variable (r s : ValueSet) (value : String)

/-- Each bound is for itself a condition on the integer that a value writes. -/
theorem inBounds_eq : r.inBounds value =
    (r.above.all (fun bound => (integer? value).any (bound < ·)) &&
      r.below.all (fun bound => (integer? value).any (· < bound))) := by
  unfold inBounds
  cases r.above <;> cases r.below <;> cases integer? value <;> simp

theorem inter_eq : r.inter s =
    { key := r.key
      complement := r.complement && s.complement
      values :=
        if r.complement && s.complement then r.interValues s
        else (r.interValues s).sift (r.inter s).inBounds
      above := larger? r.above s.above
      below := smaller? r.below s.below
      minValues := larger? r.minValues s.minValues } := by
  simp only [inter]
  cases r.complement && s.complement <;> rfl

@[simp] theorem key_inter : (r.inter s).key = r.key := by rw [inter_eq]

@[simp] theorem complement_inter :
    (r.inter s).complement = (r.complement && s.complement) := by rw [inter_eq]

theorem values_inter : (r.inter s).values =
    if r.complement && s.complement then r.interValues s
    else (r.interValues s).sift (r.inter s).inBounds :=
  congrArg values (inter_eq r s)

@[simp] theorem minValues_inter :
    (r.inter s).minValues = larger? r.minValues s.minValues := by rw [inter_eq]

theorem inBounds_inter :
    (r.inter s).inBounds value = (r.inBounds value && s.inBounds value) := by
  have habove (x y : Int) (h : x ≤ y) :
      (integer? value).any (y < ·) = true → (integer? value).any (x < ·) = true := by
    cases integer? value with
    | none => exact id
    | some n =>
      simp only [Option.any_some, decide_eq_true_eq]
      omega
  have hbelow (x y : Int) (h : x ≤ y) :
      (integer? value).any (· < x) = true → (integer? value).any (· < y) = true := by
    cases integer? value with
    | none => exact id
    | some n =>
      simp only [Option.any_some, decide_eq_true_eq]
      omega
  rw [inter_eq, inBounds_eq,
    all_larger? (fun x y h => habove x y (Int.le_of_lt h)) fun x y h => habove y x (Int.not_lt.1 h),
    all_smaller? (fun x y h => hbelow x y (Int.le_of_lt h)) fun x y h => hbelow y x (Int.not_lt.1 h),
    inBounds_eq, inBounds_eq]
  ac_rfl

theorem contains_interValues :
    ((r.interValues s).contains value != (r.complement && s.complement)) =
      ((r.values.contains value != r.complement) && (s.values.contains value != s.complement)) := by
  unfold interValues
  cases r.complement <;> cases s.complement <;> simp [Bool.and_comm]

/-- What both sets have is what their intersection has. -/
theorem has_inter : (r.inter s).has value = (r.has value && s.has value) := by
  have hlisted : (r.inter s).has value = ((r.inter s).inBounds value &&
      ((r.interValues s).contains value != (r.complement && s.complement))) := by
    rw [has, values_inter, complement_inter]
    cases r.complement && s.complement with
    | true => rfl
    | false =>
      -- Values out of bounds have been dropped, but the bounds exclude them anyway.
      cases hbounds : (r.inter s).inBounds value <;> simp [hbounds]
  rw [hlisted, inBounds_inter, contains_interValues, has, has]
  ac_rfl

/-- A finite intersection lists just what it has. -/
theorem contains_values_inter {r s : ValueSet} (finite : (r.complement && s.complement) = false)
    (value : String) : (r.inter s).values.contains value = (r.inter s).has value := by
  rw [has, values_inter, complement_inter, finite]
  cases hbounds : (r.inter s).inBounds value <;> simp [hbounds]

theorem count?_inter {r s : ValueSet} (finite : (r.complement && s.complement) = false) :
    (r.inter s).count? = some (r.inter s).values.keys.length := by
  have hbounds : ∀ value ∈ (r.inter s).values.keys, (r.inter s).inBounds value = true := by
    intro value hvalue
    have hhas : (r.inter s).has value = true := by
      rw [← contains_values_inter finite]
      exact NameMap.mem_keys_iff.1 hvalue
    exact (Bool.and_eq_true .. ▸ hhas).1
  rw [count?, complement_inter, finite]
  exact congrArg some (List.countP_eq_length.2 hbounds)

/-- As many values as both sets ask for have to remain of their intersection. -/
theorem minValues_inter_le_iff (limit : Nat) : (∀ min ∈ (r.inter s).minValues, min ≤ limit) ↔
    (∀ min ∈ r.minValues, min ≤ limit) ∧ ∀ min ∈ s.minValues, min ≤ limit := by
  have hp (x y : Nat) (h : x ≤ y) : decide (y ≤ limit) = true → decide (x ≤ limit) = true := by
    simpa using Nat.le_trans h
  have hall : (larger? r.minValues s.minValues).all (fun min => decide (min ≤ limit)) = _ :=
    all_larger? (fun x y h => hp x y (Nat.le_of_lt h)) fun x y h => hp y x (Nat.not_lt.1 h)
  rw [← minValues_inter, Bool.eq_iff_iff, Bool.and_eq_true] at hall
  simp only [Option.all_eq_true, decide_eq_true_eq] at hall
  exact hall

@[simp] theorem has_isIn (key : String) (values : List String) :
    (isIn key values).has value = values.contains value := by
  simp [has, isIn, inBounds]

/-! ### A set and a single value -/

/-- A label with this value satisfies the set: it has the value, and no more than one value has to
remain. -/
def Takes (r : ValueSet) (value : String) : Prop :=
  r.has value = true ∧ ∀ min ∈ r.minValues, min ≤ 1

theorem count?_inter_isIn (key : String) :
    (r.inter (isIn key [value])).count? = some (if r.has value then 1 else 0) := by
  have hfinite : (r.complement && (isIn key [value]).complement) = false := Bool.and_false _
  have hvalues : (r.inter (isIn key [value])).values =
      if r.has value then .ofNames [value] else ∅ := by
    apply NameSet.ext_contains
    intro x
    rw [contains_values_inter hfinite, has_inter, has_isIn]
    have hempty : (∅ : NameSet).contains x = false := rfl
    by_cases hx : x = value
    · subst hx
      cases r.has x <;> simp [hempty]
    · cases r.has value <;> simp [hempty, hx]
  rw [count?_inter hfinite, hvalues]
  cases r.has value <;> rfl

theorem takes_inter : (r.inter s).Takes value ↔ r.Takes value ∧ s.Takes value := by
  rw [Takes, has_inter, Bool.and_eq_true, minValues_inter_le_iff]
  exact and_and_and_comm

end ValueSet

namespace Constraints

/-- Every set lies under its own key. -/
def Keyed (rs : Constraints) : Prop := ∀ key r, rs.get? key = some r → r.key = key

theorem keyed_empty : Keyed ∅ := nofun

variable {rs : Constraints} {r : ValueSet} {key : String}

theorem Keyed.get?_add (h : rs.Keyed) (r : ValueSet) (key : String) :
    (rs.add r).get? key =
      if key = r.key then some ((rs.get? key).elim r (·.inter r)) else rs.get? key := by
  have hadd : rs.add r = rs.insert r.key ((rs.get? r.key).elim r (·.inter r)) := by
    unfold add
    cases hr : rs.get? r.key with
    | none => rfl
    | some existing =>
      have hkey : (existing.inter r).key = r.key := (existing.key_inter r).trans (h r.key existing hr)
      exact congrArg (rs.insert · (existing.inter r)) hkey
  rw [hadd, NameMap.get?_insert]
  split
  · rename_i heq
    rw [heq]
  · rfl

theorem Keyed.add (h : rs.Keyed) (r : ValueSet) : (rs.add r).Keyed := by
  intro key s hs
  rw [h.get?_add] at hs
  split at hs
  · rename_i heq
    obtain rfl := Option.some.inj hs
    cases hr : rs.get? key with
    | none => exact heq.symm
    | some existing => exact (existing.key_inter r).trans (h key existing hr)
  · exact h key s hs

/-- The intersection of all sets of a list. -/
def meet? : List ValueSet → Option ValueSet
  | [] => none
  | r :: l => some (l.foldl .inter r)

theorem meet?_concat (l : List ValueSet) (r : ValueSet) :
    meet? (l ++ [r]) = some ((meet? l).elim r (·.inter r)) := by
  cases l with
  | nil => rfl
  | cons a l => simp [meet?]

theorem keyed_ofList (l : List ValueSet) : (ofList l).Keyed := by
  induction l using List.reverseRecOn with
  | nil => exact keyed_empty
  | append_singleton l r ih =>
    rw [ofList, List.foldl_append]
    exact ih.add r

/-- What is kept for a key is the intersection of all that was added for it. -/
theorem get?_ofList (l : List ValueSet) (key : String) :
    (ofList l).get? key = meet? (l.filter fun r => r.key = key) := by
  induction l using List.reverseRecOn with
  | nil => rfl
  | append_singleton l r ih =>
    have hstep : ofList (l ++ [r]) = (ofList l).add r := List.foldl_append ..
    rw [hstep, (keyed_ofList l).get?_add, ih, List.filter_append]
    by_cases h : key = r.key
    · rw [if_pos h, List.filter_cons_of_pos (by simpa using h.symm), List.filter_nil, meet?_concat]
    · rw [if_neg h, List.filter_cons_of_neg (by simpa using fun heq => h heq.symm),
        List.filter_nil, List.append_nil]

/-- What holds of an intersection just if it holds of both sets, holds of what is kept for a key just
if it holds of all that was added for it. -/
theorem forall_get?_ofList {P : ValueSet → Prop} (hP : ∀ r s, P (r.inter s) ↔ P r ∧ P s)
    (l : List ValueSet) (key : String) :
    (∀ r, (ofList l).get? key = some r → P r) ↔ ∀ r ∈ l, r.key = key → P r := by
  have hfold : ∀ (l : List ValueSet) (r : ValueSet), P (l.foldl .inter r) ↔ P r ∧ ∀ s ∈ l, P s := by
    intro l
    induction l with
    | nil => simp
    | cons s l ih =>
      intro r
      rw [List.foldl_cons, ih, hP, List.forall_mem_cons, and_assoc]
  have hmeet : ∀ l : List ValueSet, (∀ r, meet? l = some r → P r) ↔ ∀ r ∈ l, P r := by
    intro l
    cases l with
    | nil => simp [meet?]
    | cons r l => simp only [meet?, Option.some.injEq, forall_eq', hfold, List.forall_mem_cons]
  rw [get?_ofList, hmeet]
  simp only [List.mem_filter, decide_eq_true_eq, and_imp]

/-- Something is kept for just the keys for which something was added. -/
theorem contains_ofList_iff {l : List ValueSet} :
    (ofList l).contains key = true ↔ ∃ r ∈ l, r.key = key := by
  have hmeet : ∀ l : List ValueSet, (meet? l).isSome = true ↔ ∃ r, r ∈ l := by
    intro l
    cases l with
    | nil => simp [meet?]
    | cons r l => simp [meet?]
  rw [NameMap.contains, get?_ofList, hmeet]
  simp only [List.mem_filter, decide_eq_true_eq]

/-! ### Constraints by labels -/

theorem ofLabels_eq (labels : Labels) :
    ofLabels labels = labels.mapValues fun key value => .isIn key [value] := by
  apply NameMap.ext_get?
  intro key
  have hfilter : (labels.entries.map fun e => ValueSet.isIn e.1 [e.2]).filter (fun r => r.key = key) =
      ((labels.get? key).map fun value => ValueSet.isIn key [value]).toList := by
    rw [List.filter_map]
    refine Eq.trans (congrArg _ (labels.entries_filter_key key)) ?_
    cases labels.get? key <;> rfl
  rw [ofLabels, get?_ofList, hfilter, NameMap.get?_mapValues]
  cases labels.get? key <;> rfl

/-- A set is compatible with one value just if a label with this value satisfies it. -/
theorem conflict?_isIn_eq_none_iff {key' value : String} :
    conflict? key r (.isIn key' [value]) = none ↔ r.Takes value := by
  have hmin : (r.inter (.isIn key' [value])).minValues = r.minValues := by
    rw [ValueSet.minValues_inter]
    cases r.minValues <;> rfl
  have hexcludes : excludes (.isIn key' [value]) = false := rfl
  simp only [conflict?, ValueSet.count?_inter_isIn, hmin, hexcludes, ValueSet.Takes]
  cases r.has value with
  | false => simp
  | true => cases r.minValues <;> simp

theorem compatible_iff {ours theirs : Constraints} : ours.compatible theirs = true ↔
    ∀ key r s, ours.get? key = some r → theirs.get? key = some s → conflict? key r s = none := by
  rw [compatible, Option.isNone_iff_eq_none, incompatibility?, List.findSome?_eq_none_iff]
  simp only [Option.bind_eq_none_iff, Prod.forall, NameMap.mem_entries_iff]
  exact ⟨fun h key r s hr hs => h key r hr s hs, fun h key r hr s hs => h key r s hr hs⟩

/-- Constraints are compatible with labels just if these satisfy all sets for their keys. -/
theorem compatible_labels_iff {ours theirs : Constraints} {labels : Labels}
    (h : ∀ key, theirs.get? key = (labels.get? key).map fun value => .isIn key [value]) :
    ours.compatible theirs = true ↔
      ∀ key r value, ours.get? key = some r → labels.get? key = some value → r.Takes value := by
  rw [compatible_iff]
  constructor
  · intro hnone key r value hr hvalue
    have hs : theirs.get? key = some (.isIn key [value]) := by rw [h, hvalue, Option.map_some]
    exact conflict?_isIn_eq_none_iff.1 (hnone key r _ hr hs)
  · intro htakes key r s hr hs
    rw [h, Option.map_eq_some_iff] at hs
    obtain ⟨value, hvalue, rfl⟩ := hs
    exact conflict?_isIn_eq_none_iff.2 (htakes key r value hr hvalue)

end Constraints
end MachineClaims
