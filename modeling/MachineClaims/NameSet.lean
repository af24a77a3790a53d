import MachineClaims.NameMap

/-!
# Sets of names

A finite set of strings is a map to the one-element type, so its members are listed in code point
order and sets with the same members are equal (`ext_contains`).
-/

namespace MachineClaims

/-- A finite set of strings. -/
abbrev NameSet := NameMap Unit

namespace NameSet

/-- The set of the listed names. -/
def ofNames (l : List String) : NameSet := NameMap.ofList (l.map fun name => (name, ()))

/-- The names that are in `s` or in `t`. -/
def union (s t : NameSet) : NameSet := s.insertAll t.entries

/-- The names of `s` that satisfy `p`. -/
def sift (s : NameSet) (p : String → Bool) : NameSet := s.filter fun name _ => p name

/-- The names that are in `s` and in `t`. -/
def inter (s t : NameSet) : NameSet := sift s t.contains

/-- The names that are in `s` and not in `t`. -/
def diff (s t : NameSet) : NameSet := sift s fun name => !t.contains name

theorem contains_insertAll (s : NameSet) (l : List (String × Unit)) (name : String) :
    (s.insertAll l).contains name = (s.contains name || l.any (·.1 == name)) := by
  induction l generalizing s with
  | nil => simp [NameMap.insertAll]
  | cons e l ih =>
    have hstep : s.insertAll (e :: l) = (s.insert e.1 e.2).insertAll l := rfl
    rw [hstep, ih, NameMap.contains, NameMap.get?_insert, NameMap.contains]
    by_cases h : name = e.1
    · simp [h]
    · have h' : (e.1 == name) = false := by simpa using fun heq : e.1 = name => h heq.symm
      simp [h, h']

@[simp] theorem contains_ofNames (l : List String) (name : String) :
    (ofNames l).contains name = l.contains name := by
  rw [ofNames, NameMap.ofList, contains_insertAll]
  have h : (NameMap.empty : NameSet).contains name = false := rfl
  rw [h, Bool.false_or, List.any_map]
  induction l with
  | nil => rfl
  | cons a l ih =>
    rw [List.any_cons, List.contains_cons, ih]
    congr 1
    exact Bool.beq_comm

@[simp] theorem contains_sift (s : NameSet) (p : String → Bool) (name : String) :
    (sift s p).contains name = (s.contains name && p name) := by
  rw [sift, NameMap.contains, NameMap.get?_filter, NameMap.contains]
  cases s.get? name with
  | none => rfl
  | some u => cases p name <;> simp [Option.filter]

@[simp] theorem contains_inter (s t : NameSet) (name : String) :
    (inter s t).contains name = (s.contains name && t.contains name) := contains_sift s _ name

@[simp] theorem contains_diff (s t : NameSet) (name : String) :
    (diff s t).contains name = (s.contains name && !t.contains name) := contains_sift s _ name

@[simp] theorem contains_union (s t : NameSet) (name : String) :
    (union s t).contains name = (s.contains name || t.contains name) := by
  rw [union, contains_insertAll]
  congr 1
  rw [Bool.eq_iff_iff, List.any_eq_true, ← NameMap.mem_keys_iff, NameMap.keys, List.mem_map]
  simp only [beq_iff_eq]

/-- Sets with the same members are equal. -/
theorem ext_contains {s t : NameSet} (h : ∀ name, s.contains name = t.contains name) : s = t := by
  refine NameMap.ext_get? fun name => ?_
  have h := h name
  simp only [NameMap.contains] at h
  cases hs : s.get? name <;> cases ht : t.get? name <;> simp_all

end NameSet
end MachineClaims
