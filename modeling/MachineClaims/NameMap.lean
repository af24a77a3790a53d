/-!
# Maps keyed by names

A `NameMap` lists its entries by strictly increasing key, in code point order. Two maps are
therefore equal exactly when they look up alike (`ext_get?`), and every operation is described by
what it does to `get?`: `get?_insert`, `get?_insertAll`, `get?_erase`, `get?_filter`,
`get?_mapValues`.
-/

namespace MachineClaims

/-- A finite map from strings, its entries in increasing order of key. -/
structure NameMap (α : Type) where
  entries : List (String × α)
  increasing : entries.Pairwise (fun a b => a.1 < b.1)

namespace NameMap

variable {α β : Type}

@[ext] theorem ext {m n : NameMap α} (h : m.entries = n.entries) : m = n := by
  cases m; cases n; cases h; rfl

instance [DecidableEq α] : DecidableEq (NameMap α) := fun m n =>
  decidable_of_iff (m.entries = n.entries) ⟨ext, fun h => h ▸ rfl⟩

private theorem lt_of_not_lt {a b : String} (h : ¬ a < b) (hne : a ≠ b) : b < a :=
  Classical.byContradiction fun h' => hne (String.le_antisymm h' h)

/-! ### Entry lists -/

/-- The value listed for `key`. -/
def lookup (key : String) : List (String × α) → Option α
  | [] => none
  | (k, v) :: rest => if key = k then some v else lookup key rest

/-- Puts an entry in its place, replacing the one with an equal key. -/
def insertEntry (key : String) (value : α) : List (String × α) → List (String × α)
  | [] => [(key, value)]
  | (k, v) :: rest =>
    if key < k then (key, value) :: (k, v) :: rest
    else if key = k then (key, value) :: rest
    else (k, v) :: insertEntry key value rest

theorem mem_insertEntry {key : String} {value : α} {e : String × α} {l : List (String × α)}
    (h : e ∈ insertEntry key value l) : e = (key, value) ∨ e ∈ l := by
  induction l with
  | nil => simpa [insertEntry] using h
  | cons a l ih =>
    simp only [insertEntry] at h
    split at h
    · simpa using h
    · split at h
      · rcases List.mem_cons.1 h with h | h
        · exact .inl h
        · exact .inr (List.mem_cons_of_mem _ h)
      · rcases List.mem_cons.1 h with h | h
        · exact .inr (h ▸ List.mem_cons_self)
        · exact (ih h).imp_right (List.mem_cons_of_mem _)

theorem pairwise_insertEntry (key : String) (value : α) {l : List (String × α)}
    (h : l.Pairwise (fun a b => a.1 < b.1)) :
    (insertEntry key value l).Pairwise (fun a b => a.1 < b.1) := by
  induction l with
  | nil => simp [insertEntry]
  | cons a l ih =>
    rw [List.pairwise_cons] at h
    simp only [insertEntry]
    split
    · rename_i hlt
      refine List.pairwise_cons.2 ⟨fun e he => ?_, List.pairwise_cons.2 h⟩
      rcases List.mem_cons.1 he with rfl | he
      · exact hlt
      · exact String.lt_trans hlt (h.1 e he)
    · rename_i hlt
      split
      · rename_i heq
        exact List.pairwise_cons.2 ⟨fun e he => heq ▸ h.1 e he, h.2⟩
      · rename_i hne
        refine List.pairwise_cons.2 ⟨fun e he => ?_, ih h.2⟩
        rcases mem_insertEntry he with rfl | he
        · exact lt_of_not_lt hlt hne
        · exact h.1 e he

theorem lookup_insertEntry (key k : String) (value : α) (l : List (String × α)) :
    lookup k (insertEntry key value l) = if k = key then some value else lookup k l := by
  induction l with
  | nil => simp [insertEntry, lookup]
  | cons a l ih =>
    simp only [insertEntry]
    split
    · simp [lookup]
    · split
      · rename_i heq
        subst heq
        simp only [lookup]
        split <;> simp_all
      · rename_i hne
        simp only [lookup, ih]
        split <;> split <;> simp_all

theorem lookup_eq_none_of_forall_ne {key : String} {l : List (String × α)}
    (h : ∀ e ∈ l, key ≠ e.1) : lookup key l = none := by
  induction l with
  | nil => rfl
  | cons a l ih =>
    simp only [lookup]
    rw [if_neg (h a List.mem_cons_self)]
    exact ih fun e he => h e (List.mem_cons_of_mem _ he)

theorem mem_of_lookup_eq_some {key : String} {value : α} {l : List (String × α)}
    (h : lookup key l = some value) : (key, value) ∈ l := by
  induction l with
  | nil => simp [lookup] at h
  | cons a l ih =>
    simp only [lookup] at h
    split at h
    · rename_i heq
      cases h
      exact heq ▸ List.mem_cons_self
    · exact List.mem_cons_of_mem _ (ih h)

theorem lookup_eq_some_of_mem {key : String} {value : α} {l : List (String × α)}
    (hl : l.Pairwise (fun a b => a.1 < b.1)) (h : (key, value) ∈ l) :
    lookup key l = some value := by
  induction l with
  | nil => simp at h
  | cons a l ih =>
    rw [List.pairwise_cons] at hl
    rcases List.mem_cons.1 h with rfl | h
    · simp [lookup]
    · have hne : key ≠ a.1 := fun heq => String.lt_irrefl a.1 (by simpa [heq] using hl.1 _ h)
      simp [lookup, hne, ih hl.2 h]

theorem lookup_filter (p : String → α → Bool) (key : String) {l : List (String × α)}
    (hl : l.Pairwise (fun a b => a.1 < b.1)) :
    lookup key (l.filter fun e => p e.1 e.2) = (lookup key l).filter (p key) := by
  induction l with
  | nil => rfl
  | cons a l ih =>
    rw [List.pairwise_cons] at hl
    by_cases hk : key = a.1
    · subst hk
      by_cases hp : p a.1 a.2
      · simp [lookup, hp, Option.filter]
      · rw [List.filter_cons, if_neg hp, lookup_eq_none_of_forall_ne]
        · simp [lookup, hp, Option.filter]
        · intro e he heq
          exact String.lt_irrefl a.1 (by simpa [← heq] using hl.1 e (List.mem_filter.1 he).1)
    · by_cases hp : p a.1 a.2
      · simp [lookup, hp, hk, ih hl.2]
      · simp [lookup, hp, hk, ih hl.2]

theorem eq_of_lookup_eq {l r : List (String × α)} (hl : l.Pairwise (fun a b => a.1 < b.1))
    (hr : r.Pairwise (fun a b => a.1 < b.1)) (h : ∀ k, lookup k l = lookup k r) : l = r := by
  induction l generalizing r with
  | nil =>
    cases r with
    | nil => rfl
    | cons b r => simpa [lookup] using h b.1
  | cons a l ih =>
    cases r with
    | nil => simpa [lookup] using h a.1
    | cons b r =>
      obtain ⟨ka, va⟩ := a
      obtain ⟨kb, vb⟩ := b
      have hkey : ka = kb := by
        refine Classical.byContradiction fun hne => ?_
        have ha := h ka
        have hb := h kb
        simp only [lookup, if_pos, hne, Ne.symm hne, if_false] at ha hb
        have hab := (List.pairwise_cons.1 hr).1 _ (mem_of_lookup_eq_some ha.symm)
        have hba := (List.pairwise_cons.1 hl).1 _ (mem_of_lookup_eq_some hb)
        exact String.lt_irrefl _ (String.lt_trans hab hba)
      subst hkey
      have hval : va = vb := by simpa [lookup] using h ka
      subst hval
      rw [List.pairwise_cons] at hl hr
      congr 1
      refine ih hl.2 hr.2 fun k => ?_
      by_cases hk : k = ka
      · subst hk
        rw [lookup_eq_none_of_forall_ne fun e he => ?_, lookup_eq_none_of_forall_ne fun e he => ?_]
        · exact fun heq => String.lt_irrefl k (by simpa [← heq] using hr.1 e he)
        · exact fun heq => String.lt_irrefl k (by simpa [← heq] using hl.1 e he)
      · simpa [lookup, hk] using h k

/-! ### Maps -/

/-- The map without entries. -/
def empty : NameMap α := ⟨[], .nil⟩

instance : EmptyCollection (NameMap α) := ⟨empty⟩
instance : Inhabited (NameMap α) := ⟨empty⟩

/-- The value stored under `key`. -/
def get? (m : NameMap α) (key : String) : Option α := lookup key m.entries

/-- Whether `key` has a value. -/
def contains (m : NameMap α) (key : String) : Bool := (m.get? key).isSome

/-- Stores `value` under `key`. -/
def insert (m : NameMap α) (key : String) (value : α) : NameMap α :=
  ⟨insertEntry key value m.entries, pairwise_insertEntry key value m.increasing⟩

/-- Keeps the entries that satisfy `p`. -/
def filter (m : NameMap α) (p : String → α → Bool) : NameMap α :=
  ⟨m.entries.filter fun e => p e.1 e.2, m.increasing.filter _⟩

/-- Removes the entry of `key`, if any. -/
def erase (m : NameMap α) (key : String) : NameMap α := m.filter fun k _ => k != key

/-- Applies `f` to every value. -/
def mapValues (m : NameMap α) (f : String → α → β) : NameMap β :=
  ⟨m.entries.map fun e => (e.1, f e.1 e.2), m.increasing.map _ fun _ _ h => h⟩

/-- Inserts the listed entries in turn, so the last one of a key stays. -/
def insertAll (m : NameMap α) (l : List (String × α)) : NameMap α :=
  l.foldl (fun m e => m.insert e.1 e.2) m

/-- The map of the listed entries, the last one of each key. -/
def ofList (l : List (String × α)) : NameMap α := empty.insertAll l

/-- The keys in order. -/
def keys (m : NameMap α) : List String := m.entries.map (·.1)

/-- The values in the order of their keys. -/
def values (m : NameMap α) : List α := m.entries.map (·.2)

/-- The number of entries. -/
def size (m : NameMap α) : Nat := m.entries.length

@[simp] theorem get?_empty (key : String) : (∅ : NameMap α).get? key = none := rfl

theorem get?_insert (m : NameMap α) (key k : String) (value : α) :
    (m.insert key value).get? k = if k = key then some value else m.get? k :=
  lookup_insertEntry key k value m.entries

@[simp] theorem get?_insert_self (m : NameMap α) (key : String) (value : α) :
    (m.insert key value).get? key = some value := by simp [get?_insert]

theorem get?_insert_of_ne (m : NameMap α) {key k : String} (value : α) (h : k ≠ key) :
    (m.insert key value).get? k = m.get? k := by simp [get?_insert, h]

theorem get?_filter (m : NameMap α) (p : String → α → Bool) (key : String) :
    (m.filter p).get? key = (m.get? key).filter (p key) :=
  lookup_filter p key m.increasing

theorem get?_erase (m : NameMap α) (key k : String) :
    (m.erase key).get? k = if k = key then none else m.get? k := by
  rw [erase, get?_filter]
  by_cases h : k = key
  · subst h
    cases m.get? k <;> simp
  · cases m.get? k <;> simp [h]

@[simp] theorem get?_erase_self (m : NameMap α) (key : String) :
    (m.erase key).get? key = none := by simp [get?_erase]

theorem get?_mapValues (m : NameMap α) (f : String → α → β) (key : String) :
    (m.mapValues f).get? key = (m.get? key).map (f key) := by
  obtain ⟨l, hl⟩ := m
  simp only [mapValues, get?]
  clear hl
  induction l with
  | nil => rfl
  | cons a l ih =>
    simp only [List.map_cons, lookup, ih]
    split
    · rename_i h
      simp [h]
    · rfl

theorem mem_entries_iff {m : NameMap α} {key : String} {value : α} :
    (key, value) ∈ m.entries ↔ m.get? key = some value :=
  ⟨lookup_eq_some_of_mem m.increasing, mem_of_lookup_eq_some⟩

theorem mem_keys_iff {m : NameMap α} {key : String} : key ∈ m.keys ↔ m.contains key := by
  simp only [keys, List.mem_map, contains, Option.isSome_iff_exists]
  constructor
  · rintro ⟨⟨k, v⟩, h, rfl⟩
    exact ⟨v, mem_entries_iff.1 h⟩
  · rintro ⟨v, h⟩
    exact ⟨(key, v), mem_entries_iff.2 h, rfl⟩

theorem nodup_keys (m : NameMap α) : m.keys.Nodup := by
  refine List.Pairwise.map _ (fun a b hlt heq => ?_) m.increasing
  rw [heq] at hlt
  exact String.lt_irrefl _ hlt

/-- Maps that look up alike are equal. -/
theorem ext_get? {m n : NameMap α} (h : ∀ key, m.get? key = n.get? key) : m = n :=
  ext (eq_of_lookup_eq m.increasing n.increasing h)

theorem get?_insertAll (m : NameMap α) (l : List (String × α)) (key : String) :
    (m.insertAll l).get? key = ((ofList l).get? key).or (m.get? key) := by
  induction l generalizing m with
  | nil => rfl
  | cons e l ih =>
    have hsplit : ∀ m : NameMap α, (m.insertAll (e :: l)).get? key =
        ((ofList l).get? key).or ((m.insert e.1 e.2).get? key) := fun m => ih (m.insert e.1 e.2)
    have hlist := hsplit empty
    rw [show (ofList (e :: l)).get? key = _ from hlist, hsplit m, get?_insert, get?_insert]
    split
    · cases (ofList l).get? key <;> rfl
    · cases (ofList l).get? key <;> rfl

/-- Inserting the same entries again changes nothing. -/
theorem insertAll_insertAll (m : NameMap α) (l : List (String × α)) :
    (m.insertAll l).insertAll l = m.insertAll l := by
  refine ext_get? fun key => ?_
  rw [get?_insertAll, get?_insertAll]
  cases (ofList l).get? key <;> rfl

/-- A map is the one of its entries. -/
theorem ofList_entries (m : NameMap α) : ofList m.entries = m := by
  have hlookup : ∀ l : List (String × α), l.Pairwise (fun a b => a.1 < b.1) →
      ∀ key, (ofList l).get? key = lookup key l := by
    intro l hl key
    induction l with
    | nil => rfl
    | cons e l ih =>
      rw [List.pairwise_cons] at hl
      have hsplit : ofList (e :: l) = (empty.insert e.1 e.2).insertAll l := rfl
      rw [hsplit, get?_insertAll, ih hl.2, get?_insert, lookup]
      split
      · rename_i hkey
        rw [lookup_eq_none_of_forall_ne, Option.none_or]
        intro e' he' heq
        exact String.lt_irrefl e.1 (by simpa [← heq, hkey] using hl.1 e' he')
      · exact Option.or_none
  exact ext_get? (hlookup m.entries m.increasing)

end NameMap
end MachineClaims
