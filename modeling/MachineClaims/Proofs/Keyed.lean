import MachineClaims.Store.Operation
import Mathlib.Data.List.Basic

/-!
# What the operations of the store do to its tables

An update replaces exactly the entry that has the version it is based on, a creation fills an empty
key, a removal empties one. In a keyed store every object lies under its own key; the empty store is
keyed and every operation keeps a store keyed, so every store that operations can build is.
-/

namespace MachineClaims

/-- An object with the version that an update gives it. -/
def Kind.bump (k : Kind) (o : k.Object) : k.Object := k.withVersion o ((k.header o).version + 1)

@[simp] theorem Kind.version_bump (k : Kind) (o : k.Object) :
    (k.header (k.bump o)).version = (k.header o).version + 1 := k.version_withVersion o _

@[simp] theorem Kind.key_bump (k : Kind) (o : k.Object) : k.key (k.bump o) = k.key o :=
  k.key_withVersion o _

theorem NameMap.mem_values_iff {α : Type} {m : NameMap α} {value : α} :
    value ∈ m.values ↔ ∃ key, m.get? key = some value := by
  rw [NameMap.values, List.mem_map]
  constructor
  · rintro ⟨⟨key, _⟩, hmem, rfl⟩
    exact ⟨key, mem_entries_iff.1 hmem⟩
  · rintro ⟨key, h⟩
    exact ⟨(key, value), mem_entries_iff.2 h, rfl⟩

/-- All succeed just if the results are the values of a list. -/
theorem mapM_eq_ok_iff {α β ε : Type} {f : α → Except ε β} {l : List α} {bs : List β} :
    l.mapM f = .ok bs ↔ l.map f = bs.map .ok := by
  induction l generalizing bs with
  | nil => simp [pure, Except.pure, eq_comm]
  | cons a l ih =>
    rw [List.mapM_cons, List.map_cons]
    cases hf : f a with
    | error e => cases bs <;> simp [bind, Except.bind]
    | ok b =>
      cases hrest : l.mapM f with
      | error e =>
        have hnone : ∀ bs : List β, l.map f ≠ bs.map .ok := by
          intro bs h
          cases hrest.symm.trans (ih.2 h)
        cases bs <;> simp [bind, Except.bind, hnone]
      | ok bs' =>
        have hmap : l.map f = bs'.map .ok := ih.1 hrest
        have hinj : Function.Injective (List.map (Except.ok : β → Except ε β)) :=
          List.map_injective_iff.2 fun _ _ => Except.ok.inj
        cases bs <;> simp [bind, Except.bind, pure, Except.pure, hmap, hinj.eq_iff]

/-- One failure is enough. -/
theorem exists_mapM_eq_error_iff {α β ε : Type} {f : α → Except ε β} {l : List α} :
    (∃ e, l.mapM f = .error e) ↔ ∃ a ∈ l, ∃ e, f a = .error e := by
  induction l with
  | nil => simp [pure, Except.pure]
  | cons a l ih =>
    simp only [List.mem_cons, exists_eq_or_imp]
    rw [← ih, List.mapM_cons]
    cases f a with
    | error e => simp [bind, Except.bind]
    | ok b => cases l.mapM f <;> simp [bind, Except.bind, pure, Except.pure]

theorem exists_mapM_eq_ok_iff {α β ε : Type} {f : α → Except ε β} {l : List α} :
    (∃ bs, l.mapM f = .ok bs) ↔ ∀ a ∈ l, ∃ b, f a = .ok b := by
  have hok {γ : Type} (x : Except ε γ) : (∃ c, x = .ok c) ↔ ¬ ∃ e, x = .error e := by
    cases x <;> simp
  simp only [hok, exists_mapM_eq_error_iff, not_exists, not_and]

theorem mem_iff_of_mapM {α β ε : Type} {f : α → Except ε β} {l : List α} {bs : List β}
    (h : l.mapM f = .ok bs) (b : β) : b ∈ bs ↔ ∃ a ∈ l, f a = .ok b := by
  have hinj : Function.Injective (Except.ok : β → Except ε β) := fun _ _ => Except.ok.inj
  rw [← List.mem_map_of_injective hinj, ← mapM_eq_ok_iff.1 h, List.mem_map]

/-- What the results keep of the values that they come from. -/
theorem map_of_mapM {α β γ ε : Type} {f : α → Except ε β} {g : α → γ} {g' : β → γ} {l : List α}
    {bs : List β} (h : l.mapM f = .ok bs) (hg : ∀ a b, f a = .ok b → g' b = g a) :
    bs.map g' = l.map g := by
  replace h := mapM_eq_ok_iff.1 h
  induction l generalizing bs with
  | nil => simpa using h
  | cons a l ih =>
    cases bs with
    | nil => cases h
    | cons b bs =>
      obtain ⟨hfirst, hrest⟩ := List.cons.inj h
      rw [List.map_cons, List.map_cons, hg a b hfirst, ih hrest]

namespace Store

/-- An object is current if the one that is stored under its key has the same version. -/
def Current (s : Store) (k : Kind) (o : k.Object) : Prop :=
  ∃ stored, (s.table k).get? (k.key o) = some stored ∧
    (k.header stored).version = (k.header o).version

/-- Every stored object lies under its own key. -/
def Keyed (s : Store) : Prop :=
  ∀ (k : Kind) (key : String) (o : k.Object), (s.table k).get? key = some o → k.key o = key

theorem header_of_reread {k : Kind} {o o' : k.Object} (h : k.reread o = .ok o') :
    k.header o' = k.header o := by
  cases k with
  | group => cases h; rfl
  | machine => cases h; rfl
  | capacityClass => cases h; rfl
  | claim =>
    simp only [Kind.reread] at h
    cases hr : Resources.reread o.requests with
    | error e => simp [hr, bind, Except.bind] at h
    | ok requests =>
      cases hc : Resources.reread o.capacity with
      | error e => simp [hr, hc, bind, Except.bind] at h
      | ok capacity =>
        cases ha : Resources.reread o.allocatable with
        | error e => simp [hr, hc, ha, bind, Except.bind] at h
        | ok allocatable =>
          simp [hr, hc, ha, bind, Except.bind, pure, Except.pure] at h
          subst h
          rfl

theorem read_eq_ok_iff {k : Kind} {stored o : k.Object} :
    read k stored = .ok o ↔ k.reread stored = .ok o := by
  unfold read
  cases k.reread stored <;> simp

/-- What is found is what was stored, with its amounts read back. -/
theorem lookup_eq_ok_iff {s : Store} {k : Kind} {key : String} {o : k.Object} :
    s.lookup k key = .ok o ↔
      ∃ stored, (s.table k).get? key = some stored ∧ k.reread stored = .ok o := by
  unfold lookup
  cases (s.table k).get? key with
  | none => simp
  | some stored => simp [read_eq_ok_iff]

theorem lookup_ok {s : Store} {k : Kind} {key : String} {o : k.Object}
    (h : s.lookup k key = .ok o) :
    ∃ stored, (s.table k).get? key = some stored ∧ k.header o = k.header stored := by
  obtain ⟨stored, hstored, hread⟩ := lookup_eq_ok_iff.1 h
  exact ⟨stored, hstored, header_of_reread hread⟩

/-- Objects that read back as they are, are read as they are stored. -/
theorem mapM_read {k : Kind} {l : List k.Object} (readable : ∀ o ∈ l, read k o = .ok o) :
    l.mapM (read k) = .ok l :=
  mapM_eq_ok_iff.2 (List.map_congr_left readable)

/-- An update that succeeds was based on the stored version. -/
theorem update_ok {s s' : Store} {k : Kind} {o o' : k.Object} (h : s.update k o = .ok (o', s')) :
    s.Current k o ∧ o' = k.bump o ∧ s' = s.put k o' := by
  unfold update at h
  cases hlookup : s.lookup k (k.key o) with
  | error e => simp [hlookup, bind, Except.bind] at h
  | ok current =>
    obtain ⟨stored, hstored, hheader⟩ := lookup_ok hlookup
    simp only [hlookup, bind, Except.bind] at h
    split at h
    · rename_i hversion
      cases h
      exact ⟨⟨stored, hstored, hheader ▸ hversion⟩, by rw [hversion]; rfl, rfl⟩
    · cases h

theorem lookup_congr {s s' : Store} {k : Kind} (h : s'.table k = s.table k) (key : String) :
    s'.lookup k key = s.lookup k key := by
  unfold lookup
  rw [h]

/-- An object can be stored over the one that is read with the same version. -/
def Accepts (s : Store) (k : Kind) (o : k.Object) : Prop :=
  ∃ stored, s.lookup k (k.key o) = .ok stored ∧ (k.header stored).version = (k.header o).version

theorem Accepts.congr {s s' : Store} {k : Kind} {o : k.Object} (h : s.Accepts k o)
    (same : s'.table k = s.table k) : s'.Accepts k o := by
  obtain ⟨stored, hlookup, hversion⟩ := h
  exact ⟨stored, (lookup_congr same _).trans hlookup, hversion⟩

theorem Current.accepts {s : Store} {k : Kind} {o : k.Object} (h : s.Current k o)
    (readable : ∀ stored, k.reread stored = .ok stored) : s.Accepts k o := by
  obtain ⟨stored, hstored, hversion⟩ := h
  exact ⟨stored, by simp [lookup, hstored, read, readable], hversion⟩

theorem update_of_accepts {s : Store} {k : Kind} {o : k.Object} (h : s.Accepts k o) :
    s.update k o = .ok (k.bump o, s.put k (k.bump o)) := by
  obtain ⟨stored, hlookup, hversion⟩ := h
  simp [update, hlookup, bind, Except.bind, hversion, pure, Except.pure, Kind.bump]

theorem update_cases (s : Store) (k : Kind) (o : k.Object) :
    s.Accepts k o ∨ ∃ e, s.update k o = .error e := by
  unfold Accepts
  cases hlookup : s.lookup k (k.key o) with
  | error e => exact .inr ⟨e, by simp [update, hlookup, bind, Except.bind]⟩
  | ok stored =>
    by_cases hversion : (k.header stored).version = (k.header o).version
    · exact .inl ⟨stored, rfl, hversion⟩
    · exact .inr ⟨_, by simp [update, hlookup, bind, Except.bind, hversion]; rfl⟩

/-- A creation that succeeds fills a key that was empty. -/
theorem create_ok {s s' : Store} {k : Kind} {o o' : k.Object} (h : s.create k o = .ok (o', s')) :
    (s.table k).get? (k.key o) = none ∧ o' = k.withVersion o 1 ∧ s' = s.put k o' := by
  unfold create at h
  split at h
  · cases h
  · rename_i hnew
    cases h
    refine ⟨?_, rfl, rfl⟩
    simpa [NameMap.contains] using hnew

theorem create_of_new {s : Store} {k : Kind} {o : k.Object} (h : (s.table k).get? (k.key o) = none) :
    s.create k o = .ok (k.withVersion o 1, s.put k (k.withVersion o 1)) :=
  if_neg (by rw [NameMap.contains, h]; exact Bool.false_ne_true)

theorem get?_table_put (s : Store) (k : Kind) (o : k.Object) (key : String) :
    ((s.put k o).table k).get? key =
      if key = k.key o then some o else (s.table k).get? key := by
  rw [table_put_self, NameMap.get?_insert]

@[simp] theorem machines_put_machine (s : Store) (m : Machine) :
    (s.put .machine m).machines = s.machines.insert m.header.key m := rfl

theorem get?_table_delete (s : Store) (k : Kind) (space name key : String) :
    (((s.delete k space name).2).table k).get? key =
      if key = objectKey space name then none else (s.table k).get? key := by
  simp only [delete, table_setTable_self]
  rw [NameMap.get?_erase]

theorem table_delete_of_ne (s : Store) {k k' : Kind} (space name : String) (h : k' ≠ k) :
    ((s.delete k space name).2).table k' = s.table k' := table_setTable_of_ne s _ h

/-- The listed objects of a keyed store are those that lie under their keys. -/
theorem Keyed.mem_values_iff {s : Store} (hs : s.Keyed) (k : Kind) (o : k.Object) :
    o ∈ (s.table k).values ↔ (s.table k).get? (k.key o) = some o := by
  rw [NameMap.mem_values_iff]
  constructor
  · rintro ⟨key, h⟩
    rw [hs k key o h]
    exact h
  · exact fun h => ⟨_, h⟩

/-- An object that is found lies under its own key. -/
theorem Keyed.stored {s : Store} (hs : s.Keyed) (k : Kind) {key : String} {o : k.Object}
    (h : (s.table k).get? key = some o) : (s.table k).get? (k.key o) = some o := by
  rw [hs k key o h]
  exact h

theorem get?_table_empty (k : Kind) (key : String) : ((∅ : Store).table k).get? key = none := by
  cases k <;> rfl

theorem keyed_empty : (∅ : Store).Keyed := by
  intro k key o h
  rw [get?_table_empty] at h
  cases h

theorem Keyed.put {s : Store} (hs : s.Keyed) (k : Kind) (o : k.Object) : (s.put k o).Keyed := by
  intro k' key o' h
  by_cases hk : k' = k
  · subst hk
    rw [get?_table_put] at h
    split at h
    · rename_i hkey
      cases h
      exact hkey.symm
    · exact hs k' key o' h
  · rw [table_put_of_ne s o hk] at h
    exact hs k' key o' h

theorem Keyed.update {s s' : Store} (hs : s.Keyed) {k : Kind} {o o' : k.Object}
    (h : s.update k o = .ok (o', s')) : s'.Keyed := by
  obtain ⟨_, _, rfl⟩ := update_ok h
  exact hs.put k o'

theorem Keyed.create {s s' : Store} (hs : s.Keyed) {k : Kind} {o o' : k.Object}
    (h : s.create k o = .ok (o', s')) : s'.Keyed := by
  obtain ⟨_, _, rfl⟩ := create_ok h
  exact hs.put k o'

theorem Keyed.delete {s : Store} (hs : s.Keyed) (k : Kind) (space name : String) :
    (s.delete k space name).2.Keyed := by
  intro k' key o h
  by_cases hk : k' = k
  · subst hk
    rw [get?_table_delete] at h
    split at h
    · cases h
    · exact hs k' key o h
  · rw [table_delete_of_ne s space name hk] at h
    exact hs k' key o h

theorem Keyed.perform {s : Store} (hs : s.Keyed) (op : Operation) : (op.perform s).2.Keyed := by
  cases op with
  | get k space name => exact hs
  | list k selector => exact hs
  | delete k space name => exact hs.delete k space name
  | create k o =>
    simp only [Operation.perform]
    cases h : s.create k o with
    | error e => exact hs
    | ok r => exact hs.create h
  | update k o =>
    simp only [Operation.perform]
    cases h : s.update k o with
    | error e => exact hs
    | ok r => exact hs.update h

end Store
end MachineClaims
