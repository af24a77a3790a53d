import MachineClaims.Proofs.Labels
import MachineClaims.Proofs.Scene

/-!
# Copies of machines

Versions under a key only grow as long as keys are not used twice. So if a caller's copy of a
machine has the version of the stored one, it is the stored one (`Copy.eq_of_current`): a write that
the store accepts writes over exactly what the caller has read.
-/

namespace MachineClaims

/-- A machine is stored under the key, or a stored claim is bound to it. -/
def Store.Mentions (s : Store) (key : String) : Prop :=
  (∃ m, s.machines.get? key = some m) ∨
    ∃ k c, s.claims.get? k = some c ∧ c.binding? = some key

namespace Scene

/-- The key is mentioned now or was so before. -/
def Used (w : Scene) (key : String) : Prop :=
  w.store.Mentions key ∨ ∃ e ∈ w.events, e.before.Mentions key

variable {w w' : Scene} {m : Machine} {key : String}

theorem used_of_stored (h : w.store.machines.get? key = some m) : w.Used key := .inl (.inl ⟨m, h⟩)

theorem used_of_bound {k : String} {c : Claim} (h : w.store.claims.get? k = some c)
    (hb : c.binding? = some key) : w.Used key := .inl (.inr ⟨k, c, h, hb⟩)

theorem Used.cons {e : Event} (h : w.Used key) (hevents : w'.events = e :: w.events)
    (hbefore : e.before = w.store) : w'.Used key := by
  right
  rw [hevents]
  obtain h | ⟨e', he', h⟩ := h
  · exact ⟨e, List.mem_cons_self, hbefore ▸ h⟩
  · exact ⟨e', List.mem_cons_of_mem e he', h⟩

theorem Used.record (h : w.Used key) (deed : Deed) (s : Store) : (w.record deed s).Used key :=
  h.cons rfl rfl

/-- From one scene to another, what is stored under a key is the same, has a greater version, or is
the first under that key. -/
structure Advances (w w' : Scene) : Prop where
  used : ∀ key, w.Used key → w'.Used key
  machines : ∀ key m', w'.store.machines.get? key = some m' →
    w.store.machines.get? key = some m' ∨
    (∃ m, w.store.machines.get? key = some m ∧ m.header.version < m'.header.version) ∨
    ¬ w.Used key

theorem Advances.record_of_eq {s : Store} (deed : Deed) (h : s.machines = w.store.machines) :
    w.Advances (w.record deed s) where
  used _ hk := hk.record deed s
  machines _ _ hm' := .inl (h ▸ hm')

/-- Taking a lock or giving it back. -/
theorem Advances.with_holders (w : Scene) (holders : List Caller) :
    w.Advances { w with holders } where
  used _ hk := hk
  machines _ _ hm' := .inl hm'

/-- An accepted write of a machine. -/
theorem Advances.record_put (deed : Deed) (h : w.store.Current .machine m) :
    w.Advances (w.record deed (w.store.put .machine (Kind.machine.bump m))) where
  used _ hk := hk.record deed _
  machines key m' hm' := by
    rw [store_record, Store.machines_put_machine, NameMap.get?_insert] at hm'
    split at hm'
    · rename_i hkey
      cases hm'
      obtain ⟨stored, hstored, hversion⟩ := h
      refine .inr (.inl ⟨stored, hkey ▸ hstored, ?_⟩)
      have hbump := Kind.version_bump .machine m
      have hlt : stored.header.version < (Kind.machine.bump m).header.version := by
        simp only [Kind.header] at hversion hbump
        omega
      exact hlt
    · exact .inl hm'

/-- A machine as a caller has read or written it: the stored one may have gone on. -/
structure Copy (w : Scene) (m : Machine) : Prop where
  used : w.Used m.header.key
  newer : ∀ stored, w.store.machines.get? m.header.key = some stored →
    stored = m ∨ m.header.version < stored.header.version

theorem Copy.of_stored (h : w.store.machines.get? m.header.key = some m) : w.Copy m where
  used := used_of_stored h
  newer _ hstored := .inl (Option.some.inj (hstored.symm.trans h))

theorem Copy.advances (h : w.Copy m) (step : w.Advances w') : w'.Copy m where
  used := step.used _ h.used
  newer stored hstored := by
    obtain hsame | ⟨before, hbefore, hlt⟩ | hnew := step.machines _ stored hstored
    · exact h.newer stored hsame
    · obtain rfl | hlt' := h.newer before hbefore
      · exact .inr hlt
      · exact .inr (Nat.lt_trans hlt' hlt)
    · exact absurd h.used hnew

/-- What the store accepts writes over the machine as it was read. -/
theorem Copy.eq_of_current (h : w.Copy m) (current : w.store.Current .machine m) :
    w.store.machines.get? m.header.key = some m := by
  obtain ⟨stored, hstored, hversion⟩ := current
  obtain rfl | hlt := h.newer stored hstored
  · exact hstored
  · have heq : stored.header.version = m.header.version := hversion
    omega

end Scene

end MachineClaims
