import MachineClaims.Proofs.Copies
import MachineClaims.Proofs.Stage

/-!
# The work of a fleet manager

A fleet manager adds, removes and edits machines beside the callers. It takes no machine, and it
leaves alone what the callers rely on (`Fleet.spares`).
-/

namespace MachineClaims

/-- A machine with another provider id and another time at which its removal began. -/
def Machine.edited (m : Machine) (providerId : Option String) (deletion : Option Nat) : Machine :=
  { m with header := { m.header with deletion }, providerId }

/-- What a fleet manager does: it adds machines that nobody has taken under keys that were never
used, removes machines, and says what has become of them. -/
inductive Scene.Fleet : Scene → Scene → Prop where
  | adds {w : Scene} {m m' : Machine} {s : Store} (unlabelled : m.isMember = false)
    (unused : ¬ w.Used m.header.key) (created : w.store.create .machine m = .ok (m', s)) :
    Fleet w (w.record .foreign s)
  | removes {w : Scene} (space name : String) :
    Fleet w (w.record .foreign (w.store.delete .machine space name).2)
  | edits {w : Scene} {m m' : Machine} {s : Store} (providerId : Option String)
    (deletion : Option Nat) (stored : w.store.machines.get? m.header.key = some m)
    (updated : w.store.update .machine (m.edited providerId deletion) = .ok (m', s)) :
    Fleet w (w.record .foreign s)

/-- What the work of a fleet manager leaves alone. -/
structure Scene.Spares (w w' : Scene) : Prop where
  holders : w'.holders = w.holders
  events : ∃ e, w'.events = e :: w.events ∧ e.deed = .foreign
  keyed : w.store.Keyed → w'.store.Keyed
  groups : w'.store.groups = w.store.groups
  claims : w'.store.claims = w.store.claims
  machines : ∀ key m', w'.store.machines.get? key = some m' →
    (∃ m, w.store.machines.get? key = some m ∧ m'.header.labels = m.header.labels ∧
      m'.header.space = m.header.space ∧ m'.header.annotations = m.header.annotations) ∨
    m'.isMember = false ∧ ¬ w.Used key

theorem Scene.Spares.unknown {w w' : Scene} {c : Caller} (h : w.Spares w') (hc : w.Unknown c) :
    w'.Unknown c := by
  obtain ⟨e, hevents, hdeed⟩ := h.events
  constructor
  · intro e' he'
    rw [hevents] at he'
    obtain rfl | he' := List.mem_cons.1 he'
    · rw [hdeed]
      exact nofun
    · exact hc.idle e' he'
  · rw [h.holders]
    exact hc.free

namespace Scene.Fleet

variable {w w' : Scene}

theorem advances (h : w.Fleet w') : w.Advances w' := by
  cases h with
  | @adds m m' s unlabelled unused created =>
    obtain ⟨_, rfl, rfl⟩ := Store.create_ok created
    refine ⟨fun _ hk => hk.record _ _, fun key m' hm' => ?_⟩
    rw [store_record, Store.machines_put_machine, NameMap.get?_insert] at hm'
    split at hm'
    · rename_i hkey
      exact .inr (.inr (hkey ▸ unused))
    · exact .inl hm'
  | removes space name =>
    refine ⟨fun _ hk => hk.record _ _, fun key m' hm' => ?_⟩
    have hdelete := Store.get?_table_delete w.store .machine space name key
    split at hdelete
    · rw [store_record] at hm'
      exact absurd (hm'.symm.trans hdelete) nofun
    · exact .inl (hdelete.symm.trans hm')
  | edits providerId deletion stored updated =>
    obtain ⟨current, rfl, rfl⟩ := Store.update_ok updated
    exact .record_put _ current

theorem spares (h : w.Fleet w') : w.Spares w' := by
  cases h with
  | @adds m m' s unlabelled unused created =>
    obtain ⟨_, rfl, rfl⟩ := Store.create_ok created
    refine ⟨rfl, ⟨_, rfl, rfl⟩, fun hk => hk.put .machine _, rfl, rfl, fun key m' hm' => ?_⟩
    rw [store_record, Store.machines_put_machine, NameMap.get?_insert] at hm'
    split at hm'
    · rename_i hkey
      cases hm'
      exact .inr ⟨unlabelled, hkey ▸ unused⟩
    · exact .inl ⟨m', hm', rfl, rfl, rfl⟩
  | removes space name =>
    refine ⟨rfl, ⟨_, rfl, rfl⟩, fun hk => hk.delete .machine space name, rfl, rfl,
      fun key m' hm' => ?_⟩
    have hdelete := Store.get?_table_delete w.store .machine space name key
    split at hdelete
    · rw [store_record] at hm'
      exact absurd (hm'.symm.trans hdelete) nofun
    · exact .inl ⟨m', hdelete.symm.trans hm', rfl, rfl, rfl⟩
  | @edits m m' s providerId deletion stored updated =>
    obtain ⟨current, rfl, rfl⟩ := Store.update_ok updated
    refine ⟨rfl, ⟨_, rfl, rfl⟩, fun hk => hk.put .machine _, rfl, rfl, fun key m' hm' => ?_⟩
    rw [store_record, Store.machines_put_machine, NameMap.get?_insert] at hm'
    split at hm'
    · rename_i hkey
      cases hm'
      exact .inl ⟨m, hkey ▸ stored, rfl, rfl, rfl⟩
    · exact .inl ⟨m', hm', rfl, rfl, rfl⟩

end Scene.Fleet
end MachineClaims
