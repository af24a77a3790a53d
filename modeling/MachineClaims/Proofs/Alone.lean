import MachineClaims.Proofs.DeleteOutline

/-!
# Releases that nobody disturbs

A caller that is alone with the store, and never cancels, can mark the machine that it has looked
up and lower the count of the group that it has read. So a release fails only for want of something
to release (`alone_delete_fails`).
-/

namespace MachineClaims

namespace Store

/-- An update that is based on the stored version succeeds. -/
theorem update_of_current {s : Store} {k : Kind} {o : k.Object} (h : s.Current k o)
    (readable : ∀ stored, k.reread stored = .ok stored) :
    s.update k o = .ok (k.bump o, s.put k (k.bump o)) := update_of_accepts (h.accepts readable)

theorem list_all (s : Store) {k : Kind} (readable : ∀ o, read k o = .ok o) :
    s.list k none = .ok (s.table k).values := by
  have hall : (s.table k).values.filter (fun o => (none : Option Selector).all
      (·.accepts (k.header o).labels)) = (s.table k).values := List.filter_eq_self.2 fun _ _ => rfl
  unfold list
  rw [mapM_read fun o _ => readable o]
  exact congrArg Except.ok hall

theorem list_machines (s : Store) : s.list .machine none = .ok s.machines.values :=
  s.list_all fun _ => rfl

theorem list_classes (s : Store) : s.list .capacityClass none = .ok s.classes.values :=
  s.list_all fun _ => rfl

end Store

/-- The stored machine of a claim: the one with its provider id, or else the one it is bound to. -/
def Claim.machine? (claim : Claim) (s : Store) : Option Machine :=
  if claim.providerId ≠ "" then
    s.machines.values.find? (·.providerId == some claim.providerId)
  else
    match claim.binding?.map Binding.parse with
    | some (.ok (space, name)) => s.machines.get? (objectKey space name)
    | _ => none

theorem Claim.machine?_of_find {claim : Claim} {s : Store} {m : Machine}
    (hid : claim.providerId ≠ "")
    (h : s.machines.values.find? (·.providerId == some claim.providerId) = some m) :
    claim.machine? s = some m := by rw [machine?, if_pos hid, h]

theorem Claim.machine?_of_get {claim : Claim} {s : Store} {m : Machine} {b space name : String}
    (hid : claim.providerId = "") (hb : claim.binding? = some b)
    (hparse : Binding.parse b = .ok (space, name))
    (h : s.machines.get? (objectKey space name) = some m) : claim.machine? s = some m := by
  rw [machine?, if_neg (not_not_intro hid), hb]
  simp only [Option.map_some, hparse, h]

/-- The machine of a claim can be released: its removal has begun, or it belongs to a group that
counts at least one replica. -/
def Claim.Releasable (claim : Claim) (s : Store) : Prop :=
  ∃ m, claim.machine? s = some m ∧ (m.isDeleting = true ∨ ∃ owner g n, m.owner? = some owner ∧
    s.groups.get? (objectKey m.header.space owner) = some g ∧ g.replicas = some (n + 1))

/-- The machine of a claim lies under its own key. -/
theorem Claim.stored_of_machine? {claim : Claim} {s : Store} {m : Machine} (keyed : s.Keyed)
    (h : claim.machine? s = some m) : s.machines.get? m.header.key = some m := by
  unfold machine? at h
  split at h
  · exact (keyed.mem_values_iff .machine m).1 (List.mem_of_find?_eq_some h)
  · split at h
    · exact keyed.stored .machine h
    · cases h

namespace Provider

variable {claim : Claim} {m : Machine} {g : MachineGroup} {s : Store}

theorem alone_exclusively {α : Type} (waiting : Interrupted) (a : Action α) (now : Nat) :
    (exclusively waiting a).alone now s = a.alone now s := by
  simp [exclusively, Action.request, Program.answerAlone]

theorem alone_resolveMachine (h : claim.machine? s = some m) (now : Nat) :
    (resolveMachine claim).alone now s = (.ok m, s) := by
  unfold Claim.machine? at h
  unfold resolveMachine
  split at h
  · rename_i hid
    simp [hid, Action.call, Program.answerAlone, Call.perform, s.list_machines, Call.during,
      Except.map, h]
  · rename_i hid
    split at h
    · rename_i space name hb
      obtain ⟨b, hb, hparse⟩ := Option.map_eq_some_iff.1 hb
      simp [hid, hb, hparse, Action.call, Program.answerAlone, Call.perform, Store.get,
        Store.lookup, Store.table, h, Store.read, Kind.reread]
    · cases h

theorem alone_resolveMachine_of_none (h : claim.machine? s = none) (now : Nat) :
    ∃ e, (resolveMachine claim).alone now s = (.error e, s) := by
  unfold Claim.machine? at h
  unfold resolveMachine
  split at h
  · rename_i hid
    refine ⟨.notFound .machine ("with provider id " ++ claim.providerId), ?_⟩
    simp [hid, Action.call, Program.answerAlone, Call.perform, s.list_machines, Call.during,
      Except.map, h]
  · rename_i hid
    cases hb : claim.binding? with
    | none => exact ⟨.misuse (.unresolvable claim.header.name), by simp [hid]⟩
    | some b =>
      cases hparse : Binding.parse b with
      | error e => exact ⟨e, by simp [hid, hparse]⟩
      | ok place =>
        simp only [hb, Option.map_some, hparse] at h
        refine ⟨.notFound .machine b, ?_⟩
        simp [hid, hparse, Action.call, Program.answerAlone, Call.perform, Store.get, Store.lookup,
          Store.table, h]

theorem alone_owningGroup {name : String} (hm : m.owner? = some name)
    (h : s.groups.get? (objectKey m.header.space name) = some g) (now : Nat) :
    (owningGroup m).alone now s = (.ok g, s) := by
  unfold owningGroup
  simp [hm, Action.call, Program.answerAlone, Call.perform, Store.get, Store.lookup, Store.table, h,
    Store.read, Kind.reread, Call.during]

theorem alone_owningGroup_of_none (h : ∀ name g, m.owner? = some name →
      s.groups.get? (objectKey m.header.space name) ≠ some g) (now : Nat) :
    ∃ e, (owningGroup m).alone now s = (.error e, s) := by
  unfold owningGroup
  cases hm : m.owner? with
  | none => exact ⟨_, rfl⟩
  | some name =>
    have hnone := Option.eq_none_iff_forall_ne_some.2 fun g => h name g hm
    refine ⟨.store (.gettingGroup m.header.space name)
      (.notFound .group (objectKey m.header.space name)), ?_⟩
    simp [Action.call, Program.answerAlone, Call.perform, Store.get, Store.lookup, Store.table,
      hnone, Call.during]

/-- The store after a machine was marked. One that has a mark is not written. -/
def markedStore (s : Store) (m : Machine) (now : Nat) : Store :=
  if m.isMarked then s else s.put .machine (Kind.machine.bump (m.marked (Text.decimal now)))

theorem groups_markedStore (s : Store) (m : Machine) (now : Nat) :
    (markedStore s m now).groups = s.groups := by
  unfold markedStore
  split <;> rfl

/-- A stored machine can be marked. -/
theorem alone_mark (h : s.machines.get? m.header.key = some m) (now : Nat) :
    ∃ x, (mark m).alone now s = (.ok x, markedStore s m now) := by
  unfold markedStore
  cases hm : m.isMarked with
  | true => exact ⟨(m, false), by simp [mark, hm]⟩
  | false =>
    let m' := Kind.machine.bump (m.marked (Text.decimal now))
    have hupdate : s.update .machine (m.marked (Text.decimal now)) = .ok (m', s.put .machine m') :=
      Store.update_of_current ⟨m, h, rfl⟩ fun _ => rfl
    refine ⟨(m', true), ?_⟩
    simp [-bind_pure_comp, mark, hm, Action.request, Action.call, Program.answerAlone,
      Call.perform, hupdate, Call.written]
    rfl

theorem alone_lower (h : s.groups.get? g.header.key = some g)
    (n : Nat) (m : Machine) (fresh : Bool) (now : Nat) :
    (lower g n m fresh).alone now s =
      (.ok (), s.put .group (Kind.group.bump (g.scaled (n - 1)))) := by
  have hupdate : s.update .group (g.scaled (n - 1)) = _ :=
    Store.update_of_current ⟨g, h, rfl⟩ fun _ => rfl
  unfold MachineGroup.scaled at hupdate
  simp [lower, Action.call, Program.answerAlone, Call.perform, hupdate, Call.written,
    MachineGroup.scaled]

/-- Alone, a release marks the machine of the claim and lowers the count of its group. -/
theorem alone_delete {claim : Claim} {owner : String} {n : Nat} (keyed : s.Keyed)
    (hm : claim.machine? s = some m) (staying : m.isDeleting = false)
    (howner : m.owner? = some owner)
    (hg : s.groups.get? (objectKey m.header.space owner) = some g)
    (hcount : g.replicas = some (n + 1)) (now : Nat) :
    (delete claim).alone now s =
      (.ok (), (markedStore s m now).put .group (Kind.group.bump (g.scaled n))) := by
  have hstored : s.groups.get? g.header.key = some g := keyed.stored .group hg
  obtain ⟨x, hmark⟩ := alone_mark (claim.stored_of_machine? keyed hm) now
  have hlower := alone_lower (s := markedStore s m now) (groups_markedStore s m now ▸ hstored)
    (n + 1) x.1 x.2 now
  unfold delete
  dsimp only
  rw [alone_exclusively]
  simp only [Action.alone_bind, Action.request, Action.alone_ask, Action.alone_done,
    Program.answerAlone, Bool.false_eq_true, if_false, alone_resolveMachine hm now, staying,
    alone_owningGroup howner hg now, hcount, hmark, hlower, Nat.add_sub_cancel]

/-- Alone, a release fails just if the machine of the claim cannot be released. -/
theorem alone_delete_fails (keyed : s.Keyed) (claim : Claim) (now : Nat) :
    (∃ e, ((delete claim).alone now s).1 = .error e) ↔ ¬ claim.Releasable s := by
  unfold delete Claim.Releasable
  dsimp only
  rw [alone_exclusively]
  simp only [Action.alone_bind, Action.request, Action.alone_ask, Action.alone_done,
    Program.answerAlone, Bool.false_eq_true, if_false]
  cases hm : claim.machine? s with
  | none =>
    obtain ⟨e, he⟩ := alone_resolveMachine_of_none hm now
    simp [he]
  | some m =>
    simp only [alone_resolveMachine hm now, Option.some.injEq, exists_eq_left']
    cases hgoing : m.isDeleting with
    | true => simp
    | false =>
      simp only [Bool.false_eq_true, if_false, false_or, Action.alone_bind]
      by_cases howned : ∃ name g, m.owner? = some name ∧
          s.groups.get? (objectKey m.header.space name) = some g
      · obtain ⟨name, g, hname, hg⟩ := howned
        have hstored : s.groups.get? g.header.key = some g := keyed.stored .group hg
        obtain ⟨x, hmark⟩ := alone_mark (claim.stored_of_machine? keyed hm) now
        simp only [alone_owningGroup hname hg]
        cases hcount : g.replicas with
        | none => simp [hname, hg, hcount]
        | some count =>
          cases count with
          | zero => simp [hname, hg, hcount]
          | succ n =>
            simp only [Action.alone_bind, hmark]
            rw [alone_lower (groups_markedStore s m now ▸ hstored)]
            simp [hname, hg, hcount]
      · obtain ⟨e, he⟩ := alone_owningGroup_of_none
          (fun name g hname hg => howned ⟨name, g, hname, hg⟩) now
        simp only [he]
        refine iff_of_true ⟨e, rfl⟩ ?_
        rintro ⟨name, g, n, hname, hg, -⟩
        exact howned ⟨name, g, hname, hg⟩

end Provider
end MachineClaims
