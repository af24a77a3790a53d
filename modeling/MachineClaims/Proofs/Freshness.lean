import MachineClaims.Proofs.Sessions

/-!
# Which changes an update detects

A client obtains an object from the store and later updates it. The update succeeds just if the key has
come back to the version of the client's copy (`Session.succeeds_update_iff`), and then the history of the
key in between (`Store.Change.Chain.returns_iff`) is empty, or the object was removed and another one
under its key has been written as often. So all changes are detected while nobody removes the object
(`update_succeeds_iff`), and after a removal an update can overwrite somebody else's object
(`update_overwrites_successor`).
-/

namespace MachineClaims

open Store (Operation Change)

namespace Session

variable {σ : Session} {client : Nat} {k : Kind}

/-- The moves that the store answers with an object. -/
inductive Move.Obtains (k : Kind) : Move → Prop where
  | get (space name : String) : Obtains k (.get k space name)
  | create : Obtains k (.create k)
  | update : Obtains k (.update k)

/-- The client has just obtained its copy from a store that was empty at first. -/
inductive Obtained (client : Nat) (k : Kind) : Session → Prop where
  | intro (copies : Nat → (k : Kind) → k.Object) (l : List (Nat × Move)) {m : Move}
    (obtains : m.Obtains k) (succeeds : ((start copies).run l).Succeeds client m) :
    Obtained client k (((start copies).run l).act client m)

theorem Obtained.sound (h : σ.Obtained client k) : σ.store.Sound := by
  cases h
  exact sound_act (sound_run Store.sound_empty _) _ _

/-- What a client has just obtained is what is stored, up to the amounts that are read back. -/
theorem Obtained.stored (h : σ.Obtained client k) : ∃ stored,
    (σ.store.table k).get? (k.key (σ.copies client k)) = some stored ∧
      k.header (σ.copies client k) = k.header stored ∧
      (k.reread stored = .ok stored → σ.copies client k = stored) := by
  cases h with
  | intro copies l obtains succeeds =>
    have sound : ((start copies).run l).store.Sound := sound_run Store.sound_empty l
    obtain ⟨op, o, hop, hok⟩ := succeeds
    cases obtains with
    | get space name =>
      cases hop
      obtain ⟨stored, hstored, hread⟩ := Store.lookup_eq_ok_iff.1 hok
      have hcopy : (((start copies).run l).act client (.get k space name)).copies client k = o :=
        copies_answered hok
      have hheader := Store.header_of_reread hread
      have hkey : k.key o = objectKey space name := by
        rw [Kind.key, hheader]
        exact (sound k _ stored hstored).1
      rw [hcopy, store_act, hkey]
      exact ⟨stored, hstored, hheader, fun hsettled => Except.ok.inj (hread.symm.trans hsettled)⟩
    | create =>
      cases hop
      have hcopy : (((start copies).run l).act client (.create k)).copies client k = o :=
        copies_answered hok
      rw [hcopy, store_act]
      exact ⟨o, (Operation.of_create_ok hok).2, rfl, fun _ => rfl⟩
    | update =>
      cases hop
      have hcopy : (((start copies).run l).act client (.update k)).copies client k = o :=
        copies_answered hok
      rw [hcopy, store_act]
      exact ⟨o, (Operation.of_update_ok hok).2.2, rfl, fun _ => rfl⟩

theorem Obtained.version (h : σ.Obtained client k) :
    σ.store.version? k (k.key (σ.copies client k)) = some (k.header (σ.copies client k)).version := by
  obtain ⟨stored, hstored, hheader, -⟩ := h.stored
  rw [Store.version?, hstored, Option.map_some, hheader]

theorem Obtained.version_pos (h : σ.Obtained client k) : 1 ≤ (k.header (σ.copies client k)).version := by
  obtain ⟨stored, hstored, hheader, -⟩ := h.stored
  rw [hheader]
  exact (h.sound k _ stored hstored).2

/-- An update that does not succeed finds no object, or another version, or an object that cannot be
read, and changes nothing. -/
theorem update_refused (refused : ¬ σ.Succeeds client (.update k)) :
    (∃ e, ((Operation.update k (σ.copies client k)).perform σ.store).1 = .error e ∧
      (e.isNotFound ∨ e.isConflict ∨ ¬ σ.store.Legible k (k.key (σ.copies client k)))) ∧
    σ.act client (.update k) = σ := by
  rw [succeeds_update_iff_accepts] at refused
  obtain ⟨e, he, hkind⟩ := Operation.update_eq_error refused
  exact ⟨⟨e, he, hkind⟩, act_of_error rfl he⟩

end Session

/-- A client obtains an object, and after any moves of all clients it updates its copy, which still
has the key and the version. The update succeeds just if what is stored can be read, and the entry has not
changed since, or has been removed, created and updated up to the version of the copy. Otherwise it fails
as not found or as a conflict, or because what is stored cannot be read, and store and copies stay as they
are. While the clients make copies that are read back as they are, all that is stored can be read, and the
copy that was obtained is what was stored. -/
theorem update_succeeds_iff {σ : Session} {client : Nat} {k : Kind} (obtained : σ.Obtained client k)
    (l : List (Nat × Session.Move))
    (key : k.key ((σ.run l).copies client k) = k.key (σ.copies client k))
    (version : (k.header ((σ.run l).copies client k)).version =
      (k.header (σ.copies client k)).version) :
    let o := σ.copies client k
    let history := σ.changes k (k.key o) l
    let s := (σ.run l).store
    ((σ.run l).Succeeds client (.update k) ↔ s.Legible k (k.key o) ∧
      (history = [] ∨ ∃ xs, .deleted ∈ xs ∧ history =
        xs ++ .created 1 :: (List.range' 2 ((k.header o).version - 1)).map .updated)) ∧
    (history = [] → (s.table k).get? (k.key o) = (σ.store.table k).get? (k.key o)) ∧
    (¬ (σ.run l).Succeeds client (.update k) →
      (∃ e, ((Operation.update k ((σ.run l).copies client k)).perform s).1 = .error e ∧
        (e.isNotFound ∨ e.isConflict ∨ ¬ s.Legible k (k.key o))) ∧
      (σ.run l).act client (.update k) = σ.run l) ∧
    (σ.Settled → (∀ m ∈ l, m.2.Settled) →
      s.Legible k (k.key o) ∧ (σ.store.table k).get? (k.key o) = some o) := by
  intro o history s
  refine ⟨?_, ?_, ?_, fun settled made => ⟨?_, ?_⟩⟩
  · have chain := σ.chain_changes k (k.key o) l
    rw [obtained.version] at chain
    rw [Session.succeeds_update_iff, key, version, and_comm]
    exact and_congr_right fun _ => chain.returns_iff obtained.version_pos
  · intro unchanged
    have hstore : s = σ.store.after (σ.operations l) := σ.store_run l
    rw [hstore, Store.entry_of_changes_eq_nil unchanged]
  · intro refused
    have hrefused := Session.update_refused refused
    rw [key] at hrefused
    exact hrefused
  · exact (Session.settled_run settled made).store.legible k _
  · obtain ⟨stored, hstored, -, hcopy⟩ := obtained.stored
    have hsame : o = stored := hcopy (settled.store k _ stored hstored)
    exact hstored.trans (congrArg some hsame.symm)

/-- Client 0 has made a machine of group `md-1`, and creates it. -/
def Session.created : Session :=
  ((start fun _ k => k.blank).run [(0, .edit .machine (.new "capi" "u-1" "md-1"))]).act 0
    (.create .machine)

theorem Session.obtained_created : created.Obtained 0 .machine :=
  .intro (fun _ k => k.blank) [(0, .edit .machine (.new "capi" "u-1" "md-1"))] .create
    ⟨_, _, rfl, rfl⟩

/-- Client 1 gets the machine and updates it, so that the update of client 0 is refused. -/
theorem update_succeeds_iff_after_rival :
    let l := [(1, Session.Move.get .machine "capi" "u-1"), (1, .update .machine)]
    ¬ (Session.created.run l).Succeeds 0 (.update .machine) ∧
      (Session.created.run l).act 0 (.update .machine) = Session.created.run l := by
  intro l
  have history : Session.created.changes .machine "capi/u-1" l = [.updated 2] := by decide +kernel
  obtain ⟨hiff, -, hrefused, -⟩ := update_succeeds_iff Session.obtained_created l (by decide +kernel)
    (by decide +kernel)
  have stale : ¬ (Session.created.run l).Succeeds 0 (.update .machine) := by
    intro succeeds
    have hkey : Kind.machine.key (Session.created.copies 0 .machine) = "capi/u-1" := by
      decide +kernel
    rw [hkey, history] at hiff
    rcases (hiff.1 succeeds).2 with hnil | ⟨xs, hdeleted, hxs⟩
    · cases hnil
    · have : Change.deleted ∈ [Change.updated 2] := by
        rw [hxs]
        exact List.mem_append_left _ hdeleted
      simp at this
  exact ⟨stale, (hrefused stale).2⟩

/-- Client 1 removes the machine and creates one of group `md-2` under the same key. -/
def Session.succession : List (Nat × Move) :=
  [(1, .delete .machine "capi" "u-1"), (1, .edit .machine (.new "capi" "u-1" "md-2")),
    (1, .create .machine)]

/-- Client 0 still has the machine that it has created. Its update succeeds, and the machine of
client 1 is lost. -/
theorem update_overwrites_successor :
    Session.created.Obtained 0 .machine ∧
    Session.created.changes .machine "capi/u-1" Session.succession = [.deleted, .created 1] ∧
    (Session.created.run Session.succession).copies 0 .machine = Session.created.copies 0 .machine ∧
    (Session.created.run Session.succession).Succeeds 0 (.update .machine) ∧
    ((Session.created.run Session.succession).store.machines.get? "capi/u-1").bind (·.owner?) =
      some "md-2" ∧
    (((Session.created.run Session.succession).act 0 (.update .machine)).store.machines.get?
      "capi/u-1").bind (·.owner?) = some "md-1" := by
  refine ⟨Session.obtained_created, by decide +kernel, by decide +kernel, ⟨_, _, rfl, rfl⟩, ?_, ?_⟩
  · decide +kernel
  · decide +kernel

end MachineClaims
