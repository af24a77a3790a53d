import MachineClaims.Proofs.Keyed

/-!
# The history of an entry

An operation changes at most the entry of its target, and that only if it succeeds
(`Operation.entry_of_target_ne`, `Operation.store_of_error`). What a run of operations does to one
entry is a list of changes. They chain up (`chain_changes`), so from a creation on the versions are
counted from one until the entry is removed (`Chain.life`), and an entry is back at a version just if
nothing has happened to it or it was removed and written as often again (`Chain.returns_iff`).
-/

namespace MachineClaims.Store

/-- What happens to an entry. -/
inductive Change where
  | created (version : Nat)
  | updated (version : Nat)
  | deleted
deriving DecidableEq

namespace Change

/-- The version of an entry before and after a change, `none` while there is no entry. -/
inductive Turns : Change → Option Nat → Option Nat → Prop where
  | created : Turns (.created 1) none (some 1)
  | updated (version : Nat) : Turns (.updated (version + 1)) (some version) (some (version + 1))
  | deleted (version : Nat) : Turns .deleted (some version) none

/-- The version of an entry before and after some changes in turn. -/
inductive Chain : List Change → Option Nat → Option Nat → Prop where
  | nil (x : Option Nat) : Chain [] x x
  | cons {c : Change} {l : List Change} {x y z : Option Nat} (step : c.Turns x y)
    (rest : Chain l y z) : Chain (c :: l) x z

variable {l l' xs ys : List Change} {x y z : Option Nat} {v : Nat}

theorem Chain.eq_of_nil (h : Chain [] x y) : y = x := by
  cases h
  rfl

theorem Chain.of_append (h : Chain (l ++ l') x z) : ∃ y, Chain l x y ∧ Chain l' y z := by
  induction l generalizing x with
  | nil => exact ⟨x, .nil x, h⟩
  | cons c l ih =>
    cases h with
    | cons step rest =>
      obtain ⟨y, hl, hl'⟩ := ih rest
      exact ⟨y, .cons step hl, hl'⟩

/-- Until it is removed, an entry is only updated, and each update adds one to its version. -/
theorem Chain.counts (h : Chain l (some v) y) (kept : .deleted ∉ l) :
    l = (List.range' (v + 1) l.length).map .updated ∧ y = some (v + l.length) := by
  induction l generalizing v with
  | nil =>
    cases h
    simp
  | cons c l ih =>
    rw [List.mem_cons, not_or] at kept
    cases h with
    | cons step rest =>
      cases step with
      | deleted => exact absurd rfl kept.1
      | updated =>
        obtain ⟨hl, rfl⟩ := ih rest kept.2
        rw [List.length_cons, List.range'_succ, List.map_cons, ← hl]
        refine ⟨rfl, congrArg some ?_⟩
        omega

/-- From its creation on, the versions of an entry are one, two, and so on. -/
theorem Chain.life (h : Chain (xs ++ .created v :: ys) x y) (kept : .deleted ∉ ys) :
    v = 1 ∧ ys = (List.range' 2 ys.length).map .updated ∧ y = some (1 + ys.length) := by
  obtain ⟨_, -, h⟩ := h.of_append
  cases h with
  | cons step rest =>
    cases step
    exact ⟨rfl, rest.counts kept⟩

private theorem last_deletion (h : .deleted ∈ l) :
    ∃ xs ys, l = xs ++ .deleted :: ys ∧ .deleted ∉ ys := by
  obtain ⟨xs, ys, hl, hxs⟩ := List.eq_append_cons_of_mem (List.mem_reverse.2 h)
  refine ⟨ys.reverse, xs.reverse, ?_, by simpa using hxs⟩
  simpa using congrArg List.reverse hl

/-- An entry is back at its version just if nothing has happened to it, or it was removed, created
anew and updated until the count came to that version. -/
theorem Chain.returns_iff (h : Chain l (some v) y) (positive : 1 ≤ v) :
    y = some v ↔ l = [] ∨ ∃ xs, .deleted ∈ xs ∧
      l = xs ++ .created 1 :: (List.range' 2 (v - 1)).map .updated := by
  constructor
  · rintro rfl
    by_cases hdeleted : .deleted ∈ l
    · right
      obtain ⟨xs, ys, rfl, hys⟩ := last_deletion hdeleted
      obtain ⟨_, -, hrest⟩ := h.of_append
      cases hrest with
      | cons step rest =>
        cases step
        -- After the last removal there is no entry, so the next change is a creation.
        cases rest with
        | cons step rest =>
          cases step
          rw [List.mem_cons, not_or] at hys
          obtain ⟨hupdates, hv⟩ := rest.counts hys.2
          rename_i updates
          have hlength : updates.length = v - 1 := by
            have := Option.some.inj hv
            omega
          refine ⟨xs ++ [.deleted], by simp, ?_⟩
          rw [← hlength, ← hupdates]
          simp
    · left
      obtain ⟨-, hv⟩ := h.counts hdeleted
      exact List.length_eq_zero_iff.1 (by have := Option.some.inj hv; omega)
  · rintro (rfl | ⟨xs, -, rfl⟩)
    · exact h.eq_of_nil
    · obtain ⟨-, -, rfl⟩ := h.life (by simp)
      rw [List.length_map, List.length_range']
      exact congrArg some (by omega)

end Change

/-! ### One operation -/

/-- The version of the entry of a key. -/
def version? (s : Store) (k : Kind) (key : String) : Option Nat :=
  ((s.table k).get? key).map fun o => (k.header o).version

theorem get?_put_of_ne (s : Store) {k k' : Kind} {o : k.Object} {key : String}
    (h : (k, k.key o) ≠ (k', key)) : ((s.put k o).table k').get? key = (s.table k').get? key := by
  by_cases hk : k' = k
  · subst hk
    rw [get?_table_put, if_neg]
    rintro rfl
    exact h rfl
  · rw [table_put_of_ne s o hk]

theorem get?_delete_of_ne (s : Store) {k k' : Kind} {space name key : String}
    (h : (k, objectKey space name) ≠ (k', key)) :
    (((s.delete k space name).2).table k').get? key = (s.table k').get? key := by
  by_cases hk : k' = k
  · subst hk
    rw [get?_table_delete, if_neg]
    rintro rfl
    exact h rfl
  · rw [table_delete_of_ne s space name hk]

theorem create_eq (s : Store) (k : Kind) (o : k.Object) :
    s.create k o = match (s.table k).get? (k.key o) with
      | none => .ok (k.withVersion o 1, s.put k (k.withVersion o 1))
      | some _ => .error (.alreadyExists k (k.key o)) := by
  unfold create NameMap.contains
  cases (s.table k).get? (k.key o) <;> rfl

/-- A creation fails, or fills an empty entry with version one. -/
theorem create_outcome (s : Store) (k : Kind) (o : k.Object) :
    (∃ e, s.create k o = .error e) ∨ ((s.table k).get? (k.key o) = none ∧
      s.create k o = .ok (k.withVersion o 1, s.put k (k.withVersion o 1))) := by
  rw [create_eq]
  cases (s.table k).get? (k.key o) with
  | none => exact .inr ⟨rfl, rfl⟩
  | some stored => exact .inl ⟨_, rfl⟩

/-- An update fails, or gives the entry whose version it has the next version. -/
theorem update_outcome (s : Store) (k : Kind) (o : k.Object) :
    (∃ e, s.update k o = .error e) ∨
      (s.Current k o ∧ s.update k o = .ok (k.bump o, s.put k (k.bump o))) := by
  cases h : s.update k o with
  | error e => exact .inl ⟨e, rfl⟩
  | ok r =>
    obtain ⟨hcurrent, hcopy, hstore⟩ := update_ok h
    refine .inr ⟨hcurrent, ?_⟩
    rw [← hcopy, ← hstore]

namespace Operation

/-- The only entry that an operation can change. -/
def target? : Operation → Option (Kind × String)
  | .get .. => none
  | .list .. => none
  | .create k o => some (k, k.key o)
  | .update k o => some (k, k.key o)
  | .delete k space name => some (k, objectKey space name)

/-- What an operation does to the entry of its target if it succeeds. -/
def effect? (s : Store) : Operation → Option Change
  | .get .. => none
  | .list .. => none
  | .create k o => (s.create k o).toOption.map fun r => .created (k.header r.1).version
  | .update k o => (s.update k o).toOption.map fun r => .updated (k.header r.1).version
  | .delete k space name => if (s.delete k space name).1 then some .deleted else none

/-- What an operation does to the entry of a key. -/
def change? (op : Operation) (s : Store) (k : Kind) (key : String) : Option Change :=
  if op.target? = some (k, key) then op.effect? s else none

variable {s : Store} {op : Operation} {k : Kind} {key : String}

/-- An operation that fails leaves the store as it was. -/
theorem store_of_error {e : Error} (h : (op.perform s).1 = .error e) : (op.perform s).2 = s := by
  cases op with
  | get k space name => rfl
  | list k selector => rfl
  | delete k space name => cases h
  | create k o =>
    rcases s.create_outcome k o with ⟨e', he⟩ | ⟨-, hok⟩
    · simp only [perform, he, settle]
    · simp [perform, hok, settle] at h
  | update k o =>
    rcases s.update_outcome k o with ⟨e', he⟩ | ⟨-, hok⟩
    · simp only [perform, he, settle]
    · simp [perform, hok, settle] at h

/-- A creation that succeeds answers what it stores, which has version one. -/
theorem of_create_ok {o copy : k.Object} (h : ((create k o).perform s).1 = .ok copy) :
    copy = k.withVersion o 1 ∧
      (((create k o).perform s).2.table k).get? (k.key copy) = some copy := by
  rcases s.create_outcome k o with ⟨e, he⟩ | ⟨-, hok⟩
  · simp [perform, he, settle] at h
  · obtain rfl : k.withVersion o 1 = copy := by simpa [perform, hok, settle] using h
    refine ⟨rfl, ?_⟩
    simp only [perform, hok, settle]
    exact (get?_table_put ..).trans (if_pos rfl)

/-- An update that succeeds answers what it stores, which has the version after the stored one. -/
theorem of_update_ok {o copy : k.Object} (h : ((update k o).perform s).1 = .ok copy) :
    s.version? k (k.key o) = some (k.header o).version ∧ copy = k.bump o ∧
      (((update k o).perform s).2.table k).get? (k.key copy) = some copy := by
  rcases s.update_outcome k o with ⟨e, he⟩ | ⟨⟨stored, hstored, hversion⟩, hok⟩
  · simp [perform, he, settle] at h
  · obtain rfl : k.bump o = copy := by simpa [perform, hok, settle] using h
    refine ⟨?_, rfl, ?_⟩
    · rw [version?, hstored, Option.map_some, hversion]
    · simp only [perform, hok, settle]
      exact (get?_table_put ..).trans (if_pos rfl)

/-- An operation leaves all entries but that of its target as they were. -/
theorem entry_of_target_ne (h : op.target? ≠ some (k, key)) :
    ((op.perform s).2.table k).get? key = (s.table k).get? key := by
  cases op with
  | get k' space name => rfl
  | list k' selector => rfl
  | delete k' space name => exact s.get?_delete_of_ne fun heq => h (congrArg some heq)
  | create k' o =>
    rcases s.create_outcome k' o with ⟨e, he⟩ | ⟨-, hok⟩
    · simp only [perform, he, settle]
    · simp only [perform, hok, settle]
      apply s.get?_put_of_ne
      rw [Kind.key_withVersion]
      exact fun heq => h (congrArg some heq)
  | update k' o =>
    rcases s.update_outcome k' o with ⟨e, he⟩ | ⟨-, hok⟩
    · simp only [perform, he, settle]
    · simp only [perform, hok, settle]
      apply s.get?_put_of_ne
      rw [Kind.key_bump]
      exact fun heq => h (congrArg some heq)

/-- What an operation does to an entry: nothing, or it fills an empty one, or replaces the stored
version by the next, or empties it. -/
theorem entry_cases (op : Operation) (s : Store) (k : Kind) (key : String) :
    ((op.perform s).2.table k).get? key = (s.table k).get? key ∨
    (∃ o, op = .create k o ∧ k.key o = key ∧ (s.table k).get? key = none ∧
      ((op.perform s).2.table k).get? key = some (k.withVersion o 1)) ∨
    (∃ o, op = .update k o ∧ k.key o = key ∧ s.Current k o ∧
      ((op.perform s).2.table k).get? key = some (k.bump o)) ∨
    (∃ space name, op = .delete k space name ∧ objectKey space name = key) ∧
      ((op.perform s).2.table k).get? key = none := by
  by_cases htarget : op.target? = some (k, key)
  · cases op with
    | get k' space name => exact .inl rfl
    | list k' selector => exact .inl rfl
    | create k' o =>
      cases htarget
      rcases s.create_outcome k o with ⟨e, he⟩ | ⟨hnone, hok⟩
      · simp only [perform, he, settle, true_or]
      · refine .inr (.inl ⟨o, rfl, rfl, hnone, ?_⟩)
        simp only [perform, hok, settle]
        rw [get?_table_put, Kind.key_withVersion, if_pos rfl]
    | update k' o =>
      cases htarget
      rcases s.update_outcome k o with ⟨e, he⟩ | ⟨current, hok⟩
      · simp only [perform, he, settle, true_or]
      · refine .inr (.inr (.inl ⟨o, rfl, rfl, current, ?_⟩))
        simp only [perform, hok, settle]
        rw [get?_table_put, Kind.key_bump, if_pos rfl]
    | delete k' space name =>
      cases htarget
      refine .inr (.inr (.inr ⟨⟨space, name, rfl, rfl⟩, ?_⟩))
      exact (s.get?_table_delete k space name _).trans (if_pos rfl)
  · exact .inl (entry_of_target_ne htarget)

/-- An operation that changes nothing under a key leaves the entry as it was. -/
theorem entry_of_change?_eq_none (h : op.change? s k key = none) :
    ((op.perform s).2.table k).get? key = (s.table k).get? key := by
  by_cases htarget : op.target? = some (k, key)
  · rw [change?, if_pos htarget] at h
    cases op with
    | get k' space name => rfl
    | list k' selector => rfl
    | create k' o =>
      rcases s.create_outcome k' o with ⟨e, he⟩ | ⟨-, hok⟩
      · simp only [perform, he, settle]
      · simp [effect?, hok, Except.toOption] at h
    | update k' o =>
      rcases s.update_outcome k' o with ⟨e, he⟩ | ⟨-, hok⟩
      · simp only [perform, he, settle]
      · simp [effect?, hok, Except.toOption] at h
    | delete k' space name =>
      cases htarget
      have hmissing : (s.delete k space name).1 = false := by simpa [effect?] using h
      have hnone := Option.isNone_iff_eq_none.1 (Option.isSome_eq_false_iff.1 hmissing)
      show (((s.delete k space name).2).table k).get? _ = _
      rw [get?_table_delete, if_pos rfl, hnone]
  · exact entry_of_target_ne htarget

/-- What an operation does to an entry turns its version into the next one. -/
theorem turns_of_change? {c : Change} (h : op.change? s k key = some c) :
    c.Turns (s.version? k key) ((op.perform s).2.version? k key) := by
  rw [change?] at h
  split at h
  · rename_i htarget
    cases op with
    | get k' space name => cases h
    | list k' selector => cases h
    | create k' o =>
      cases htarget
      rcases s.create_outcome k o with ⟨e, he⟩ | ⟨hnone, hok⟩
      · simp [effect?, he, Except.toOption] at h
      · obtain rfl : .created 1 = c := by simpa [effect?, hok, Except.toOption] using h
        have hbefore : s.version? k (k.key o) = none := by rw [version?, hnone, Option.map_none]
        have hafter : (s.put k (k.withVersion o 1)).version? k (k.key o) = some 1 := by
          simp [version?]
        simp only [perform, hok, settle, hbefore, hafter]
        exact .created
    | update k' o =>
      cases htarget
      rcases s.update_outcome k o with ⟨e, he⟩ | ⟨⟨stored, hstored, hversion⟩, hok⟩
      · simp [effect?, he, Except.toOption] at h
      · obtain rfl : .updated ((k.header o).version + 1) = c := by
          simpa [effect?, hok, Except.toOption] using h
        have hbefore : s.version? k (k.key o) = some (k.header o).version := by
          rw [version?, hstored, Option.map_some, hversion]
        have hafter : (s.put k (k.bump o)).version? k (k.key o) =
            some ((k.header o).version + 1) := by simp [version?]
        simp only [perform, hok, settle, hbefore, hafter]
        exact .updated _
    | delete k' space name =>
      cases htarget
      simp only [effect?] at h
      split at h
      · rename_i hthere
        obtain rfl := Option.some.inj h
        obtain ⟨stored, hstored⟩ := Option.isSome_iff_exists.1 hthere
        have hbefore : s.version? k (objectKey space name) = some (k.header stored).version := by
          rw [version?, hstored, Option.map_some]
        have hafter : (s.delete k space name).2.version? k (objectKey space name) = none := by
          simp [version?, get?_table_delete]
        show Change.Turns _ _ ((s.delete k space name).2.version? _ _)
        rw [hbefore, hafter]
        exact .deleted _
      · cases h
  · cases h

end Operation

/-! ### Runs of operations -/

/-- The store after some operations in turn. -/
def after (s : Store) (ops : List Operation) : Store := ops.foldl (fun s op => (op.perform s).2) s

/-- What some operations in turn do to the entry of a key. -/
def changes (k : Kind) (key : String) : Store → List Operation → List Change
  | _, [] => []
  | s, op :: ops => (op.change? s k key).toList ++ changes k key (op.perform s).2 ops

variable {s : Store} {ops : List Operation} {k : Kind} {key : String}

@[simp] theorem after_cons (s : Store) (op : Operation) (ops : List Operation) :
    s.after (op :: ops) = (op.perform s).2.after ops := rfl

theorem after_append (s : Store) (ops ops' : List Operation) :
    s.after (ops ++ ops') = (s.after ops).after ops' := List.foldl_append ..

theorem Keyed.after (h : s.Keyed) (ops : List Operation) : (s.after ops).Keyed := by
  induction ops generalizing s with
  | nil => exact h
  | cons op ops ih => exact ih (h.perform op)

/-- The changes that a run makes to an entry chain up. -/
theorem chain_changes (k : Kind) (key : String) (s : Store) (ops : List Operation) :
    Change.Chain (changes k key s ops) (s.version? k key) ((s.after ops).version? k key) := by
  induction ops generalizing s with
  | nil => exact .nil _
  | cons op ops ih =>
    have rest := ih (op.perform s).2
    rw [changes]
    cases hchange : op.change? s k key with
    | none =>
      rw [version?, Operation.entry_of_change?_eq_none hchange] at rest
      exact rest
    | some c => exact .cons (Operation.turns_of_change? hchange) rest

/-- A run that changes nothing under a key leaves the entry as it was. -/
theorem entry_of_changes_eq_nil (h : changes k key s ops = []) :
    ((s.after ops).table k).get? key = (s.table k).get? key := by
  induction ops generalizing s with
  | nil => rfl
  | cons op ops ih =>
    rw [changes, List.append_eq_nil_iff] at h
    have hchange : op.change? s k key = none := by simpa using h.1
    rw [after_cons, ih h.2, Operation.entry_of_change?_eq_none hchange]

end MachineClaims.Store
