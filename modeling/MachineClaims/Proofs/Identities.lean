import MachineClaims.Proofs.Keys
import MachineClaims.Proofs.Legible

/-!
# Objects that share a key

Operations on identities with different keys do not meet, those on identities that share a key act on
one entry, and a look-up can be trusted to find the identity that it is asked for just if this has no
slash (`store_separates_iff`).
-/

namespace MachineClaims

/-- An object of a kind with a given identity. -/
def Kind.named (k : Kind) (i : Identity) : k.Object :=
  k.withHeader k.blank (.new i.space i.name)

@[simp] theorem Kind.key_named (k : Kind) (i : Identity) : k.key (k.named i) = i.key := by
  simp [key, named, Header.key, Header.new, Identity.key]

namespace Store

variable {s s' : Store} {k k' : Kind} {i j : Identity} {o : k.Object}

namespace Operation

/-- The kind and the identity of the object that an operation is about; a list is about none. -/
def subject? : Operation → Option (Kind × Identity)
  | .get k space name => some (k, ⟨space, name⟩)
  | .list .. => none
  | .create k o => some (k, (k.header o).identity)
  | .update k o => some (k, (k.header o).identity)
  | .delete k space name => some (k, ⟨space, name⟩)

variable {op : Operation}

private theorem fst_settle {α : Type} (s : Store) (r : Except Error (α × Store)) :
    (settle s r).1 = r.map (·.1) := by
  cases r <;> rfl

/-- An operation leaves all entries but the one under the key of its subject as they were. -/
theorem entry_of_subject (h : op.subject? = some (k, i)) {key : String}
    (hne : (k, i.key) ≠ (k', key)) :
    ((op.perform s).2.table k').get? key = (s.table k').get? key := by
  apply entry_of_target_ne
  cases op with
  | get => simp [target?]
  | list => simp [target?]
  | create =>
    cases h
    exact fun heq => hne (Option.some.inj heq)
  | update =>
    cases h
    exact fun heq => hne (Option.some.inj heq)
  | delete =>
    cases h
    exact fun heq => hne (Option.some.inj heq)

/-- What an operation answers depends on the entry under the key of its subject only. -/
theorem answer_of_entry (h : op.subject? = some (k, i))
    (hentry : (s.table k).get? i.key = (s'.table k).get? i.key) :
    (op.perform s).1 = (op.perform s').1 := by
  have hlookup : s.lookup k i.key = s'.lookup k i.key := by rw [lookup, lookup, hentry]
  cases op with
  | list => cases h
  | get k space name =>
    cases h
    exact hlookup
  | create k o =>
    cases h
    have hkey : (s.table k).get? (k.key o) = (s'.table k).get? (k.key o) := hentry
    simp only [perform, fst_settle, create_eq, hkey]
    cases (s'.table k).get? (k.key o) <;> rfl
  | update k o =>
    cases h
    have hkey : s.lookup k (k.key o) = s'.lookup k (k.key o) := hlookup
    simp only [perform, fst_settle, Store.update, hkey]
    cases s'.lookup k (k.key o) with
    | error e => rfl
    | ok current =>
      simp only [bind, Except.bind]
      split <;> rfl
  | delete k space name =>
    cases h
    have hkey : (s.table k).get? (objectKey space name) =
      (s'.table k).get? (objectKey space name) := hentry
    simp only [perform, Store.delete, NameMap.contains, hkey]

end Operation

/-- Operations about one subject never change what operations about the other one answer. -/
def Independent (subject other : Kind × Identity) : Prop :=
  ∀ (ops : List Operation) (op query : Operation), op.subject? = some subject →
    query.subject? = some other →
    (query.perform ((∅ : Store).after (ops ++ [op]))).1 = (query.perform ((∅ : Store).after ops)).1

/-- Whatever a look-up finds has the identity that it asks for. -/
def Faithful (k : Kind) (i : Identity) : Prop :=
  ∀ (ops : List Operation) (o : k.Object), ((∅ : Store).after ops).get k i.space i.name = .ok o →
    (k.header o).identity = i

theorem independent_of_key_ne (h : (k, i.key) ≠ (k', j.key)) : Independent (k, i) (k', j) := by
  intro ops op query hop hquery
  apply Operation.answer_of_entry hquery
  rw [after_append]
  exact Operation.entry_of_subject hop h

/-- An object that has been created is found under every identity with its key. -/
private theorem get_named (h : i.key = j.key) :
    ((∅ : Store).after [.create k (k.named i)]).get k j.space j.name =
      .ok (k.withVersion (k.named i) 1) := by
  have hafter : (∅ : Store).after [.create k (k.named i)] =
      (∅ : Store).put k (k.withVersion (k.named i) 1) := by
    simp only [after, List.foldl_cons, List.foldl_nil, Operation.perform, create_eq,
      get?_table_empty, Operation.settle]
  have hstored : (((∅ : Store).put k (k.withVersion (k.named i) 1)).table k).get? j.key =
      some (k.withVersion (k.named i) 1) := by
    rw [get?_table_put, Kind.key_withVersion, Kind.key_named, if_pos h.symm]
  have hread : k.reread (k.withVersion (k.named i) 1) = .ok (k.withVersion (k.named i) 1) :=
    Kind.reread_withHeader (Kind.reread_withHeader k.reread_blank _) _
  have hlookup : ((∅ : Store).put k (k.withVersion (k.named i) 1)).lookup k j.key =
      .ok (k.withVersion (k.named i) 1) := by
    rw [lookup, hstored]
    simp only [read, hread]
  rw [hafter]
  exact hlookup

theorem not_independent_of_key_eq (h : i.key = j.key) : ¬ Independent (k, i) (k, j) := by
  intro independent
  have hcreate : (Operation.create k (k.named i)).subject? = some (k, i) := by
    simp [Operation.subject?, Kind.named, Header.identity, Header.new]
  have hsame := independent [] _ (.get k j.space j.name) hcreate rfl
  have hfound : ((∅ : Store).after ([] ++ [.create k (k.named i)])).get k j.space j.name =
      (∅ : Store).get k j.space j.name := hsame
  have hnone : (∅ : Store).get k j.space j.name = .error (.notFound k j.key) := by
    rw [get, lookup, get?_table_empty]
    rfl
  rw [List.nil_append, get_named h, hnone] at hfound
  cases hfound

theorem faithful_iff : Faithful k i ↔ i.Plain := by
  constructor
  · intro faithful
    by_contra hplain
    obtain ⟨j, hcollides⟩ := Identity.exists_collides_iff.2 hplain
    have hkey : j.key = i.key := (Identity.key_eq_iff.2 (.inr hcollides)).symm
    have hidentity := faithful _ _ (get_named hkey)
    apply hcollides.ne
    rw [← hidentity]
    simp [Kind.withVersion, Kind.named, Header.identity, Header.new]
  · intro hplain ops o hget
    obtain ⟨stored, hstored, hheader⟩ := lookup_ok hget
    have hkey : (k.header stored).identity.key = i.key :=
      keyed_empty.after ops k _ stored hstored
    rw [hheader]
    rcases Identity.key_eq_iff.1 hkey with heq | hcollides
    · exact heq
    · exact absurd hplain (Identity.exists_collides_iff.1 ⟨_, hcollides.symm⟩)

end Store

/-- Whatever was done to a store that was empty at first: operations about two identities keep apart
just if the kinds differ, or the identities do and are not read from one key. And what is found under
an identity has this identity just if it has no slash. -/
theorem store_separates_iff (k k' : Kind) (i j : Identity) :
    (Store.Independent (k, i) (k', j) ↔ (k = k' → i ≠ j ∧ ¬ i.Collides j)) ∧
    (Store.Faithful k i ↔ i.Plain) := by
  refine ⟨⟨?_, ?_⟩, Store.faithful_iff⟩
  · rintro independent rfl
    rw [← not_or, ← Identity.key_eq_iff]
    exact fun hkey => Store.not_independent_of_key_eq hkey independent
  · intro h
    apply Store.independent_of_key_ne
    intro heq
    obtain ⟨rfl, hkey⟩ := Prod.mk.inj heq
    rcases Identity.key_eq_iff.1 hkey with hsame | hcollides
    · exact (h rfl).1 hsame
    · exact (h rfl).2 hcollides

/-- A machine is found, and removed, under an identity that it does not have. -/
theorem machine_removed_under_other_identity :
    let i : Identity := ⟨"a/b", "c"⟩
    let j : Identity := ⟨"a", "b/c"⟩
    let s := (∅ : Store).after [.create .machine (.new i.space i.name "md-1")]
    i ≠ j ∧
    (s.get .machine j.space j.name).toOption.map (·.header.identity) = some i ∧
    (s.delete .machine j.space j.name).1 = true ∧
    ((s.delete .machine j.space j.name).2.get .machine i.space i.name).toOption = none := by
  refine ⟨by decide, ?_, ?_, ?_⟩
  · decide +kernel
  · decide +kernel
  · decide +kernel

end MachineClaims
