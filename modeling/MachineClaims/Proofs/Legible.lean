import MachineClaims.Proofs.Changes
import MachineClaims.Proofs.Decoded

/-!
# What is read back from a store

Amounts are stored as texts, and read again with every object that is looked up
(`Store.lookup_eq_ok_iff`). The text of an amount that was computed can be too long for that. Then the
entry is there but not legible (`Store.Legible`), and look-ups and updates of it fail
(`Store.lookup_of_not_legible`). A store that was only given objects which are read back as they are holds
no others (`Store.Settled.perform`).
-/

namespace MachineClaims

namespace Kind

variable {k : Kind} {o o' : k.Object}

/-- An object without content. -/
def blank : (k : Kind) → k.Object
  | .group => (default : MachineGroup)
  | .machine => (default : Machine)
  | .claim => (default : Claim)
  | .capacityClass => (default : CapacityClass)

theorem reread_blank (k : Kind) : k.reread k.blank = .ok k.blank := by cases k <;> rfl

/-- Only a claim has amounts that may not be read back. -/
theorem reread_of_ne_claim (h : k ≠ .claim) (o : k.Object) : k.reread o = .ok o := by
  cases k with
  | claim => exact absurd rfl h
  | _ => rfl

/-- What was read is read again as it is. -/
theorem reread_of_reread (h : k.reread o = .ok o') : k.reread o' = .ok o' := by
  cases k with
  | claim => exact Claim.reread_of_settled (Claim.settled_of_reread h)
  | _ => rfl

theorem reread_withHeader (h : k.reread o = .ok o) (header : Header) :
    k.reread (k.withHeader o header) = .ok (k.withHeader o header) := by
  cases k with
  | claim =>
    obtain ⟨requests, capacity, allocatable⟩ := Claim.settled_of_reread h
    exact Claim.reread_of_settled ⟨requests, capacity, allocatable⟩
  | _ => rfl

end Kind

namespace Store

variable {s s' : Store} {k : Kind} {o : k.Object} {key space name : String}

/-- What lies under a key, if anything does, can be read. -/
def Legible (s : Store) (k : Kind) (key : String) : Prop :=
  ∀ stored, (s.table k).get? key = some stored → ∃ o, k.reread stored = .ok o

theorem legible_of_ne_claim (h : k ≠ .claim) : s.Legible k key :=
  fun stored _ => ⟨stored, Kind.reread_of_ne_claim h stored⟩

theorem Legible.congr (h : s'.table k = s.table k) : s'.Legible k key ↔ s.Legible k key := by
  unfold Legible
  rw [h]

theorem get_header (s : Store) (k : Kind) (o : k.Object) :
    s.get k (k.header o).space (k.header o).name = s.lookup k (k.key o) := rfl

theorem lookup_of_legible (h : s.Legible k key) :
    (s.version? k key = none ∧ s.lookup k key = .error (.notFound k key)) ∨
      ∃ o, s.version? k key = some (k.header o).version ∧ s.lookup k key = .ok o := by
  cases hstored : (s.table k).get? key with
  | none => exact .inl ⟨by rw [version?, hstored, Option.map_none], by rw [lookup, hstored]⟩
  | some stored =>
    obtain ⟨o, hread⟩ := h stored hstored
    have hlookup : s.lookup k key = .ok o := by simp [lookup, read, hstored, hread]
    obtain ⟨stored', hstored', hheader⟩ := lookup_ok hlookup
    refine .inr ⟨o, ?_, hlookup⟩
    rw [version?, hstored', Option.map_some, hheader]

theorem lookup_of_not_legible (h : ¬ s.Legible k key) :
    ∃ text, s.lookup k key = .error (.fault .decoding text) := by
  unfold Legible at h
  push Not at h
  obtain ⟨stored, hstored, hunread⟩ := h
  cases hread : k.reread stored with
  | ok o => exact absurd hread (hunread o)
  | error e => exact ⟨e.message, by simp [lookup, read, hstored, hread]⟩

/-- An update that succeeds has read what it replaces. -/
theorem accepts_iff : s.Accepts k o ↔
    s.version? k (k.key o) = some (k.header o).version ∧ s.Legible k (k.key o) := by
  constructor
  · rintro ⟨found, hlookup, hversion⟩
    obtain ⟨stored, hstored, hread⟩ := lookup_eq_ok_iff.1 hlookup
    refine ⟨?_, fun stored' hstored' => ?_⟩
    · rw [version?, hstored, Option.map_some, ← hversion, header_of_reread hread]
    · obtain rfl := Option.some.inj (hstored.symm.trans hstored')
      exact ⟨found, hread⟩
  · rintro ⟨hversion, hlegible⟩
    obtain ⟨hnone, -⟩ | ⟨found, hfound, hlookup⟩ := lookup_of_legible hlegible
    · rw [hnone] at hversion
      cases hversion
    · exact ⟨found, hlookup, Option.some.inj (hfound.symm.trans hversion)⟩

theorem Operation.exists_update_eq_ok_iff :
    (∃ copy, ((Operation.update k o).perform s).1 = .ok copy) ↔ s.Accepts k o := by
  constructor
  · rintro ⟨copy, hok⟩
    obtain h | ⟨e, he⟩ := s.update_cases k o
    · exact h
    · simp [perform, he, settle] at hok
  · intro h
    exact ⟨k.bump o, by simp only [perform, update_of_accepts h, settle]⟩

private theorem Operation.update_of_lookup_error {e : Error} (h : s.lookup k (k.key o) = .error e) :
    ((Operation.update k o).perform s).1 = .error e := by
  simp [perform, Store.update, h, bind, Except.bind, settle]

/-- An update that is refused finds nothing, or another version, or what cannot be read. -/
theorem Operation.update_eq_error (h : ¬ s.Accepts k o) :
    ∃ e, ((Operation.update k o).perform s).1 = .error e ∧
      (e.isNotFound ∨ e.isConflict ∨ ¬ s.Legible k (k.key o)) := by
  by_cases hlegible : s.Legible k (k.key o)
  · obtain ⟨-, hlookup⟩ | ⟨found, hfound, hlookup⟩ := lookup_of_legible hlegible
    · exact ⟨_, update_of_lookup_error hlookup, .inl rfl⟩
    · have hversion : (k.header found).version ≠ (k.header o).version := fun hsame =>
        h ⟨found, hlookup, hsame⟩
      refine ⟨.conflict k (k.key o) (k.header found).version (k.header o).version, ?_, .inr (.inl rfl)⟩
      simp [perform, Store.update, hlookup, bind, Except.bind, hversion, throw, throwThe,
        MonadExceptOf.throw, settle]
  · obtain ⟨text, hlookup⟩ := lookup_of_not_legible hlegible
    exact ⟨_, update_of_lookup_error hlookup, .inr (.inr hlegible)⟩

/-! ### Stores of objects that are read back as they are -/

/-- Every entry is read as it is stored. -/
def Settled (s : Store) : Prop :=
  ∀ (k : Kind) (key : String) (o : k.Object), (s.table k).get? key = some o → k.reread o = .ok o

theorem Settled.legible (h : s.Settled) (k : Kind) (key : String) : s.Legible k key :=
  fun stored hstored => ⟨stored, h k key stored hstored⟩

theorem settled_empty : (∅ : Store).Settled := by
  intro k key o h
  rw [get?_table_empty] at h
  cases h

/-- The object that an operation would store is read back as it is. -/
def Operation.Settled : Operation → Prop
  | .create k o => k.reread o = .ok o
  | .update k o => k.reread o = .ok o
  | _ => True

theorem Settled.perform (h : s.Settled) {op : Operation} (hop : op.Settled) :
    (op.perform s).2.Settled := by
  intro k key o ho
  obtain hsame | ⟨o', rfl, -, -, hnew⟩ | ⟨o', rfl, -, -, hnew⟩ | ⟨-, hnone⟩ := op.entry_cases s k key
  · exact h k key o (hsame ▸ ho)
  · obtain rfl := Option.some.inj (hnew.symm.trans ho)
    exact Kind.reread_withHeader hop _
  · obtain rfl := Option.some.inj (hnew.symm.trans ho)
    exact Kind.reread_withHeader hop _
  · rw [hnone] at ho
    cases ho

end Store

/-- A claim with an amount that was computed: its text has more digits than are read. -/
def Claim.oversized : Claim :=
  { Claim.new "web" none with allocatable := .ofList [("cpu", .ofMillis 1000000000000000000000000000)] }

theorem Store.not_legible_of_oversized {s : Store} {key : String}
    (h : s.claims.get? key = some (Kind.claim.withVersion .oversized 1)) : ¬ s.Legible .claim key := by
  intro hlegible
  obtain ⟨o, hread⟩ := hlegible _ h
  have hunread : (Kind.claim.reread (Kind.claim.withVersion .oversized 1)).toOption = none := by
    decide +kernel
  rw [hread] at hunread
  cases hunread

end MachineClaims
