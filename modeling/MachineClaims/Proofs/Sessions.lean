import MachineClaims.Proofs.Legible
import Mathlib.Logic.Function.Basic

/-!
# Clients that hold copies

Any number of clients share one store. Each of them holds a copy of an object of every kind: it makes
or changes its copy as it likes, gets a stored object as its copy, and has it brought up to date by its
own writes. A store that started empty stays sound (`Store.Sound.after`). So each move is atomic
(`Session.Atomic`), versions count the writes since a creation (`Store.Change.Chain.life`), and what is
listed are the objects that match, in the order of their keys (`Store.Lists`). All of it is put together
in `sessions_versioned`. What a client has stored is there for others to read just if it is read back
(`created_claim_unread`).
-/

namespace MachineClaims

/-- A store and the copies that clients hold. A client with several copies of a kind counts as
several. -/
structure Session where
  store : Store
  copies : Nat → (k : Kind) → k.Object

/-- What a client may do. -/
inductive Session.Move where
  /-- Makes or changes its copy of a kind. -/
  | edit (k : Kind) (copy : k.Object)
  | get (k : Kind) (space name : String)
  | list (k : Kind) (selector : Option Selector)
  /-- Creates the object that it has a copy of. -/
  | create (k : Kind)
  /-- Updates the object that it has a copy of. -/
  | update (k : Kind)
  | delete (k : Kind) (space name : String)

namespace Store

variable {s : Store} {k : Kind} {key : String} {o : k.Object}

/-- All entries have the keys of their objects, and a version. -/
def Sound (s : Store) : Prop :=
  ∀ (k : Kind) (key : String) (o : k.Object), (s.table k).get? key = some o →
    k.key o = key ∧ 1 ≤ (k.header o).version

theorem sound_empty : (∅ : Store).Sound := by
  intro k key o h
  rw [get?_table_empty] at h
  cases h

theorem Sound.keyed (h : s.Sound) : s.Keyed := fun k key o hget => (h k key o hget).1

theorem Sound.perform (h : s.Sound) (op : Operation) : (op.perform s).2.Sound := by
  intro k key o ho
  refine ⟨h.keyed.perform op k key o ho, ?_⟩
  obtain hsame | ⟨o', -, -, -, hnew⟩ | ⟨o', -, -, -, hnew⟩ | ⟨-, hnone⟩ := op.entry_cases s k key
  · exact (h k key o (hsame ▸ ho)).2
  · obtain rfl := Option.some.inj (hnew.symm.trans ho)
    exact Nat.le_of_eq (k.version_withVersion o' 1).symm
  · obtain rfl := Option.some.inj (hnew.symm.trans ho)
    rw [Kind.version_bump]
    omega
  · rw [hnone] at ho
    cases ho

theorem Sound.after (h : s.Sound) (ops : List Operation) : (s.after ops).Sound := by
  induction ops generalizing s with
  | nil => exact h
  | cons op ops ih => exact ih (h.perform op)

end Store

/-! ### What is listed -/

/-- The expression cannot be evaluated: its key is empty, a set operator has no value, or one of the
other two lists values. -/
def Selector.Expression.Senseless (e : Selector.Expression) : Prop :=
  e.key = "" ∨ (e.operator = .isIn ∨ e.operator = .notIn) ∧ e.values = [] ∨
    (e.operator = .present ∨ e.operator = .absent) ∧ e.values ≠ []

/-- What an expression says of the value of its key, `none` if there is no such label. -/
def Selector.Expression.Holds (e : Selector.Expression) (value : Option String) : Prop :=
  match e.operator with
  | .isIn => ∃ v ∈ e.values, value = some v
  | .notIn => ∀ v ∈ e.values, value ≠ some v
  | .present => value ≠ none
  | .absent => value = none

/-- All labels of the selector are there and all of its expressions hold. -/
def Selector.Matches (s : Selector) (labels : Labels) : Prop :=
  (∀ key value, s.labels.get? key = some value → labels.get? key = some value) ∧
    ∀ e ∈ s.expressions, e.Holds (labels.get? e.key)

namespace Selector

theorem Expression.fault?_eq_none_iff (e : Expression) : e.fault? = none ↔ ¬ e.Senseless := by
  obtain ⟨key, operator, values⟩ := e
  unfold fault? Senseless
  by_cases hkey : key = ""
  · simp [hkey]
  · cases operator <;> by_cases hvalues : values = [] <;> simp [hkey, hvalues]

theorem Expression.accepts_iff (e : Expression) (value : Option String) :
    e.accepts value = true ↔ e.Holds value := by
  obtain ⟨key, operator, values⟩ := e
  unfold accepts Holds
  cases operator <;> cases value <;> simp [List.forall_mem_ne]

theorem fault?_eq_none_iff (s : Selector) :
    s.fault? = none ↔ ¬ ∃ e ∈ s.expressions, e.Senseless := by
  rw [fault?, List.findSome?_eq_none_iff]
  simp only [Expression.fault?_eq_none_iff, not_exists, not_and]

theorem accepts_iff (s : Selector) (labels : Labels) :
    s.accepts labels = true ↔ s.Matches labels := by
  unfold accepts Matches
  rw [Bool.and_eq_true, List.all_eq_true, List.all_eq_true]
  simp only [Expression.accepts_iff, Prod.forall, beq_iff_eq, NameMap.mem_entries_iff]

end Selector

namespace Store

variable {s : Store} {k : Kind}

/-- What a list answers: an error just if the selector cannot be evaluated or there is an object that
cannot be read, and otherwise the objects that are found and match, in the order of their keys. -/
def Lists (s : Store) (k : Kind) (selector : Option Selector) : Prop :=
  ((∃ e, s.list k selector = .error e) ↔
    (∃ c ∈ selector, ∃ e ∈ c.expressions, e.Senseless) ∨ ∃ key, ¬ s.Legible k key) ∧
  ∀ l, s.list k selector = .ok l → (l.map k.key).Pairwise (· < ·) ∧
    ∀ o, o ∈ l ↔ s.lookup k (k.key o) = .ok o ∧ ∀ c ∈ selector, c.Matches (k.header o).labels

/-- Objects that lie under their keys are listed in the order of their keys. -/
theorem Keyed.pairwise_values (h : s.Keyed) (k : Kind) :
    ((s.table k).values.map k.key).Pairwise (· < ·) := by
  have hkeys : (s.table k).values.map k.key = (s.table k).entries.map (·.1) := by
    rw [NameMap.values, List.map_map]
    exact List.map_congr_left fun e he => h k e.1 e.2 (NameMap.mem_entries_iff.1 he)
  rw [hkeys, List.pairwise_map]
  exact (s.table k).increasing

/-- Reading an object keeps its key. -/
theorem key_of_read {stored o : k.Object} (h : read k stored = .ok o) : k.key o = k.key stored := by
  rw [Kind.key, Kind.key, header_of_reread (read_eq_ok_iff.1 h)]

theorem Keyed.pairwise_read (h : s.Keyed) {all : List k.Object}
    (hall : (s.table k).values.mapM (read k) = .ok all) : (all.map k.key).Pairwise (· < ·) := by
  rw [map_of_mapM hall fun _ _ => key_of_read]
  exact h.pairwise_values k

theorem Keyed.mem_read_iff (h : s.Keyed) {all : List k.Object}
    (hall : (s.table k).values.mapM (read k) = .ok all) (o : k.Object) :
    o ∈ all ↔ s.lookup k (k.key o) = .ok o := by
  rw [mem_iff_of_mapM hall, lookup_eq_ok_iff]
  refine exists_congr fun stored => ?_
  rw [read_eq_ok_iff, h.mem_values_iff]
  refine and_congr_left fun hread => ?_
  rw [key_of_read (read_eq_ok_iff.2 hread)]

theorem bind_fault?_eq_none_iff (selector : Option Selector) :
    selector.bind (·.fault?) = none ↔ ¬ ∃ c ∈ selector, ∃ e ∈ c.expressions, e.Senseless := by
  cases selector with
  | none => simp
  | some c => simpa using c.fault?_eq_none_iff

/-- All objects of a kind are read just if each is. -/
theorem exists_mapM_read_iff (s : Store) (k : Kind) :
    (∃ all, (s.table k).values.mapM (read k) = .ok all) ↔ ∀ key, s.Legible k key := by
  simp only [exists_mapM_eq_ok_iff, NameMap.mem_values_iff, forall_exists_index, read_eq_ok_iff]
  exact forall_comm

theorem Keyed.lists (h : s.Keyed) (k : Kind) (selector : Option Selector) : s.Lists k selector := by
  have hlegible := s.exists_mapM_read_iff k
  have hsenseless := bind_fault?_eq_none_iff selector
  unfold Lists Store.list
  cases hfault : selector.bind (·.fault?) with
  | some e =>
    rw [hfault] at hsenseless
    refine ⟨⟨fun _ => .inl (by_contra fun hnot => ?_), fun _ => ⟨_, rfl⟩⟩, nofun⟩
    cases hsenseless.2 hnot
  | none =>
    have hsensible := hsenseless.1 hfault
    cases hall : (s.table k).values.mapM (read k) with
    | error e =>
      refine ⟨⟨fun _ => .inr (not_forall.1 fun hevery => ?_), fun _ => ⟨e, rfl⟩⟩, nofun⟩
      obtain ⟨all, hok⟩ := hlegible.2 hevery
      cases hall.symm.trans hok
    | ok all =>
      refine ⟨⟨nofun, ?_⟩, ?_⟩
      · rintro (hbad | ⟨key, hnot⟩)
        · exact absurd hbad hsensible
        · exact absurd (hlegible.1 ⟨all, hall⟩ key) hnot
      · intro l hl
        obtain rfl := Except.ok.inj hl
        refine ⟨(h.pairwise_read hall).sublist (List.filter_sublist.map k.key), fun o => ?_⟩
        rw [List.mem_filter, h.mem_read_iff hall]
        refine and_congr_right fun _ => ?_
        cases selector with
        | none => simp
        | some c => simpa using c.accepts_iff _

end Store

/-! ### Moves and runs -/

namespace Session

open Store (Operation Change)

/-- At the start nothing is stored. -/
def start (copies : Nat → (k : Kind) → k.Object) : Session := ⟨∅, copies⟩

/-- A client has another copy. -/
def hold (σ : Session) (client : Nat) (k : Kind) (copy : k.Object) : Session :=
  { σ with copies := Function.update σ.copies client (Function.update (σ.copies client) k copy) }

/-- The store has answered a client, and is now `s`. The object that it answers is the copy of the
client; after an error the client still has the copy that it had. -/
def answered (σ : Session) (client : Nat) (k : Kind) (answer : Except Store.Error k.Object)
    (s : Store) : Session :=
  match answer with
  | .ok o => { σ with store := s }.hold client k o
  | .error _ => { σ with store := s }

/-- What a client does. -/
def act (σ : Session) (client : Nat) : Move → Session
  | .edit k copy => σ.hold client k copy
  | .get k space name => σ.answered client k (σ.store.get k space name) σ.store
  | .list _ _ => σ
  | .create k =>
    let op := Operation.create k (σ.copies client k)
    σ.answered client k (op.perform σ.store).1 (op.perform σ.store).2
  | .update k =>
    let op := Operation.update k (σ.copies client k)
    σ.answered client k (op.perform σ.store).1 (op.perform σ.store).2
  | .delete k space name => { σ with store := (σ.store.delete k space name).2 }

/-- What clients do in turn. -/
def run (σ : Session) (l : List (Nat × Move)) : Session := l.foldl (fun σ m => σ.act m.1 m.2) σ

/-- The operation that a move asks of the store. -/
def operation? (σ : Session) (client : Nat) : Move → Option Operation
  | .edit _ _ => none
  | .get k space name => some (.get k space name)
  | .list k selector => some (.list k selector)
  | .create k => some (.create k (σ.copies client k))
  | .update k => some (.update k (σ.copies client k))
  | .delete k space name => some (.delete k space name)

/-- The operation of a move succeeds. -/
def Succeeds (σ : Session) (client : Nat) (m : Move) : Prop :=
  ∃ op a, σ.operation? client m = some op ∧ (op.perform σ.store).1 = .ok a

/-- The operations of a run. -/
def operations : Session → List (Nat × Move) → List Operation
  | _, [] => []
  | σ, m :: l => (σ.operation? m.1 m.2).toList ++ operations (σ.act m.1 m.2) l

/-- What a run does to the entry of a key. -/
def changes (σ : Session) (k : Kind) (key : String) (l : List (Nat × Move)) : List Change :=
  σ.store.changes k key (σ.operations l)

/-- The copy that a client makes by itself is read back as it is. -/
def Move.Settled : Move → Prop
  | .edit k copy => k.reread copy = .ok copy
  | _ => True

/-- All that is stored, and all that clients hold, is read back as it is. -/
structure Settled (σ : Session) : Prop where
  store : σ.store.Settled
  copies : ∀ (client : Nat) (k : Kind), k.reread (σ.copies client k) = .ok (σ.copies client k)

variable {σ : Session} {client : Nat} {m : Move} {k : Kind} {o : k.Object}

@[simp] theorem copies_hold_self (σ : Session) (client : Nat) (k : Kind) (copy : k.Object) :
    (σ.hold client k copy).copies client k = copy := by
  simp [hold]

section

variable {answer : Except Store.Error k.Object} {s : Store} {e : Store.Error}

@[simp] theorem store_answered : (σ.answered client k answer s).store = s := by cases answer <;> rfl

theorem answered_of_error (h : answer = .error e) :
    σ.answered client k answer s = { σ with store := s } := by
  subst h
  rfl

theorem copies_answered (h : answer = .ok o) : (σ.answered client k answer s).copies client k = o := by
  subst h
  exact copies_hold_self ..

theorem copies_answered_of_ne {client' : Nat} (h : client' ≠ client) :
    (σ.answered client k answer s).copies client' = σ.copies client' := by
  cases answer with
  | ok o => exact Function.update_of_ne h ..
  | error e => rfl

end

/-- The operation of a move does all that the move does to the store. -/
theorem store_act (σ : Session) (client : Nat) (m : Move) :
    (σ.act client m).store = σ.store.after (σ.operation? client m).toList := by
  cases m with
  | edit k copy => rfl
  | list k selector => rfl
  | delete k space name => rfl
  | get k space name => exact store_answered
  | create k => exact store_answered
  | update k => exact store_answered

theorem store_run (σ : Session) (l : List (Nat × Move)) :
    (σ.run l).store = σ.store.after (σ.operations l) := by
  induction l generalizing σ with
  | nil => rfl
  | cons m l ih =>
    rw [operations, Store.after_append, ← store_act]
    exact ih (σ.act m.1 m.2)

/-- What a run does to an entry takes it from the version before to the version after. -/
theorem chain_changes (σ : Session) (k : Kind) (key : String) (l : List (Nat × Move)) :
    Change.Chain (σ.changes k key l) (σ.store.version? k key)
      ((σ.run l).store.version? k key) := by
  rw [store_run]
  exact Store.chain_changes k key σ.store (σ.operations l)

theorem sound_act (h : σ.store.Sound) (client : Nat) (m : Move) : (σ.act client m).store.Sound := by
  rw [store_act]
  exact h.after _

theorem sound_run (h : σ.store.Sound) (l : List (Nat × Move)) : (σ.run l).store.Sound := by
  rw [store_run]
  exact h.after _

/-! ### Copies that are read back -/

theorem Settled.hold (h : σ.Settled) (client : Nat) (ho : k.reread o = .ok o) :
    (σ.hold client k o).Settled where
  store := h.store
  copies client' k' := by
    by_cases hclient : client' = client
    · subst hclient
      by_cases hk : k' = k
      · subst hk
        rw [copies_hold_self]
        exact ho
      · simpa [Session.hold, Function.update_of_ne hk] using h.copies client' k'
    · simpa [Session.hold, Function.update_of_ne hclient] using h.copies client' k'

theorem Settled.answered (h : σ.Settled) (client : Nat) {answer : Except Store.Error k.Object} {s : Store}
    (hs : s.Settled) (hanswer : ∀ o, answer = .ok o → k.reread o = .ok o) :
    (σ.answered client k answer s).Settled := by
  have hstored : { σ with store := s }.Settled := ⟨hs, h.copies⟩
  cases answer with
  | ok o => exact hstored.hold client (hanswer o rfl)
  | error e => exact hstored

theorem settled_act (h : σ.Settled) (client : Nat) (hm : m.Settled) : (σ.act client m).Settled := by
  cases m with
  | edit k copy => exact h.hold client hm
  | list k selector => exact h
  | delete k space name =>
    have hs : ((Operation.delete k space name).perform σ.store).2.Settled := h.store.perform trivial
    exact ⟨hs, h.copies⟩
  | get k space name =>
    refine h.answered client h.store fun o ho => ?_
    obtain ⟨stored, -, hread⟩ := Store.lookup_eq_ok_iff.1 ho
    exact Kind.reread_of_reread hread
  | create k =>
    have hs : ((Operation.create k (σ.copies client k)).perform σ.store).2.Settled :=
      h.store.perform (h.copies client k)
    refine h.answered client hs fun o ho => ?_
    obtain ⟨rfl, -⟩ := Operation.of_create_ok ho
    exact Kind.reread_withHeader (h.copies client k) _
  | update k =>
    have hs : ((Operation.update k (σ.copies client k)).perform σ.store).2.Settled :=
      h.store.perform (h.copies client k)
    refine h.answered client hs fun o ho => ?_
    obtain ⟨-, rfl, -⟩ := Operation.of_update_ok ho
    exact Kind.reread_withHeader (h.copies client k) _

theorem settled_run (h : σ.Settled) {l : List (Nat × Move)} (hl : ∀ m ∈ l, m.2.Settled) :
    (σ.run l).Settled := by
  induction l generalizing σ with
  | nil => exact h
  | cons m l ih =>
    rw [List.forall_mem_cons] at hl
    exact ih (settled_act h m.1 hl.1) hl.2

theorem settled_start {copies : Nat → (k : Kind) → k.Object}
    (h : ∀ (client : Nat) (k : Kind), k.reread (copies client k) = .ok (copies client k)) :
    (start copies).Settled :=
  ⟨Store.settled_empty, h⟩

/-! ### One move -/

/-- What one move does. -/
structure Atomic (σ : Session) (client : Nat) (m : Move) : Prop where
  /-- If the operation fails, the store and all copies stay as they were. -/
  failed : ∀ op e, σ.operation? client m = some op → (op.perform σ.store).1 = .error e →
    σ.act client m = σ
  /-- All entries stay as they were but the one that the operation is about. -/
  elsewhere : ∀ k key, (∀ op ∈ σ.operation? client m, op.target? ≠ some (k, key)) →
    ((σ.act client m).store.table k).get? key = (σ.store.table k).get? key
  /-- Nobody else's copy changes. -/
  others : ∀ client', client' ≠ client → (σ.act client m).copies client' = σ.copies client'
  /-- A look-up finds what lies under the key, with its amounts read back. -/
  found : ∀ k space name, m = .get k space name → ∀ o, σ.store.get k space name = .ok o ↔
    ∃ stored, (σ.store.table k).get? (objectKey space name) = some stored ∧ k.reread stored = .ok o
  /-- After a removal nothing lies under the key. -/
  deleted : ∀ k space name, m = .delete k space name →
    (σ.act client m).store.version? k (objectKey space name) = none
  /-- A creation succeeds just if nothing lies under the key. -/
  creates : ∀ k, m = .create k → (σ.Succeeds client m ↔
    σ.store.version? k (k.key (σ.copies client k)) = none)
  /-- An update succeeds just if the stored object has the version of the copy, and is one that can be
  read. -/
  updates : ∀ k, m = .update k → (σ.Succeeds client m ↔
    σ.store.version? k (k.key (σ.copies client k)) = some (k.header (σ.copies client k)).version ∧
      σ.store.Legible k (k.key (σ.copies client k)))
  /-- Who creates an object then holds what lies under its key, with version one. This is found there
  just if it is read back as it is. -/
  created : ∀ k o, m = .create k →
    ((Operation.create k (σ.copies client k)).perform σ.store).1 = .ok o →
      o = k.withVersion (σ.copies client k) 1 ∧ (σ.act client m).copies client k = o ∧
        ((σ.act client m).store.table k).get? (k.key o) = some o ∧
        ((σ.act client m).store.get k (k.header o).space (k.header o).name = .ok o ↔
          k.reread o = .ok o)
  /-- Who updates an object then holds what lies under its key, with the version after the one that was
  stored. This is found there just if it is read back as it is. -/
  updated : ∀ k o, m = .update k →
    ((Operation.update k (σ.copies client k)).perform σ.store).1 = .ok o →
      ∃ version, σ.store.version? k (k.key o) = some version ∧
        o = k.withVersion (σ.copies client k) (version + 1) ∧ (σ.act client m).copies client k = o ∧
        ((σ.act client m).store.table k).get? (k.key o) = some o ∧
        ((σ.act client m).store.get k (k.header o).space (k.header o).name = .ok o ↔
          k.reread o = .ok o)

theorem act_of_error {op : Operation} {e : Store.Error} (h : σ.operation? client m = some op)
    (he : (op.perform σ.store).1 = .error e) : σ.act client m = σ := by
  have hstore := Operation.store_of_error he
  cases m with
  | edit k copy => cases h
  | list k selector => rfl
  | get k space name =>
    cases h
    exact answered_of_error he
  | create k =>
    cases h
    exact (answered_of_error he).trans (by rw [hstore])
  | update k =>
    cases h
    exact (answered_of_error he).trans (by rw [hstore])
  | delete k space name =>
    cases h
    cases he

theorem copies_act_of_ne {client' : Nat} (h : client' ≠ client) :
    (σ.act client m).copies client' = σ.copies client' := by
  cases m with
  | edit k copy => exact Function.update_of_ne h ..
  | list k selector => rfl
  | delete k space name => rfl
  | get k space name => exact copies_answered_of_ne h
  | create k => exact copies_answered_of_ne h
  | update k => exact copies_answered_of_ne h

theorem not_succeeds_of_error {op : Operation} {e : Store.Error} (h : σ.operation? client m = some op)
    (he : (op.perform σ.store).1 = .error e) : ¬ σ.Succeeds client m := by
  rintro ⟨op', a, hop, hok⟩
  obtain rfl := Option.some.inj (h.symm.trans hop)
  cases he.symm.trans hok

theorem succeeds_create_iff : σ.Succeeds client (.create k) ↔
    σ.store.version? k (k.key (σ.copies client k)) = none := by
  rw [Store.version?, Option.map_eq_none_iff]
  constructor
  · rintro ⟨op, o, hop, hok⟩
    cases hop
    rcases σ.store.create_outcome k (σ.copies client k) with ⟨e, he⟩ | ⟨hnone, -⟩
    · simp [Operation.perform, he, Operation.settle] at hok
    · exact hnone
  · intro hnone
    refine ⟨_, k.withVersion (σ.copies client k) 1, rfl, ?_⟩
    simp only [Operation.perform, Store.create_of_new hnone, Operation.settle]

theorem succeeds_update_iff_accepts :
    σ.Succeeds client (.update k) ↔ σ.store.Accepts k (σ.copies client k) := by
  rw [← Operation.exists_update_eq_ok_iff]
  constructor
  · rintro ⟨op, o, hop, hok⟩
    cases hop
    exact ⟨o, hok⟩
  · rintro ⟨o, hok⟩
    exact ⟨_, o, rfl, hok⟩

theorem succeeds_update_iff : σ.Succeeds client (.update k) ↔
    σ.store.version? k (k.key (σ.copies client k)) = some (k.header (σ.copies client k)).version ∧
      σ.store.Legible k (k.key (σ.copies client k)) := by
  rw [succeeds_update_iff_accepts, Store.accepts_iff]

/-- What lies under its own key is found there just if it is read back as it is. -/
theorem get_eq_ok_iff_of_entry {s : Store} (h : (s.table k).get? (k.key o) = some o) :
    s.get k (k.header o).space (k.header o).name = .ok o ↔ k.reread o = .ok o := by
  rw [Store.get_header, Store.lookup_eq_ok_iff, h]
  simp

theorem atomic (σ : Session) (client : Nat) (m : Move) : σ.Atomic client m where
  failed op e := act_of_error
  elsewhere k key htarget := by
    rw [store_act]
    cases hop : σ.operation? client m with
    | none => rfl
    | some op => exact Operation.entry_of_target_ne (htarget op hop)
  others client' := copies_act_of_ne
  found k space name _ o := Store.lookup_eq_ok_iff
  deleted k space name hm := by
    subst hm
    simp [act, Store.version?, Store.get?_table_delete]
  creates k hm := by
    subst hm
    exact succeeds_create_iff
  updates k hm := by
    subst hm
    exact succeeds_update_iff
  created k o hm hok := by
    subst hm
    obtain ⟨hcopy, hstored⟩ := Operation.of_create_ok hok
    have hentry : ((σ.act client (.create k)).store.table k).get? (k.key o) = some o := by
      rw [store_act]
      exact hstored
    exact ⟨hcopy, copies_answered hok, hentry, get_eq_ok_iff_of_entry hentry⟩
  updated k o hm hok := by
    subst hm
    obtain ⟨hversion, hcopy, hstored⟩ := Operation.of_update_ok hok
    have hkey : k.key o = k.key (σ.copies client k) := by rw [hcopy, Kind.key_bump]
    have hentry : ((σ.act client (.update k)).store.table k).get? (k.key o) = some o := by
      rw [store_act]
      exact hstored
    exact ⟨_, by rw [hkey, hversion], hcopy, copies_answered hok, hentry, get_eq_ok_iff_of_entry hentry⟩

end Session

/-- However many clients operate on a store that was empty at first, and whatever copies they hold:
every entry lies under the key of its object and has a version, every move is atomic, the versions
written between the creation of a key and its next removal are one, two, and so on, and a list
answers the objects that match in the order of their keys, if there is none that cannot be read. While
the clients make copies that are read back as they are, such as those that are read from JSON, all that is
stored is. -/
theorem sessions_versioned (copies : Nat → (k : Kind) → k.Object) (l : List (Nat × Session.Move)) :
    let σ := (Session.start copies).run l
    (∀ (k : Kind) (key : String) (o : k.Object), (σ.store.table k).get? key = some o →
      k.key o = key ∧ 1 ≤ (k.header o).version) ∧
    (∀ client m, σ.Atomic client m) ∧
    (∀ (k : Kind) (key : String) (xs : List Store.Change) (version : Nat) (ys zs : List Store.Change),
      (Session.start copies).changes k key l = xs ++ .created version :: ys ++ zs →
        .deleted ∉ ys → version = 1 ∧ ys = (List.range' 2 ys.length).map .updated ∧
          (zs = [] → σ.store.version? k key = some (1 + ys.length))) ∧
    (∀ (k : Kind) (selector : Option Selector), σ.store.Lists k selector) ∧
    ((∀ (client : Nat) (k : Kind), k.reread (copies client k) = .ok (copies client k)) →
      (∀ m ∈ l, m.2.Settled) →
        ∀ (k : Kind) (key : String) (o : k.Object), (σ.store.table k).get? key = some o →
          k.reread o = .ok o) ∧
    (∀ (k : Kind) (j : Json) (copy : k.Object), k.decode j = some copy →
      (Session.Move.edit k copy).Settled) := by
  intro σ
  have sound : σ.store.Sound := Session.sound_run Store.sound_empty l
  refine ⟨sound, σ.atomic, ?_, sound.keyed.lists, fun hcopies hl =>
    (Session.settled_run (Session.settled_start hcopies) hl).store, fun k j copy =>
    Kind.reread_of_decode⟩
  intro k key xs version ys zs hchanges kept
  have hchain := (Session.start copies).chain_changes k key l
  rw [hchanges] at hchain
  obtain ⟨y, hlife, hrest⟩ := hchain.of_append
  obtain ⟨hversion, hys, rfl⟩ := hlife.life kept
  refine ⟨hversion, hys, ?_⟩
  rintro rfl
  exact hrest.eq_of_nil

/-- A client creates a claim, and holds it now. But the claim is not found, it keeps all claims from being
listed, and it cannot be updated. -/
theorem created_claim_unread :
    let σ := (Session.start fun _ k => k.blank).run [(0, .edit .claim .oversized)]
    let σ' := σ.act 0 (.create .claim)
    σ.Succeeds 0 (.create .claim) ∧ σ'.copies 0 .claim = Kind.claim.withVersion .oversized 1 ∧
      ¬ σ'.Succeeds 0 (.get .claim "" "web") ∧ ¬ σ'.Succeeds 0 (.list .claim none) ∧
      ¬ σ'.Succeeds 0 (.update .claim) := by
  intro σ σ'
  have hunread : ¬ σ'.store.Legible .claim "/web" :=
    Store.not_legible_of_oversized (by decide +kernel)
  have keyed : σ'.store.Keyed :=
    (Session.sound_act (Session.sound_run Store.sound_empty _) 0 (.create .claim)).keyed
  refine ⟨⟨_, _, rfl, rfl⟩, by decide +kernel, ?_, ?_, ?_⟩
  · obtain ⟨text, hlookup⟩ := Store.lookup_of_not_legible hunread
    exact Session.not_succeeds_of_error rfl hlookup
  · obtain ⟨e, hlist⟩ := (keyed.lists .claim none).1.2 (.inr ⟨"/web", hunread⟩)
    exact Session.not_succeeds_of_error rfl hlist
  · intro hupdate
    have hkey : Kind.claim.key (σ'.copies 0 .claim) = "/web" := by decide +kernel
    have hlegible := (Session.succeeds_update_iff.1 hupdate).2
    rw [hkey] at hlegible
    exact hunread hlegible

end MachineClaims
