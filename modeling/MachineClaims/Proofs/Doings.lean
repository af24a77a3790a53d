import MachineClaims.Proofs.Ensures
import MachineClaims.Proofs.Feats

/-!
# What callers have done

The history of a scene tells what each caller has done, and which of its calls have written to which
table. A caller's calls that read or fail are doings as well, but no writes; what others do is
neither.
-/

namespace MachineClaims

instance (k : Kind) : DecidableEq k.Object :=
  match k with
  | .group => inferInstanceAs (DecidableEq MachineGroup)
  | .machine => inferInstanceAs (DecidableEq Machine)
  | .claim => inferInstanceAs (DecidableEq Claim)
  | .capacityClass => inferInstanceAs (DecidableEq CapacityClass)

namespace Event

/-- Whether a table is another one afterwards. -/
def alters (k : Kind) (e : Event) : Bool := e.after.table k ≠ e.before.table k

/-- A caller writes a group. -/
def ofGroup (s : Store) (me : Caller) (g : MachineGroup) : Event :=
  ⟨s, .call me (.updateGroup g) (.ok (Kind.group.bump g)), s.put .group (Kind.group.bump g)⟩

@[simp] theorem alters_eq_false {k : Kind} {e : Event} :
    e.alters k = false ↔ e.after.table k = e.before.table k := by simp [alters]

end Event

/-- An accepted write leaves another table. -/
theorem Store.Current.table_ne {s : Store} {k : Kind} {o : k.Object} (h : s.Current k o) :
    (s.put k (k.bump o)).table k ≠ s.table k := by
  intro heq
  obtain ⟨stored, hstored, hversion⟩ := h
  have hput : ((s.put k (k.bump o)).table k).get? (k.key o) = some (k.bump o) := by
    rw [Store.get?_table_put, if_pos (k.key_bump o).symm]
  rw [heq, hstored] at hput
  obtain rfl := Option.some.inj hput
  rw [Kind.version_bump] at hversion
  omega

namespace Scene

/-- What a caller has done by calls, the last first. -/
def doings (w : Scene) (c : Caller) : List Event := w.events.filter (·.caller? = some c)

/-- The writes of a caller to the table of a kind, the last first. -/
def writes (w : Scene) (c : Caller) (k : Kind) : List Event := (w.doings c).filter (·.alters k)

/-- The store is or once was as described. -/
def Met (w : Scene) (P : Store → Prop) : Prop := P w.store ∨ ∃ e ∈ w.events, P e.before

/-- A caller has changed nothing. -/
def Passive (w : Scene) (c : Caller) : Prop := ∀ e ∈ w.doings c, e.after = e.before

variable {w : Scene} {c : Caller} {k : Kind} {P : Store → Prop}

theorem Met.record (h : w.Met P) (deed : Deed) (s : Store) : (w.record deed s).Met P := by
  right
  obtain h | ⟨e, he, h⟩ := h
  · exact ⟨_, List.mem_cons_self, h⟩
  · exact ⟨e, List.mem_cons_of_mem _ he, h⟩

theorem doings_record_of_ne {deed : Deed} {s : Store}
    (h : (⟨w.store, deed, s⟩ : Event).caller? ≠ some c) :
    (w.record deed s).doings c = w.doings c := by simp [doings, h]

theorem doings_record_self {deed : Deed} {s : Store}
    (h : (⟨w.store, deed, s⟩ : Event).caller? = some c) :
    (w.record deed s).doings c = ⟨w.store, deed, s⟩ :: w.doings c := by simp [doings, h]

@[simp] theorem doings_operate (client : Caller) (op : Store.Operation) :
    (w.operate client op).doings c = w.doings c := doings_record_of_ne nofun

theorem Passive.writes (h : w.Passive c) (k : Kind) : w.writes c k = [] := by
  refine List.filter_eq_nil_iff.2 fun e he => ?_
  rw [Bool.not_eq_true, Event.alters_eq_false, h e he]

theorem Passive.record (h : w.Passive c) (deed : Deed) : (w.record deed w.store).Passive c := by
  intro e he
  obtain ⟨he, hc⟩ := List.mem_filter.1 he
  obtain rfl | he := List.mem_cons.1 he
  · rfl
  · exact h e (List.mem_filter.2 ⟨he, hc⟩)

theorem Passive.operate (h : w.Passive c) (client : Caller) (op : Store.Operation) :
    (w.operate client op).Passive c := by
  unfold Passive
  rw [doings_operate]
  exact h

/-- A deed that leaves a table alone is no write to it. -/
theorem writes_record_of_eq {deed : Deed} {s : Store} (h : s.table k = w.store.table k) :
    (w.record deed s).writes c k = w.writes c k := by
  have hquiet : (⟨w.store, deed, s⟩ : Event).alters k = false := Event.alters_eq_false.2 h
  by_cases hc : (⟨w.store, deed, s⟩ : Event).caller? = some c
  · rw [writes, doings_record_self hc, List.filter_cons, hquiet]
    rfl
  · rw [writes, doings_record_of_ne hc, writes]

/-- An accepted write of a caller. -/
theorem writes_put {o : k.Object} {deed : Deed} (current : w.store.Current k o)
    (h : (⟨w.store, deed, w.store.put k (k.bump o)⟩ : Event).caller? = some c) :
    (w.record deed (w.store.put k (k.bump o))).writes c k =
      ⟨w.store, deed, w.store.put k (k.bump o)⟩ :: w.writes c k := by
  have halters : (⟨w.store, deed, w.store.put k (k.bump o)⟩ : Event).alters k = true := by
    simpa [Event.alters] using current.table_ne
  rw [writes, doings_record_self h, List.filter_cons, halters]
  rfl

theorem writes_put_of_ne {k' : Kind} (o : k.Object) (deed : Deed) (h : k' ≠ k) :
    (w.record deed (w.store.put k o)).writes c k' = w.writes c k' :=
  writes_record_of_eq (Store.table_put_of_ne w.store o h)

section

variable {l : List Event} {g : MachineGroup} {m : Machine} {claim : Claim}

theorem writes_writeGroup (current : w.store.Current .group g) (h : w.writes c .group = l) :
    (w.writeGroup c g).writes c .group = .ofGroup w.store c g :: l :=
  h ▸ writes_put (k := .group) current rfl

theorem writes_writeMachine (current : w.store.Current .machine m) (h : w.writes c .machine = l) :
    (w.writeMachine c m).writes c .machine = .ofMachine w.store c m :: l :=
  h ▸ writes_put (k := .machine) current rfl

theorem writes_writeClaim (current : w.store.Current .claim claim) (h : w.writes c .claim = l) :
    (w.writeClaim c claim).writes c .claim = .ofClaim w.store c claim :: l :=
  h ▸ writes_put (k := .claim) current rfl

theorem writes_writeGroup_of_ne (hk : k ≠ .group) (h : w.writes c k = l) :
    (w.writeGroup c g).writes c k = l := (writes_put_of_ne (k := .group) _ _ hk).trans h

theorem writes_writeMachine_of_ne (hk : k ≠ .machine) (h : w.writes c k = l) :
    (w.writeMachine c m).writes c k = l := (writes_put_of_ne (k := .machine) _ _ hk).trans h

theorem writes_writeClaim_of_ne (hk : k ≠ .claim) (h : w.writes c k = l) :
    (w.writeClaim c claim).writes c k = l := (writes_put_of_ne (k := .claim) _ _ hk).trans h

end

end Scene

namespace Terms

variable {t : Terms}

/-- Others do nothing in the name of the caller. -/
def Personal (t : Terms) : Prop := ∀ w w', t.rely w w' → w'.doings t.caller = w.doings t.caller

/-- A fact about what the caller has done, which quiet calls do not spoil. -/
theorem Personal.lasting_doings (h : t.Personal) {P : List Event → Prop}
    (quiet : ∀ l s (c : Call) (x : _), c.Quiet x → P l → P (⟨s, .call t.caller c x, s⟩ :: l)) :
    t.Lasting fun w => P (w.doings t.caller) where
  stable w w' hw step := by rwa [h w w' step]
  quiet w c x hx hw := by
    rw [Scene.doings_record_self rfl]
    exact quiet _ _ c x hx hw

theorem Personal.lasting_writes (h : t.Personal) (k : Kind) (l : List Event) :
    t.Lasting fun w => w.writes t.caller k = l :=
  h.lasting_doings (P := fun doings => doings.filter (·.alters k) = l) fun doings s c x _ hl => by
    rw [List.filter_cons, Event.alters_eq_false.2 rfl]
    exact hl

theorem Personal.lasting_passive (h : t.Personal) : t.Lasting (·.Passive t.caller) :=
  h.lasting_doings (P := fun doings => ∀ e ∈ doings, e.after = e.before) fun l s c x _ hl e he => by
    obtain rfl | he := List.mem_cons.1 he
    · rfl
    · exact hl e he

end Terms

/-- Every event of a history is as described by what came before it. -/
def Along (P : List Event → Event → Prop) : List Event → Prop
  | [] => True
  | e :: past => P past e ∧ Along P past

theorem Along.of_append {P : List Event → Event → Prop} {later earlier : List Event} {e : Event}
    (h : Along P (later ++ e :: earlier)) : P earlier e := by
  induction later with
  | nil => exact h.1
  | cons _ later ih => exact ih h.2

end MachineClaims
