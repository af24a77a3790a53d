import MachineClaims.Readiness
import MachineClaims.Proofs.Alone
import MachineClaims.Proofs.Changes
import MachineClaims.Proofs.Doings
import MachineClaims.Proofs.Serve
import MachineClaims.Proofs.Sessions
import Mathlib.Data.List.Forall2

/-!
# A readiness pass among others

A pass works through the classes as they were when it listed them, while others go on operating on the
store. What holds in between (`Readiness.Progress`) is kept by all that others do (`Progress.others`), and
the pass itself comes one class further with each step (`Progress.passed`, `Progress.accepted`). So a pass
overwrites nobody and counts what it writes (`Readiness.pass_among_others`). It does not get past a class
that somebody has removed (`Readiness.removal_stops_pass`).
-/

namespace MachineClaims

/-! ### Conditions -/

namespace Condition

variable {kind : String} {status : Status} {now : Nat} {l l' : List Condition}

/-- The conditions but the first one of a kind. -/
def apart (kind : String) (l : List Condition) : List Condition := l.eraseP (·.kind == kind)

theorem set?_eq_none_iff (h : status ≠ .unknown) :
    set? kind status now l = none ↔ status? kind l = status := by
  induction l with
  | nil => simp [set?, status?, Ne.symm h]
  | cons c l ih =>
    unfold set?
    split
    · rename_i hkind
      have hstatus : status? kind (c :: l) = c.status := by simp [status?, hkind]
      rw [hstatus]
      split <;> simp_all
    · rename_i hkind
      have hstatus : status? kind (c :: l) = status? kind l := by simp [status?, hkind]
      rw [hstatus, Option.map_eq_none_iff, ih]

/-- Setting a condition gives the first one of its kind the status and keeps the others. -/
theorem of_set? (h : set? kind status now l = some l') :
    status? kind l' = status ∧ apart kind l' = apart kind l := by
  induction l generalizing l' with
  | nil =>
    obtain rfl := Option.some.inj h
    simp [status?, apart]
  | cons c l ih =>
    unfold set? at h
    split at h
    · rename_i hkind
      split at h
      · cases h
      · obtain rfl := Option.some.inj h
        simp [status?, apart, hkind]
    · rename_i hkind
      obtain ⟨rest, hrest, rfl⟩ := Option.map_eq_some_iff.1 h
      obtain ⟨hstatus, hapart⟩ := ih hrest
      constructor
      · rw [← hstatus]
        simp [status?, hkind]
      · rw [apart, apart, List.eraseP_cons_of_neg (by simp [hkind]),
          List.eraseP_cons_of_neg (by simp [hkind])]
        exact congrArg _ hapart

end Condition

/-- The first condition of a class that says whether it is ready says so. -/
def CapacityClass.IsReady (c : CapacityClass) : Prop :=
  Condition.status? readyCondition c.conditions = .yes

/-- A class that is ready, and as it was before but for this. One that was ready before is the same. -/
structure CapacityClass.Readied (c c' : CapacityClass) : Prop where
  ready : c'.IsReady
  kept : c.IsReady → c' = c
  header : c'.header = { c.header with version := c'.header.version }
  selector : c'.selector = c.selector
  apart : Condition.apart readyCondition c'.conditions = Condition.apart readyCondition c.conditions

theorem CapacityClass.IsReady.readied {c : CapacityClass} (h : c.IsReady) : c.Readied c :=
  ⟨h, fun _ => rfl, rfl, rfl, rfl⟩

/-- What is written for a class that is not ready. -/
theorem CapacityClass.readied_of_set? {c : CapacityClass} {now : Nat} {conditions : List Condition}
    (h : Condition.set? readyCondition .yes now c.conditions = some conditions) :
    ¬ c.IsReady ∧ c.Readied (Kind.capacityClass.bump { c with conditions }) := by
  have hunready : ¬ c.IsReady := fun hready => by
    rw [(Condition.set?_eq_none_iff (by decide)).2 hready] at h
    cases h
  obtain ⟨hstatus, hapart⟩ := Condition.of_set? h
  exact ⟨hunready, hstatus, fun hready => absurd hready hunready, rfl, rfl, hapart⟩

/-! ### Operations on classes -/

/-- An update of a class finds nothing, or it succeeds or is in conflict by the stored version. -/
theorem Store.perform_update_class (s : Store) (o : CapacityClass) :
    (s.classes.get? o.header.key = none ∧ Operation.perform s (.update .capacityClass o) =
      (.error (.notFound .capacityClass o.header.key), s)) ∨
    ∃ stored, s.classes.get? o.header.key = some stored ∧
      ((stored.header.version = o.header.version ∧
        Operation.perform s (.update .capacityClass o) =
          (.ok (Kind.capacityClass.bump o), s.put .capacityClass (Kind.capacityClass.bump o))) ∨
      stored.header.version ≠ o.header.version ∧
        Operation.perform s (.update .capacityClass o) = (.error (.conflict .capacityClass
          o.header.key stored.header.version o.header.version), s)) := by
  cases hget : s.classes.get? o.header.key with
  | none =>
    refine .inl ⟨rfl, ?_⟩
    simp [Operation.perform, Operation.settle, update, lookup, table, Kind.key, Kind.header, hget,
      bind, Except.bind]
  | some stored =>
    refine .inr ⟨stored, rfl, ?_⟩
    by_cases hversion : stored.header.version = o.header.version
    · refine .inl ⟨hversion, ?_⟩
      have hupdate : s.update .capacityClass o =
          .ok (Kind.capacityClass.bump o, s.put .capacityClass (Kind.capacityClass.bump o)) :=
        update_of_current ⟨stored, hget, hversion⟩ fun _ => rfl
      rw [Operation.perform, hupdate]
      rfl
    · refine .inr ⟨hversion, ?_⟩
      simp [Operation.perform, Operation.settle, update, lookup, table, Kind.key, Kind.header, hget,
        bind, Except.bind, read, Kind.reread, hversion]
      rfl

/-- Who has operated on the store. -/
def Event.client? (e : Event) : Option Caller :=
  match e.deed with
  | .operation client _ _ => some client
  | _ => none

namespace Readiness

/-- The caller lists the classes. -/
def listing (me : Caller) (s : Store) : Event :=
  ⟨s, .operation me (.list .capacityClass none) (.ok s.classes.values), s⟩

/-- Others operate on the store as they like, except that they make no class again that a pass of the
caller has listed and somebody has removed. -/
inductive Others (me : Caller) : Scene → Scene → Prop where
  | operate {w : Scene} (client : Caller) (op : Store.Operation) (other : client ≠ me)
    (anew : ∀ c s, op = .create .capacityClass c → listing me s ∈ w.events →
      s.classes.contains c.header.key → w.store.classes.contains c.header.key) :
    Others me w (w.operate client op)

/-- Nobody but the caller has changed the entry of a key. -/
def Spared (me : Caller) (later : List Event) (key : String) : Prop :=
  ∀ e ∈ later, e.client? ≠ some me → e.after.classes.get? key = e.before.classes.get? key

/-- The events in which the caller has changed the table of the classes. -/
def writes (me : Caller) (later : List Event) : List Event :=
  later.filter fun e => e.client? = some me ∧ e.alters .capacityClass

/-- An event puts a class that is ready in the place of one that is not, which was still stored as it
was listed. -/
structure Replaces (e : Event) (c : CapacityClass) : Prop where
  unready : ¬ c.IsReady
  current : e.before.classes.get? c.header.key = some c
  replaced : ∃ c', c.Readied c' ∧ e.after = e.before.put .capacityClass c'

/-- What is stored in the place of a class is newer, or that class itself. -/
def Fresh (s : Store) (c : CapacityClass) : Prop :=
  ∀ o, s.classes.get? c.header.key = some o →
    c.header.version ≤ o.header.version ∧ (o.header.version = c.header.version → o = c)

/-- How far a pass has come: it has been at some classes and has written some of those, the rest is
still to be done. -/
structure Progress (me : Caller) (done rest written : List CapacityClass) (later : List Event)
    (s : Store) : Prop where
  quiet : ∀ e ∈ later, e.client? = some me → e.alters .capacityClass = false → e.after = e.before
  chosen : written.Sublist done
  writes : List.Forall₂ Replaces (writes me later).reverse written
  ready : ∀ c ∈ done, Spared me later c.header.key →
    ∃ c', s.classes.get? c.header.key = some c' ∧ c.Readied c'
  waiting : ∀ c ∈ rest, Spared me later c.header.key → s.classes.get? c.header.key = some c
  fresh : ∀ c ∈ rest, Fresh s c

variable {me : Caller} {done rest written : List CapacityClass} {later : List Event} {s : Store}
  {c : CapacityClass} {e : Event} {key : String}

/-! ### What others do to the classes that are still to be done -/

theorem fresh_perform {op : Store.Operation} (h : Fresh s c)
    (anew : ∀ o, op = .create .capacityClass o → o.header.key = c.header.key →
      s.classes.contains o.header.key) : Fresh (op.perform s).2 c := by
  intro o' ho'
  rcases op.entry_cases s .capacityClass c.header.key with
    hsame | ⟨o, rfl, hkey, hnone, -⟩ | ⟨o, -, hkey, ⟨stored, hstored, hversion⟩, hput⟩ | ⟨-, hgone⟩
  · exact h o' (hsame.symm.trans ho')
  · have hthere := anew o rfl hkey
    rw [← hkey] at hnone
    rw [NameMap.contains, show s.classes.get? o.header.key = none from hnone] at hthere
    cases hthere
  · -- What is replaced is not older than what was listed, so what replaces it is newer.
    have hlisted := (h stored (by rw [← hkey]; exact hstored)).1
    obtain rfl := Option.some.inj (hput.symm.trans ho')
    have hbump : (Kind.capacityClass.bump o).header.version = stored.header.version + 1 :=
      (Kind.version_bump _ o).trans (congrArg (· + 1) hversion.symm)
    exact ⟨by omega, fun hsame => by omega⟩
  · cases hgone.symm.trans ho'

theorem spared_cons : Spared me (e :: later) key ↔
    (e.client? ≠ some me → e.after.classes.get? key = e.before.classes.get? key) ∧
      Spared me later key :=
  List.forall_mem_cons

theorem writes_cons_of_ne (h : e.client? ≠ some me) : writes me (e :: later) = writes me later := by
  simp [writes, h]

/-- What others do changes nothing about the classes that they spare. -/
theorem Progress.others (h : Progress me done rest written later s) (he : e.before = s)
    (hclient : e.client? ≠ some me) (hfresh : ∀ c ∈ rest, Fresh e.after c) :
    Progress me done rest written (e :: later) e.after := by
  have hspared : ∀ {key}, Spared me (e :: later) key →
      e.after.classes.get? key = s.classes.get? key ∧ Spared me later key := fun hkey => by
    obtain ⟨hsame, hlater⟩ := spared_cons.1 hkey
    exact ⟨he ▸ hsame hclient, hlater⟩
  refine ⟨?_, h.chosen, ?_, fun c hc hkey => ?_, fun c hc hkey => ?_, hfresh⟩
  · exact List.forall_mem_cons.2 ⟨fun hme => absurd hme hclient, h.quiet⟩
  · rw [writes_cons_of_ne hclient]
    exact h.writes
  · obtain ⟨hsame, hlater⟩ := hspared hkey
    rw [hsame]
    exact h.ready c hc hlater
  · obtain ⟨hsame, hlater⟩ := hspared hkey
    rw [hsame]
    exact h.waiting c hc hlater

/-- An event that leaves the store as it is changes nothing. -/
theorem Progress.idle (h : Progress me done rest written later s) (he : e.before = s)
    (hafter : e.after = s) : Progress me done rest written (e :: later) s := by
  have halters : e.alters .capacityClass = false := Event.alters_eq_false.2 (by rw [he, hafter])
  have hspared : ∀ {key}, Spared me (e :: later) key → Spared me later key := fun hkey =>
    (spared_cons.1 hkey).2
  refine ⟨?_, h.chosen, ?_, fun c hc hkey => h.ready c hc (hspared hkey),
    fun c hc hkey => h.waiting c hc (hspared hkey), h.fresh⟩
  · exact List.forall_mem_cons.2 ⟨fun _ _ => by rw [he, hafter], h.quiet⟩
  · have hwrites : Readiness.writes me (e :: later) = Readiness.writes me later := by
      simp [Readiness.writes, halters]
    rw [hwrites]
    exact h.writes

/-- The next class has been done without a write. -/
theorem Progress.passed (h : Progress me done (c :: rest) written later s)
    (hc : Spared me later c.header.key → ∃ c', s.classes.get? c.header.key = some c' ∧ c.Readied c') :
    Progress me (done ++ [c]) rest written later s where
  quiet := h.quiet
  chosen := h.chosen.trans (List.sublist_append_left _ _)
  writes := h.writes
  ready c' hmem := by
    rcases List.mem_append.1 hmem with hmem | hmem
    · exact h.ready c' hmem
    · obtain rfl := List.mem_singleton.1 hmem
      exact hc
  waiting c' hmem := h.waiting c' (List.mem_cons_of_mem _ hmem)
  fresh c' hmem := h.fresh c' (List.mem_cons_of_mem _ hmem)

/-- The next class has been written. -/
theorem Progress.accepted (h : Progress me done (c :: rest) written later s)
    (nodup : ((done ++ c :: rest).map (·.header.key)).Nodup) (he : e.before = s)
    (hclient : e.client? = some me) (hunready : ¬ c.IsReady)
    (hcurrent : s.classes.get? c.header.key = some c) {c' : CapacityClass} (hreadied : c.Readied c')
    (hafter : e.after = s.put .capacityClass c') (halters : e.alters .capacityClass = true) :
    Progress me (done ++ [c]) rest (written ++ [c]) (e :: later) e.after := by
  have hkey : c'.header.key = c.header.key := by rw [hreadied.header]; rfl
  have hput : ∀ key, e.after.classes.get? key =
      if key = c.header.key then some c' else s.classes.get? key := fun key => by
    rw [hafter, ← hkey]
    exact s.get?_table_put .capacityClass c' key
  rw [List.map_append, List.map_cons, List.nodup_append, List.nodup_cons] at nodup
  have hdone : ∀ c₁ ∈ done, c₁.header.key ≠ c.header.key := fun c₁ hc₁ =>
    nodup.2.2 _ (List.mem_map_of_mem hc₁) _ List.mem_cons_self
  have hrest : ∀ c₁ ∈ rest, c₁.header.key ≠ c.header.key := fun c₁ hc₁ heq =>
    nodup.2.1.1 (heq ▸ List.mem_map_of_mem hc₁)
  have hspared : ∀ {key}, Spared me (e :: later) key → Spared me later key := fun hkey =>
    (spared_cons.1 hkey).2
  refine ⟨?_, List.Sublist.append h.chosen (List.Sublist.refl _), ?_, fun c₁ hc₁ hkey => ?_,
    fun c₁ hc₁ hkey => ?_, fun c₁ hc₁ o ho => ?_⟩
  · exact List.forall_mem_cons.2 ⟨fun _ hquiet => by simp [halters] at hquiet, h.quiet⟩
  · have hwrites : Readiness.writes me (e :: later) = e :: Readiness.writes me later := by
      simp [Readiness.writes, halters, hclient]
    rw [hwrites, List.reverse_cons]
    exact List.rel_append h.writes (.cons ⟨hunready, he ▸ hcurrent, c', hreadied, he ▸ hafter⟩ .nil)
  · rw [hput]
    rcases List.mem_append.1 hc₁ with hc₁ | hc₁
    · rw [if_neg (hdone c₁ hc₁)]
      exact h.ready c₁ hc₁ (hspared hkey)
    · obtain rfl := List.mem_singleton.1 hc₁
      exact ⟨c', if_pos rfl, hreadied⟩
  · rw [hput, if_neg (hrest c₁ hc₁)]
    exact h.waiting c₁ (List.mem_cons_of_mem _ hc₁) (hspared hkey)
  · rw [hput, if_neg (hrest c₁ hc₁)] at ho
    exact h.fresh c₁ (List.mem_cons_of_mem _ hc₁) o ho

/-! ### The pass -/

/-- How far a pass has come that listed the classes of a store. -/
def Reached (me : Caller) (s₀ : Store) (earlier : List Event) (done rest written : List CapacityClass)
    (w : Scene) : Prop :=
  ∃ later, w.events = later ++ listing me s₀ :: earlier ∧ Progress me done rest written later w.store

/-- The update of a class that is not ready has found no entry, since somebody has removed the class. -/
structure Stopped (c : CapacityClass) (failure : Failure) (s : Store) : Prop where
  unready : ¬ c.IsReady
  gone : s.classes.get? c.header.key = none
  named : failure =
    .store (.updatingClass c.header.name) (.notFound .capacityClass c.header.key)

variable {s₀ : Store} {earlier : List Event} {w : Scene}

theorem lasting_reached (me : Caller) (hs : s₀.Keyed) (listed : ∀ c ∈ rest, c ∈ s₀.classes.values) :
    (Terms.beside (Others me) me).Lasting (Reached me s₀ earlier done rest written) where
  stable w w' := by
    rintro ⟨later, hevents, h⟩ ⟨client, op, other, anew⟩
    refine ⟨_ :: later, congrArg (List.cons _) hevents, ?_⟩
    refine h.others rfl (by simpa [Event.client?] using other) fun c hc => ?_
    refine fresh_perform (h.fresh c hc) fun o hop hkey => ?_
    have hlisted := (hs.mem_values_iff .capacityClass c).1 (listed c hc)
    refine anew o s₀ hop (by simp [hevents]) ?_
    rw [hkey, NameMap.contains]
    exact Option.isSome_iff_exists.2 ⟨c, hlisted⟩
  quiet w call x _ := by
    rintro ⟨later, hevents, h⟩
    exact ⟨_ :: later, congrArg (List.cons _) hevents, h.idle rfl rfl⟩

/-- An operation of the pass that leaves the store as it is takes nothing back. -/
private theorem Reached.idle {op : Store.Operation} (h : Reached me s₀ earlier done rest written w)
    (same : (op.perform w.store).2 = w.store) :
    Reached me s₀ earlier done rest written (w.operate me op) := by
  obtain ⟨later, hevents, hprogress⟩ := h
  refine ⟨_ :: later, congrArg (List.cons _) hevents, ?_⟩
  rw [show (w.operate me op).store = w.store from same]
  exact hprogress.idle rfl same

/-- What a pass does at one class. -/
private theorem ensures_markReady (hs : s₀.Keyed) (listed : ∀ c' ∈ c :: rest, c' ∈ s₀.classes.values)
    (nodup : ((done ++ c :: rest).map (·.header.key)).Nodup)
    (h : Reached me s₀ earlier done (c :: rest) written w) :
    (markReady c).Ensures (Terms.beside (Others me) me) (fun x w' => match x with
      | .ok b => Reached me s₀ earlier (done ++ [c]) rest (if b then written ++ [c] else written) w'
      | .error e => Stopped c e w'.store ∧ Reached me s₀ earlier done (c :: rest) written w') w := by
  have hlasting : (Terms.beside (Others me) me).Lasting
      (Reached me s₀ earlier done (c :: rest) written) := lasting_reached me hs listed
  unfold markReady
  rw [Action.ensures_bind]
  refine Action.ensures_clock hlasting h fun now w₁ h₁ => ?_
  simp only [Action.andThen]
  cases hset : Condition.set? readyCondition .yes now c.conditions with
  | none =>
    obtain ⟨later, hevents, hprogress⟩ := h₁
    have hready : c.IsReady := (Condition.set?_eq_none_iff (by decide)).1 hset
    refine ⟨later, hevents, hprogress.passed fun hspared => ?_⟩
    exact ⟨c, hprogress.waiting c List.mem_cons_self hspared, hready.readied⟩
  | some conditions =>
    obtain ⟨hunready, hreadied⟩ := CapacityClass.readied_of_set? hset
    simp only
    rw [Action.ensures_bind]
    refine Action.ensures_request hlasting h₁ fun w₂ x w₃ h₂ hx => ⟨trivial, ?_⟩
    obtain ⟨rfl, rfl⟩ := hx
    simp only [Action.andThen]
    rcases w₂.store.perform_update_class { c with conditions } with
      ⟨hgone, hperform⟩ | ⟨stored, hstored, ⟨hversion, hperform⟩ | ⟨hversion, hperform⟩⟩
    · -- The class has been removed.
      have hidle := h₂.idle (congrArg Prod.snd hperform)
      rw [hperform]
      refine ⟨⟨hunready, ?_, rfl⟩, hidle⟩
      rw [Scene.operate, hperform]
      exact hgone
    · -- The class is still as it was listed, so the write is accepted.
      obtain ⟨later, hevents, hprogress⟩ := h₂
      obtain rfl : stored = c := (hprogress.fresh c List.mem_cons_self stored hstored).2 hversion
      have hcurrent : w₂.store.Current .capacityClass { stored with conditions } :=
        ⟨stored, hstored, rfl⟩
      rw [hperform]
      refine ⟨_ :: later, congrArg (List.cons _) hevents, ?_⟩
      rw [Scene.operate, hperform]
      exact hprogress.accepted nodup rfl rfl hunready hstored hreadied rfl
        (by simpa [Event.alters] using hcurrent.table_ne)
    · -- Somebody has written the class meanwhile, so it has not been spared.
      obtain ⟨later, hevents, hprogress⟩ := h₂.idle (congrArg Prod.snd hperform)
      have hsame : (w₂.operate me (.update .capacityClass { c with conditions })).store = w₂.store :=
        congrArg Prod.snd hperform
      rw [hperform]
      refine ⟨later, hevents, hprogress.passed fun hspared => ?_⟩
      have hwaiting := hprogress.waiting c List.mem_cons_self hspared
      rw [hsame] at hwaiting
      obtain rfl := Option.some.inj (hstored.symm.trans hwaiting)
      exact absurd rfl hversion

/-- What a pass does at all classes that are left. -/
private theorem ensures_markAll (hs : s₀.Keyed) (listed : ∀ c ∈ rest, c ∈ s₀.classes.values)
    (nodup : ((done ++ rest).map (·.header.key)).Nodup)
    (h : Reached me s₀ earlier done rest written w) :
    (rest.mapM markReady).Ensures (Terms.beside (Others me) me) (fun x w' => match x with
      | .ok marks => ∃ written', written'.length = written.length + (marks.filter id).length ∧
          Reached me s₀ earlier (done ++ rest) [] written' w'
      | .error e => ∃ before c after written', rest = before ++ c :: after ∧ Stopped c e w'.store ∧
          Reached me s₀ earlier (done ++ before) (c :: after) written' w') w := by
  induction rest generalizing done written w with
  | nil => exact ⟨written, by simp, by simpa using h⟩
  | cons c rest ih =>
    have hlisted := List.forall_mem_cons.1 listed
    have hnodup : (((done ++ [c]) ++ rest).map (·.header.key)).Nodup := by simpa using nodup
    rw [List.mapM_cons, Action.ensures_bind]
    refine (ensures_markReady hs listed nodup h).mono fun x w₁ hx => ?_
    cases x with
    | error e => exact ⟨[], c, rest, written, rfl, hx.1, by simpa using hx.2⟩
    | ok b =>
      simp only [Action.andThen]
      rw [Action.ensures_bind]
      refine (ih hlisted.2 hnodup hx).mono fun y w₂ hy => ?_
      cases y with
      | error e =>
        obtain ⟨before, c', after, written', rfl, hstopped, hreached⟩ := hy
        exact ⟨c :: before, c', after, written', rfl, hstopped, by simpa using hreached⟩
      | ok marks =>
        obtain ⟨written', hlength, hreached⟩ := hy
        refine ⟨written', ?_, by simpa using hreached⟩
        rw [hlength]
        cases b with
        | false => simp
        | true => simp; omega

/-- Every class that was listed and that others spare is ready, and otherwise as it was listed. -/
def Converged (me : Caller) (later : List Event) (listed : List CapacityClass) (s : Store) : Prop :=
  ∀ c ∈ listed, Spared me later c.header.key →
    ∃ c', s.classes.get? c.header.key = some c' ∧ c.Readied c'

/-- What has come of a pass that listed the classes of a store, after later events. -/
structure Outcome (me : Caller) (s₀ : Store) (later : List Event) (x : Except Failure Nat) (s : Store) :
    Prop where
  /-- The pass only ever puts a class that is ready in the place of one that is still as it was listed. -/
  careful : ∃ written, written.Sublist s₀.classes.values ∧
    List.Forall₂ Replaces (writes me later).reverse written ∧ ∀ n, x = .ok n → n = written.length
  quiet : ∀ e ∈ later, e.client? = some me → e.alters .capacityClass = false → e.after = e.before
  returns : ∀ n, x = .ok n → Converged me later s₀.classes.values s
  /-- A pass that fails leaves all classes behind the one that was removed as they were listed. -/
  fails : ∀ e, x = .error e → ∃ before c after, s₀.classes.values = before ++ c :: after ∧
    Stopped c e s ∧ ¬ Spared me later c.header.key ∧ Converged me later before s ∧
    (∀ c' ∈ after, Spared me later c'.header.key → s.classes.get? c'.header.key = some c') ∧
    (Converged me later s₀.classes.values s ↔
      ∀ c' ∈ after, Spared me later c'.header.key → c'.IsReady)

theorem outcome_of_reached {n : Nat} (hn : n = written.length)
    (h : Progress me s₀.classes.values [] written later s) : Outcome me s₀ later (.ok n) s where
  careful := ⟨written, h.chosen, h.writes, fun _ hok => (Except.ok.inj hok).symm.trans hn⟩
  quiet := h.quiet
  returns _ _ := h.ready
  fails _ he := by cases he

theorem outcome_of_stopped {before after : List CapacityClass} {failure : Failure}
    (hall : s₀.classes.values = before ++ c :: after) (hstopped : Stopped c failure s)
    (h : Progress me before (c :: after) written later s) :
    Outcome me s₀ later (.error failure) s := by
  have hchosen : written.Sublist s₀.classes.values :=
    hall ▸ h.chosen.trans (List.sublist_append_left _ _)
  have hnot : ¬ Spared me later c.header.key := fun hspared => by
    cases hstopped.gone.symm.trans (h.waiting c List.mem_cons_self hspared)
  have hafter : ∀ c' ∈ after, Spared me later c'.header.key →
      s.classes.get? c'.header.key = some c' := fun c' hc' =>
    h.waiting c' (List.mem_cons_of_mem _ hc')
  refine ⟨⟨written, hchosen, h.writes, nofun⟩, h.quiet, nofun, fun e he => ?_⟩
  obtain rfl := Except.error.inj he
  refine ⟨before, c, after, hall, hstopped, hnot, h.ready, hafter, fun hall' c' hc' hspared => ?_,
    fun hready c' hc' hspared => ?_⟩
  · have hmem : c' ∈ s₀.classes.values := by simp [hall, hc']
    obtain ⟨c'', hget, hreadied⟩ := hall' c' hmem hspared
    obtain rfl := Option.some.inj ((hafter c' hc' hspared).symm.trans hget)
    exact hreadied.ready
  · rw [hall, List.mem_append, List.mem_cons] at hc'
    rcases hc' with hc' | rfl | hc'
    · exact h.ready c' hc' hspared
    · exact absurd hspared hnot
    · exact ⟨c', hafter c' hc' hspared, (hready c' hc' hspared).readied⟩

/-- What a pass does from its listing on. -/
private theorem ensures_pass (keyed : w.store.Keyed) (h : ∀ e ∈ w.events, e.client? ≠ some me) :
    pass.Ensures (Terms.beside (Others me) me) (fun x w' => ∃ later s₀ earlier,
      w'.events = later ++ listing me s₀ :: earlier ∧ (∀ e ∈ earlier, e.client? ≠ some me) ∧
      Outcome me s₀ later x w'.store) w := by
  have hlasting : (Terms.beside (Others me) me).Lasting fun w =>
      w.store.Keyed ∧ ∀ e ∈ w.events, e.client? ≠ some me := by
    refine ⟨fun w w' hw step => ?_, fun w call x _ hw => ?_⟩
    · cases step with
      | operate client op other anew =>
        refine ⟨hw.1.perform op, List.forall_mem_cons.2 ⟨?_, hw.2⟩⟩
        simpa [Event.client?] using other
    · exact ⟨hw.1, List.forall_mem_cons.2 ⟨nofun, hw.2⟩⟩
  unfold pass
  rw [Action.ensures_bind]
  refine Action.ensures_request hlasting ⟨keyed, h⟩ fun w₁ x w₂ h₁ hx => ⟨trivial, ?_⟩
  obtain ⟨rfl, rfl⟩ := hx
  have hperform : Store.Operation.perform w₁.store (.list .capacityClass none) =
      (.ok w₁.store.classes.values, w₁.store) := by
    rw [Store.Operation.perform, Store.list_classes]
  have hstored : ∀ c ∈ w₁.store.classes.values, w₁.store.classes.get? c.header.key = some c :=
    fun c hc => (h₁.1.mem_values_iff .capacityClass c).1 hc
  have hreached : Reached me w₁.store w₁.events [] w₁.store.classes.values []
      (w₁.operate me (.list .capacityClass none)) := by
    rw [Scene.operate, hperform]
    refine ⟨[], rfl, fun _ he => absurd he List.not_mem_nil, .refl _, .nil,
      fun _ hc => absurd hc List.not_mem_nil, fun c hc _ => hstored c hc, fun c hc o ho => ?_⟩
    obtain rfl := Option.some.inj ((hstored c hc).symm.trans ho)
    exact ⟨Nat.le_refl _, fun _ => rfl⟩
  have hnodup : (([] ++ w₁.store.classes.values).map fun c : CapacityClass => c.header.key).Nodup :=
    (h₁.1.pairwise_values .capacityClass).imp fun hlt heq => by
      rw [heq] at hlt
      exact String.lt_irrefl _ hlt
  rw [hperform]
  simp only [Action.andThen]
  rw [Action.ensures_bind]
  refine (ensures_markAll h₁.1 (fun _ hc => hc) hnodup hreached).mono fun y w₃ hy => ?_
  cases y with
  | error e =>
    obtain ⟨before, c, after, written, hall, hstopped, later, hevents, hprogress⟩ := hy
    exact ⟨later, w₁.store, w₁.events, hevents, h₁.2, outcome_of_stopped hall hstopped hprogress⟩
  | ok marks =>
    obtain ⟨written, hlength, later, hevents, hprogress⟩ := hy
    exact ⟨later, w₁.store, w₁.events, hevents, h₁.2,
      outcome_of_reached (by simpa using hlength.symm) hprogress⟩

/-- A pass on a store whose classes are all ready writes nothing. -/
theorem alone_pass_of_ready (now : Nat) (h : ∀ c ∈ s.classes.values, c.IsReady) :
    pass.alone now s = (.ok 0, s) := by
  have hmark : ∀ l : List CapacityClass, (∀ c ∈ l, c.IsReady) →
      (l.mapM markReady).alone now s = (.ok (l.map fun _ => false), s) := by
    intro l hl
    induction l with
    | nil => rfl
    | cons c l ih =>
      rw [List.forall_mem_cons] at hl
      have hset : Condition.set? readyCondition .yes now c.conditions = none :=
        (Condition.set?_eq_none_iff (by decide)).2 hl.1
      rw [List.mapM_cons]
      simp [-bind_pure_comp, markReady, Action.request, Program.answerAlone, hset, ih hl.2]
  simp [-bind_pure_comp, pass, Action.request, Program.answerAlone, Store.Operation.perform,
    s.list_classes, hmark _ h]

/-- A pass among others replaces nothing but classes that are not ready by classes that are, one for one
as it listed them, and counts these. If it returns, then all classes that it listed and that others
spare are ready. It fails just if somebody has removed a class before it is marked, and then the classes
behind that one stay as they were. Where all classes are ready there is nothing to do. -/
theorem pass_among_others {x : Except Failure Nat} (keyed : s.Keyed)
    (run : pass.Ends me (Others me) (.start s) x w) :
    (∃ later s₀ earlier, w.events = later ++ listing me s₀ :: earlier ∧
      (∀ e ∈ earlier, e.client? ≠ some me) ∧ Outcome me s₀ later x w.store) ∧
    ∀ now (t : Store), (∀ c ∈ t.classes.values, c.IsReady) → pass.alone now t = (.ok 0, t) := by
  refine ⟨?_, fun now t => alone_pass_of_ready now⟩
  have hensures : pass.Ensures (Terms.beside (Others me) me) _ (.start s) :=
    ensures_pass keyed fun _ he => absurd he List.not_mem_nil
  exact hensures.of_ends run

/-- Two classes without conditions. -/
def twoClasses : Store :=
  ((∅ : Store).put .capacityClass (Kind.capacityClass.bump (.new "a" none))).put .capacityClass
    (Kind.capacityClass.bump (.new "b" none))

theorem keyed_twoClasses : twoClasses.Keyed :=
  (Store.keyed_empty.put .capacityClass _).put .capacityClass _

/-- Somebody writes one of the classes before the pass does. -/
theorem pass_beside_writer :
    ∃ later s₀ earlier w, pass.Ends ⟨0, 0⟩ (Others ⟨0, 0⟩) (.start twoClasses) (.ok 1) w ∧
      w.events = later ++ listing ⟨0, 0⟩ s₀ :: earlier ∧
      Converged ⟨0, 0⟩ later s₀.classes.values w.store := by
  have run : pass.Ends ⟨0, 0⟩ (Others ⟨0, 0⟩) (.start twoClasses) (.ok 1) _ :=
    Program.ends_interrupted ⟨0, 0⟩ (Others ⟨0, 0⟩) 0 1 10 (by decide +kernel)
      (.operate ⟨1, 0⟩ (.update .capacityClass (Kind.capacityClass.bump (.new "a" none))) (by decide)
        fun _ _ h => by cases h)
      (Program.eq_of_hasReturned (by decide +kernel))
  obtain ⟨⟨later, s₀, earlier, hevents, -, houtcome⟩, -⟩ := pass_among_others keyed_twoClasses run
  exact ⟨later, s₀, earlier, _, run, hevents, houtcome.returns 1 rfl⟩

/-- Somebody removes one class, and the other one, which nobody else touches, is not marked. -/
theorem removal_stops_pass :
    ∃ later x w, pass.Ends ⟨0, 0⟩ (Others ⟨0, 0⟩) (.start twoClasses) x w ∧
      w.events = later ++ [listing ⟨0, 0⟩ twoClasses] ∧
      ¬ Converged ⟨0, 0⟩ later twoClasses.classes.values w.store := by
  let b : CapacityClass := Kind.capacityClass.bump (.new "b" none)
  have run : pass.Ends ⟨0, 0⟩ (Others ⟨0, 0⟩) (.start twoClasses)
      (.error (.store (.updatingClass "a") (.notFound .capacityClass "/a"))) _ :=
    Program.ends_interrupted ⟨0, 0⟩ (Others ⟨0, 0⟩) 0 1 10 (by decide +kernel)
      (.operate ⟨1, 0⟩ (.delete .capacityClass "" "a") (by decide) fun _ _ h => by cases h)
      (Program.eq_of_hasFailed (by decide +kernel))
  refine ⟨_, _, _, run, (List.take_append_drop 2 _).symm, fun hconverged => ?_⟩
  obtain ⟨c', hget, hreadied⟩ := hconverged b (by decide +kernel) (by unfold Spared; decide +kernel)
  have hstored : some b = some c' := by
    rw [← hget]
    decide +kernel
  obtain rfl := Option.some.inj hstored
  exact absurd hreadied.ready (by unfold CapacityClass.IsReady; decide +kernel)

end Readiness
end MachineClaims
