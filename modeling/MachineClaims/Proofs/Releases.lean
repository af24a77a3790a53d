import MachineClaims.Proofs.Alone
import MachineClaims.Proofs.Doings
import MachineClaims.Proofs.Serve

/-!
# What a release leaves

A release lowers the replica count of a group by one behind a mark on the machine, or it takes back
what it has done (`delete_lowers_or_cancels`). Others may write what they like beside it, as long as
they remove nothing and leave marks alone. Then what is stored under a key is what the release has
read or a later version of it (`Store.Follows`), so a write that the store accepts writes over
exactly what was read.
-/

namespace MachineClaims

/-- The mark of a machine. -/
def Machine.mark? (m : Machine) : Option String := m.header.annotations.get? deleteMark

theorem Machine.isMarked_eq (m : Machine) : m.isMarked = m.mark?.isSome := rfl

theorem Machine.mark?_eq_none {m : Machine} (h : m.isMarked = false) : m.mark? = none := by
  simpa [isMarked_eq] using h

@[simp] theorem Machine.mark?_marked (m : Machine) (mark : String) :
    (m.marked mark).mark? = some mark := NameMap.get?_insert_self ..

@[simp] theorem Machine.mark?_unmarked (m : Machine) : m.unmarked.mark? = none :=
  NameMap.get?_erase_self ..

@[simp] theorem Machine.mark?_bump (m : Machine) : (Kind.machine.bump m).mark? = m.mark? := rfl

namespace Store

/-- A machine is stored under the key and has the mark, or none. -/
def Carries (s : Store) (key : String) (mark : Option String) : Prop :=
  ∃ m, s.machines.get? key = some m ∧ m.mark? = mark

/-- What is stored under the key of an object is that object or has a greater version. -/
def Follows (s : Store) (k : Kind) (o : k.Object) : Prop :=
  ∃ stored, (s.table k).get? (k.key o) = some stored ∧
    (stored = o ∨ (k.header o).version < (k.header stored).version)

/-- An operation that removes nothing and leaves the marks of stored machines alone. -/
def Operation.Edits (s : Store) : Operation → Prop
  | .delete _ _ _ => False
  | .update .machine m =>
    ∀ stored, s.machines.get? (Kind.machine.key m) = some stored →
      Machine.mark? m = stored.mark?
  | _ => True

/-- What such an operation makes of a store. -/
inductive Edit (s : Store) : Store → Prop where
  | same : Edit s s
  | create {k : Kind} {o : k.Object} (new : (s.table k).get? (k.key o) = none) : Edit s (s.put k o)
  | update {k : Kind} {o : k.Object} (current : s.Current k o)
    (edits : (Operation.update k o).Edits s) : Edit s (s.put k (k.bump o))

theorem Operation.Edits.edit {s : Store} {op : Operation} (hop : op.Edits s) :
    s.Edit (op.perform s).2 := by
  cases op with
  | get k space name => exact .same
  | list k selector => exact .same
  | delete k space name => cases hop
  | create k o =>
    simp only [Operation.perform]
    cases hcreate : s.create k o with
    | error e => exact .same
    | ok r =>
      obtain ⟨new, hr, hs⟩ := create_ok hcreate
      rw [Operation.settle, hs, hr]
      exact .create (by rwa [k.key_withVersion])
  | update k o =>
    simp only [Operation.perform]
    cases hupdate : s.update k o with
    | error e => exact .same
    | ok r =>
      obtain ⟨current, hr, hs⟩ := update_ok hupdate
      rw [Operation.settle, hs, hr]
      exact .update current hop

variable {s s' : Store} {k k' : Kind} {o : k.Object} {o' : k'.Object}

theorem Follows.of_stored (h : (s.table k).get? (k.key o) = some o) : s.Follows k o :=
  ⟨o, h, .inl rfl⟩

/-- A write that is based on the stored version writes over what was read. -/
theorem Follows.eq_of_current (h : s.Follows k o) (current : s.Current k o) :
    (s.table k).get? (k.key o) = some o := by
  obtain ⟨stored, hstored, rfl | hlt⟩ := h
  · exact hstored
  · obtain ⟨stored', hstored', hversion⟩ := current
    obtain rfl := Option.some.inj (hstored.symm.trans hstored')
    omega

theorem Follows.put_of_none (h : s.Follows k o) (new : (s.table k').get? (k'.key o') = none) :
    (s.put k' o').Follows k o := by
  obtain ⟨stored, hstored, hsince⟩ := h
  refine ⟨stored, ?_, hsince⟩
  by_cases hk : k = k'
  · subst hk
    rw [get?_table_put, if_neg, hstored]
    intro hkey
    rw [hkey, new] at hstored
    cases hstored
  · rw [table_put_of_ne s o' hk, hstored]

theorem Follows.put (h : s.Follows k o) (current : s.Current k' o') :
    (s.put k' (k'.bump o')).Follows k o := by
  obtain ⟨stored, hstored, hsince⟩ := h
  by_cases hk : k = k'
  · subst hk
    by_cases hkey : k.key o = k.key o'
    · refine ⟨k.bump o', by rw [get?_table_put, if_pos (hkey.trans (k.key_bump o').symm)], .inr ?_⟩
      obtain ⟨stored', hstored', hversion⟩ := current
      rw [← hkey, hstored] at hstored'
      obtain rfl := Option.some.inj hstored'
      rw [Kind.version_bump]
      obtain rfl | hlt := hsince <;> omega
    · refine ⟨stored, ?_, hsince⟩
      rw [get?_table_put, if_neg (fun h => hkey (h.trans (k.key_bump o'))), hstored]
  · exact ⟨stored, by rw [table_put_of_ne s _ hk, hstored], hsince⟩

theorem Follows.edit (h : s.Follows k o) (step : s.Edit s') : s'.Follows k o := by
  cases step with
  | same => exact h
  | create new => exact h.put_of_none new
  | update current edits => exact h.put current

theorem Carries.put_of_ne {key : String} {mark : Option String} (h : s.Carries key mark)
    (o' : k'.Object) (hne : k' = .machine → key ≠ k'.key o') : (s.put k' o').Carries key mark := by
  obtain ⟨m, hm, hmark⟩ := h
  refine ⟨m, ?_, hmark⟩
  by_cases hk : Kind.machine = k'
  · subst hk
    exact (get?_table_put s .machine o' key).trans (by rw [if_neg (hne rfl)]; exact hm)
  · exact (congrArg (·.get? key) (table_put_of_ne s o' hk)).trans hm

theorem carries_put (s : Store) (m : Machine) : (s.put .machine m).Carries m.header.key m.mark? :=
  ⟨m, NameMap.get?_insert_self .., rfl⟩

theorem Carries.eq {key : String} {mark mark' : Option String} (h : s.Carries key mark)
    (h' : s.Carries key mark') : mark = mark' := by
  obtain ⟨m, hm, rfl⟩ := h
  obtain ⟨m', hm', rfl⟩ := h'
  rw [Option.some.inj (hm.symm.trans hm')]

theorem Carries.edit {key : String} {mark : Option String} (h : s.Carries key mark)
    (step : s.Edit s') : s'.Carries key mark := by
  cases step with
  | same => exact h
  | create new =>
    refine h.put_of_ne _ ?_
    rintro rfl hkey
    obtain ⟨m, hm, _⟩ := h
    rw [hkey] at hm
    cases new.symm.trans hm
  | @update k' o' current edits =>
    by_cases hsame : k' = .machine ∧ key = k'.key o'
    · obtain ⟨rfl, rfl⟩ := hsame
      obtain ⟨m, hm, rfl⟩ := h
      have hmark : Machine.mark? o' = m.mark? := edits m hm
      rw [← hmark]
      exact carries_put s (Kind.machine.bump o')
    · refine h.put_of_ne _ fun hk hkey => hsame ⟨hk, ?_⟩
      rw [hkey, Kind.key_bump]

end Store

/-- A client operates on the store, but removes nothing and leaves the marks of machines alone. -/
inductive Scene.Edited : Scene → Scene → Prop where
  | mk {w : Scene} (client : Caller) (op : Store.Operation) (edits : op.Edits w.store) :
    Edited w (w.operate client op)

/-- A machine gets another mark, or loses its mark. -/
structure Event.Remarks (e : Event) (key : String) (was now : Option String) : Prop where
  before : e.before.Carries key was
  after : e.after.Carries key now

/-- The release has lowered the replica count of a group by one, and nothing else of that group. The
machine of the claim, which belongs to the group, was marked by then. -/
structure Lowered (claim : Claim) (me : Caller) (w : Scene) (m : Machine) (owner : String)
    (g : MachineGroup) (n : Nat) (e : Event) : Prop where
  resolved : w.Met fun s => claim.machine? s = some m
  staying : m.isDeleting = false
  owned : m.owner? = some owner
  write : w.writes me .group = [e]
  group : e.before.groups.get? (objectKey m.header.space owner) = some g
  count : g.replicas = some (n + 1)
  after : e.after = e.before.put .group (Kind.group.bump (g.scaled n))
  behind : ∃ mark, e.before.Carries m.header.key (some mark)

/-- The release has written no group, and every machine has the mark that it had at first. If the
release has written a machine, it has marked the one of the claim and taken the mark off again. -/
structure Cancelled (claim : Claim) (s : Store) (me : Caller) (w : Scene) : Prop where
  groups : w.writes me .group = []
  marks : ∀ key mark, s.Carries key mark → w.store.Carries key mark
  machines : w.writes me .machine = [] ∨ ∃ m mark off on,
    w.Met (fun s => claim.machine? s = some m) ∧ w.writes me .machine = [off, on] ∧
      on.Remarks m.header.key none (some mark) ∧ off.Remarks m.header.key (some mark) none

/-- The release has written no group, and the machine of the claim has the mark that it got. -/
structure Stuck (claim : Claim) (s : Store) (me : Caller) (w : Scene) (m : Machine) (mark : String)
    (on : Event) : Prop where
  resolved : w.Met fun s => claim.machine? s = some m
  groups : w.writes me .group = []
  machines : w.writes me .machine = [on]
  remarks : on.Remarks m.header.key none (some mark)
  marked : w.store.Carries m.header.key (some mark)
  others : ∀ key mark, key ≠ m.header.key → s.Carries key mark → w.store.Carries key mark

/-- What a release leaves, by how it has ended. -/
inductive Released (claim : Claim) (s : Store) (me : Caller) (w : Scene) :
    Except Failure Unit → Prop
  | going {m : Machine} (resolved : w.Met fun s => claim.machine? s = some m)
    (going : m.isDeleting = true) (nothing : w.Passive me) : Released claim s me w (.ok ())
  | lowered {m : Machine} {owner : String} {g : MachineGroup} {n : Nat} {e : Event}
    (h : Lowered claim me w m owner g n e) : Released claim s me w (.ok ())
  | cancelled {e : Failure} (plain : e.plain = true) (h : Cancelled claim s me w) :
    Released claim s me w (.error e)
  | stuck {e cleanup : Failure} {m : Machine} {mark : String} {on : Event}
    (h : Stuck claim s me w m mark on) :
    Released claim s me w (.error (.compensationFailed e cleanup))

namespace Releasing

/-- A caller works beside clients that remove nothing and leave marks alone. -/
def terms (me : Caller) : Terms := .beside Scene.Edited me

/-- What a caller has done, and what it has read. -/
structure Base (s : Store) (me : Caller) (w : Scene) : Prop where
  keyed : w.store.Keyed
  nothing : w.Passive me
  marks : ∀ key mark, s.Carries key mark → w.store.Carries key mark

/-- The machine of the claim as it was read, and no other mark on what is stored of it. -/
structure Found (claim : Claim) (m : Machine) (w : Scene) : Prop where
  resolved : w.Met fun s => claim.machine? s = some m
  follows : w.store.Follows .machine m
  carries : w.store.Carries m.header.key m.mark?

/-- The group of the machine of the claim as it was read. -/
structure Owned (claim : Claim) (m : Machine) (owner : String) (g : MachineGroup) (w : Scene) :
    Prop where
  resolved : w.Met fun s => claim.machine? s = some m
  staying : m.isDeleting = false
  owned : m.owner? = some owner
  place : g.header.key = objectKey m.header.space owner
  follows : w.store.Follows .group g

/-- The release has marked the machine of the claim. -/
structure Marked (s : Store) (me : Caller) (key mark : String) (m : Machine) (on : Event)
    (w : Scene) : Prop where
  keyed : w.store.Keyed
  groups : w.writes me .group = []
  machines : w.writes me .machine = [on]
  remarks : on.Remarks key none (some mark)
  place : m.header.key = key
  follows : w.store.Follows .machine m
  carries : w.store.Carries key (some mark)
  unmarked : ∀ mark, s.Carries key mark → mark = none
  others : ∀ key' mark, key' ≠ key → s.Carries key' mark → w.store.Carries key' mark

variable {s : Store} {me : Caller} {claim : Claim}

theorem lasting_met (P : Store → Prop) : (terms me).Lasting (·.Met P) := by
  refine .of_passes fun w w' hw h => ?_
  obtain ⟨client, op, _⟩ | ⟨c, x, _, rfl⟩ := hw
  · exact h.record _ _
  · exact h.record _ _

theorem lasting_store {P : Store → Prop} (edits : ∀ s s', P s → s.Edit s' → P s') :
    (terms me).Lasting fun w => P w.store where
  stable w w' h hw := by
    obtain ⟨client, op, hop⟩ := hw
    exact edits _ _ h hop.edit
  quiet _ _ _ _ h := h

theorem lasting_keyed : (terms me).Lasting (·.store.Keyed) where
  stable w w' h hw := by
    obtain ⟨client, op, _⟩ := hw
    exact h.perform op
  quiet _ _ _ _ h := h

theorem lasting_follows {k : Kind} (o : k.Object) : (terms me).Lasting (·.store.Follows k o) :=
  lasting_store (P := (·.Follows k o)) fun _ _ h step => h.edit step

theorem lasting_carries (key : String) (mark : Option String) :
    (terms me).Lasting (·.store.Carries key mark) :=
  lasting_store (P := (·.Carries key mark)) fun _ _ h step => h.edit step

theorem personal : (terms me).Personal := fun w _ step => by
  obtain ⟨client, op, _⟩ := step
  exact w.doings_operate client op

theorem lasting_writes (k : Kind) (l : List Event) :
    (terms me).Lasting fun w => w.writes me k = l := personal.lasting_writes k l

theorem lasting_nothing : (terms me).Lasting (·.Passive me) := personal.lasting_passive

theorem lasting_base : (terms me).Lasting (Base s me) :=
  .of_passes fun _ _ hw h => ⟨lasting_keyed.passes hw h.keyed, lasting_nothing.passes hw h.nothing,
    fun key mark hs => (lasting_carries key mark).passes hw (h.marks key mark hs)⟩

theorem lasting_found (m : Machine) : (terms me).Lasting (Found claim m) :=
  .of_passes fun _ _ hw h => ⟨(lasting_met _).passes hw h.resolved,
    (lasting_follows (k := .machine) m).passes hw h.follows,
    (lasting_carries ..).passes hw h.carries⟩

theorem lasting_owned (m : Machine) (owner : String) (g : MachineGroup) :
    (terms me).Lasting (Owned claim m owner g) :=
  .of_passes fun _ _ hw h => ⟨(lasting_met _).passes hw h.resolved, h.staying, h.owned, h.place,
    (lasting_follows (k := .group) g).passes hw h.follows⟩

theorem lasting_marked (key mark : String) (m : Machine) (on : Event) :
    (terms me).Lasting (Marked s me key mark m on) :=
  .of_passes fun _ _ hw h => {
    keyed := lasting_keyed.passes hw h.keyed
    groups := (lasting_writes ..).passes hw h.groups
    machines := (lasting_writes ..).passes hw h.machines
    remarks := h.remarks
    place := h.place
    follows := (lasting_follows (k := .machine) m).passes hw h.follows
    carries := (lasting_carries ..).passes hw h.carries
    unmarked := h.unmarked
    others := fun key' mark' hne hs => (lasting_carries ..).passes hw (h.others key' mark' hne hs) }

theorem lasting_released (x : Except Failure Unit) :
    (terms me).Lasting fun w => Released claim s me w x := by
  refine .of_passes fun w w' hw h => ?_
  cases h with
  | going resolved going nothing =>
    exact .going ((lasting_met _).passes hw resolved) going (lasting_nothing.passes hw nothing)
  | lowered h =>
    exact .lowered { h with
      resolved := (lasting_met _).passes hw h.resolved
      write := (lasting_writes ..).passes hw h.write }
  | cancelled plain h =>
    refine .cancelled plain ⟨(lasting_writes ..).passes hw h.groups,
      fun key mark hs => (lasting_carries key mark).passes hw (h.marks key mark hs), ?_⟩
    obtain hnone | ⟨m, mark, off, on, resolved, both, hon, hoff⟩ := h.machines
    · exact .inl ((lasting_writes ..).passes hw hnone)
    · exact .inr ⟨m, mark, off, on, (lasting_met _).passes hw resolved,
        (lasting_writes ..).passes hw both, hon, hoff⟩
  | stuck h =>
    exact .stuck { h with
      resolved := (lasting_met _).passes hw h.resolved
      groups := (lasting_writes ..).passes hw h.groups
      machines := (lasting_writes ..).passes hw h.machines
      marked := (lasting_carries ..).passes hw h.marked
      others := fun key mark hne hs => (lasting_carries ..).passes hw (h.others key mark hne hs) }

theorem released_with_holders {x : Except Failure Unit} {w : Scene} (h : Released claim s me w x)
    (holders : List Caller) : Released claim s me { w with holders } x := by
  cases h with
  | going resolved going nothing => exact .going resolved going nothing
  | lowered h => exact .lowered { h with }
  | cancelled plain h => exact .cancelled plain { h with }
  | stuck h => exact .stuck { h with }

/-! ### From point to point -/

variable {w : Scene} {m : Machine} {g : MachineGroup} {owner : String}

theorem Base.cancelled (h : Base s me w) : Cancelled claim s me w :=
  ⟨h.nothing.writes .group, h.marks, .inl (h.nothing.writes .machine)⟩

theorem Found.of_stored (h : claim.machine? w.store = some m)
    (hm : w.store.machines.get? m.header.key = some m) : Found claim m w where
  resolved := .inl h
  follows := Store.Follows.of_stored (k := .machine) hm
  carries := ⟨m, hm, rfl⟩

/-- The write that marks the machine of the claim. -/
theorem marked_of_mark (base : Base s me w) (now : Int) (hm : m.isMarked = false)
    (current : w.store.Current .machine m) (follows : w.store.Follows .machine m) :
    Marked s me m.header.key (Text.decimal now)
      (Kind.machine.bump (m.marked (Text.decimal now)))
      (Event.ofMachine w.store me (m.marked (Text.decimal now)))
      (w.writeMachine me (m.marked (Text.decimal now))) := by
  have hstored : w.store.machines.get? m.header.key = some m := follows.eq_of_current current
  have hnone : m.mark? = none := Machine.mark?_eq_none hm
  have hput := Store.carries_put w.store (Kind.machine.bump (m.marked (Text.decimal now)))
  rw [Machine.mark?_bump, Machine.mark?_marked] at hput
  exact {
    keyed := Scene.keyed_writeMachine base.keyed
    groups := Scene.writes_writeMachine_of_ne (by decide) (base.nothing.writes .group)
    machines := Scene.writes_writeMachine current (base.nothing.writes .machine)
    remarks := ⟨⟨m, hstored, hnone⟩, hput⟩
    place := rfl
    follows := Store.Follows.of_stored (k := .machine) (NameMap.get?_insert_self ..)
    carries := hput
    unmarked := fun mark hs => (base.marks _ _ hs).eq ⟨m, hstored, hnone⟩
    others := fun key mark hne hs => (base.marks key mark hs).put_of_ne _ fun _ => hne }

/-- The write that takes the mark off again. -/
theorem cancelled_of_unmark {key mark : String} {on : Event}
    (resolved : w.Met fun s => claim.machine? s = some m) (place : m.header.key = key)
    {m' : Machine} (h : Marked s me key mark m' on w) (current : w.store.Current .machine m') :
    Cancelled claim s me (w.writeMachine me m'.unmarked) := by
  have hput := Store.carries_put w.store (Kind.machine.bump m'.unmarked)
  rw [Machine.mark?_bump, Machine.mark?_unmarked] at hput
  have hkey : (Kind.machine.bump m'.unmarked).header.key = key := h.place
  rw [hkey] at hput
  refine ⟨Scene.writes_writeMachine_of_ne (by decide) h.groups,
    fun key' mark' hs => ?_, .inr ⟨m, mark, .ofMachine w.store me m'.unmarked, on,
      resolved.record _ _, ?_, ?_, ?_⟩⟩
  · by_cases hne : key' = key
    · subst hne
      rw [h.unmarked mark' hs]
      exact hput
    · exact (h.others key' mark' hne hs).put_of_ne _ fun _ heq => hne (heq.trans hkey)
  · exact Scene.writes_writeMachine current h.machines
  · rw [place]
    exact h.remarks
  · rw [place]
    exact ⟨h.carries, hput⟩

/-- The write that lowers the replica count. -/
theorem lowered_of_write {n : Nat} (owned : Owned claim m owner g w)
    (count : g.replicas = some (n + 1)) (groups : w.writes me .group = [])
    (behind : ∃ mark, w.store.Carries m.header.key (some mark))
    (current : w.store.Current .group g) :
    Lowered claim me (w.writeGroup me (g.scaled n)) m owner g n
      (.ofGroup w.store me (g.scaled n)) where
  resolved := owned.resolved.record _ _
  staying := owned.staying
  owned := owned.owned
  write := Scene.writes_writeGroup current groups
  group := by
    have hstored : w.store.groups.get? g.header.key = some g :=
      owned.follows.eq_of_current current
    exact owned.place ▸ hstored
  count := count
  after := rfl
  behind := behind

/-- What is known of a machine and its group before the machine is marked. -/
def Known (s : Store) (me : Caller) (claim : Claim) (m : Machine) (g : MachineGroup) (w : Scene) :
    Prop := Base s me w ∧ Found claim m w ∧ ∃ owner, Owned claim m owner g w

/-- What is known once the machine carries a mark, by whether the release has set it. -/
def Behind (s : Store) (me : Caller) (claim : Claim) (m : Machine) (g : MachineGroup) :
    Bool → Scene → Prop
  | true, w => ∃ m₀ owner mark on, Owned claim m₀ owner g w ∧ Marked s me m₀.header.key mark m on w
  | false, w => Known s me claim m g w ∧ m.isMarked = true

theorem lasting_known (m : Machine) (g : MachineGroup) :
    (terms me).Lasting (Known s me claim m g) :=
  lasting_base.and ((lasting_found m).and (.ex fun owner => lasting_owned m owner g))

theorem lasting_behind (m : Machine) (g : MachineGroup) (fresh : Bool) :
    (terms me).Lasting (Behind s me claim m g fresh) := by
  cases fresh with
  | true => exact .ex fun m₀ => .ex fun owner => .ex fun mark => .ex fun on =>
      (lasting_owned m₀ owner g).and (lasting_marked m₀.header.key mark m on)
  | false => exact (lasting_known m g).and (.const _ _)

/-- A release by what it has read and marked. -/
def outline (s : Store) (me : Caller) (claim : Claim) : DeleteOutline (terms me) claim where
  idle := Base s me
  found m w := Base s me w ∧ Found claim m w
  owned := Known s me claim
  marked := Behind s me claim
  final x w := Released claim s me w x
  lasting_idle := lasting_base
  lasting_found m := lasting_base.and (lasting_found m)
  lasting_owned := lasting_known
  lasting_marked := lasting_behind
  lasting_final := lasting_released
  stop e w he h := .cancelled he h.cancelled
  find m w hid h hfind := by
    have hmem : m ∈ w.store.machines.values := List.mem_of_find?_eq_some hfind
    exact ⟨h, .of_stored (Claim.machine?_of_find hid hfind)
      ((h.keyed.mem_values_iff .machine m).1 hmem)⟩
  get b space name m w hid hb hparse h hm := by
    have hkey : m.header.key = objectKey space name := h.keyed .machine _ m hm
    exact ⟨h, .of_stored (Claim.machine?_of_get hid hb hparse hm) (hkey ▸ hm)⟩
  going m w h hgoing := .going h.2.resolved hgoing h.1.nothing
  lost m e w he h := .cancelled he h.1.cancelled
  own m name g w h hstaying hname hg := by
    have hkey : g.header.key = objectKey m.header.space name := h.1.keyed .group _ g hg
    rw [← hkey] at hg
    exact ⟨h.1, h.2, name, h.2.resolved, hstaying, hname, hkey,
      Store.Follows.of_stored (k := .group) hg⟩
  keep m g e w he h := .cancelled he h.1.cancelled
  already m g n w h hn hmarked := ⟨h, hmarked⟩
  mark m g n now w h hn hmarked current := by
    obtain ⟨base, found, owner, owned⟩ := h
    refine ⟨trivial, m, owner, Text.decimal now, _, ?_,
      marked_of_mark base now hmarked current found.follows⟩
    exact { owned with
      resolved := owned.resolved.record _ _
      follows := owned.follows.put current }
  lower m g n fresh w h hn current := by
    refine ⟨trivial, ?_⟩
    cases fresh with
    | true =>
      obtain ⟨m₀, owner, mark, on, owned, marked⟩ := h
      exact .lowered (lowered_of_write owned hn marked.groups ⟨mark, marked.carries⟩ current)
    | false =>
      obtain ⟨⟨base, found, owner, owned⟩, hmarked⟩ := h
      obtain ⟨mark, hmark⟩ : ∃ mark, m.mark? = some mark := Option.isSome_iff_exists.1 hmarked
      exact .lowered (lowered_of_write owned hn (base.nothing.writes .group)
        ⟨mark, hmark ▸ found.carries⟩ current)
  leave m g e w he h := .cancelled he h.1.1.cancelled
  unmark m g e w he h current := by
    obtain ⟨m₀, owner, mark, on, owned, marked⟩ := h
    exact ⟨trivial, .cancelled he (cancelled_of_unmark owned.resolved rfl marked current)⟩
  stuck m g e cleanup w h := by
    obtain ⟨m₀, owner, mark, on, owned, marked⟩ := h
    exact .stuck ⟨owned.resolved, marked.groups, marked.machines, marked.remarks, marked.carries,
      marked.others⟩

end Releasing

/-- However others write beside it and whatever calls fail, a release that succeeds has nothing to
do or has lowered one count by one behind a mark; one that fails has lowered nothing, and takes its
mark off again or reports that it could not. Alone, it fails just if the machine of the claim cannot
be released. -/
theorem delete_lowers_or_cancels {claim : Claim} {s : Store} (keyed : s.Keyed) :
    (∀ me x w, (Provider.delete claim).Ends me Scene.Edited (.start s) x w →
      Released claim s me w x) ∧
    ∀ now, (∃ e, ((Provider.delete claim).alone now s).1 = .error e) ↔ ¬ claim.Releasable s := by
  refine ⟨fun me x w run => ?_, Provider.alone_delete_fails keyed claim⟩
  let o := Releasing.outline s me claim
  have idle : o.idle (.start s) := ⟨keyed, fun e he => absurd he List.not_mem_nil, fun _ _ h => h⟩
  have ensures : (Provider.delete claim).Ensures (Releasing.terms me)
      (fun x w => Released claim s me w x) (.start s) :=
    o.ensures_delete o.lasting_idle idle o.stop
      (fun _ h _ => ⟨trivial, h.keyed, h.nothing, h.marks⟩) fun x w h =>
        ⟨trivial, Releasing.released_with_holders h _⟩
  exact ensures.of_ends run

theorem delete_lowers_or_cancels_worker :
    ∃ w, (Provider.delete (Claim.sample.bound "ns/worker-1")).Ends ⟨0, 0⟩ Scene.Edited
        (.start .sample) (.ok ()) w ∧
      Released (Claim.sample.bound "ns/worker-1") .sample ⟨0, 0⟩ w (.ok ()) ∧
      (w.store.groups.get? "ns/workers").bind (·.replicas) = some 0 ∧
      (Claim.sample.bound "ns/worker-1").Releasable .sample := by
  have run : (Provider.delete (Claim.sample.bound "ns/worker-1")).Ends ⟨0, 0⟩ Scene.Edited
      (.start .sample) (.ok ()) _ :=
    Program.ends_advance ⟨0, 0⟩ Scene.Edited 0 8 (Program.eq_of_hasReturned (by decide +kernel))
  refine ⟨_, run, (delete_lowers_or_cancels Store.keyed_sample).1 _ _ _ run, by decide +kernel, ?_⟩
  refine Classical.byContradiction fun hnot => ?_
  obtain ⟨e, he⟩ := ((delete_lowers_or_cancels Store.keyed_sample).2 0).2 hnot
  have succeeds : ((Provider.delete (Claim.sample.bound "ns/worker-1")).alone 0 .sample).1.isOk :=
    by decide +kernel
  rw [he] at succeeds
  cases succeeds

end MachineClaims
