import MachineClaims.Proofs.Doings
import MachineClaims.Proofs.Scaling

/-!
# What a rollback leaves to the fleet manager

While a creation waits, a fleet manager may add machines up to the raised replica count. A rollback
marks the machine that the creation has taken, so that this is the one to go when the count drops.
If the creation has taken none, the rollback marks none, and a machine that has come too late to be
taken is one too many (`rollback_leaves_surplus_iff`).
-/

namespace MachineClaims

namespace NameMap

variable {α : Type} (p : α → Bool)

private theorem countP_insertEntry (key : String) (value : α) {l : List (String × α)}
    (increasing : l.Pairwise (fun a b => a.1 < b.1)) :
    ((insertEntry key value l).map (·.2)).countP p +
        (lookup key l).elim 0 (fun old => (p old).toNat) =
      (l.map (·.2)).countP p + (p value).toNat := by
  induction l with
  | nil => cases h : p value <;> simp [insertEntry, lookup, h]
  | cons e rest ih =>
    obtain ⟨k, v⟩ := e
    obtain ⟨hfirst, hrest⟩ := List.pairwise_cons.1 increasing
    simp only [insertEntry]
    split
    · rename_i hlt
      have hnone : lookup key ((k, v) :: rest) = none := by
        refine lookup_eq_none_of_forall_ne fun e he heq => ?_
        obtain rfl | he := List.mem_cons.1 he
        · exact String.lt_irrefl _ (heq ▸ hlt)
        · exact String.lt_irrefl _ (heq ▸ String.lt_trans hlt (hfirst e he))
      rw [hnone]
      cases h : p value <;> simp [List.countP_cons, h]
    · split
      · rename_i hkey
        subst hkey
        cases h : p value <;> cases h' : p v <;> simp [lookup, h, h']
      · rename_i hne
        have := ih hrest
        simp only [lookup, if_neg hne, List.map_cons, List.countP_cons]
        omega

/-- Writing over a value counts the new one instead of the old one. -/
theorem countP_values_insert (m : NameMap α) (key : String) (value : α) :
    (m.insert key value).values.countP p + (m.get? key).elim 0 (fun old => (p old).toNat) =
      m.values.countP p + (p value).toNat :=
  countP_insertEntry p key value m.increasing

end NameMap

/-- Whether a machine belongs to a group of a name space. -/
def Machine.belongs (m : Machine) (space group : String) : Bool :=
  m.owner? == some group && m.header.space == space

namespace Store

/-- The number of machines of a group. -/
def live (s : Store) (space group : String) : Nat :=
  s.machines.values.countP (·.belongs space group)

/-- The number of machines of a group that carry the mark. -/
def condemned (s : Store) (space group : String) : Nat :=
  s.machines.values.countP fun m => m.belongs space group && m.isMarked

end Store

/-- A machine arrives that nobody has taken; if it belongs to the group, there is room for it. -/
inductive Scene.Fills (space group : String) : Scene → Scene → Prop where
  | mk {w : Scene} {m m' : Machine} {s : Store} (unlabelled : m.isMember = false)
    (room : m.belongs space group = true → ∃ n,
      w.store.replicas (objectKey space group) = some n ∧ w.store.live space group < n)
    (created : w.store.create .machine m = .ok (m', s)) : Fills space group w (w.record .foreign s)

namespace Surplus

variable {s : Store} {space group : String} {m stored : Machine}

/-- Writing over a machine of the group with another one. -/
theorem live_put (hstored : s.machines.get? m.header.key = some stored)
    (hm : m.belongs space group = stored.belongs space group) :
    (s.put .machine m).live space group = s.live space group := by
  have hcount := s.machines.countP_values_insert (·.belongs space group) m.header.key m
  rw [hstored, hm] at hcount
  exact Nat.add_right_cancel hcount

theorem live_put_new (new : s.machines.get? m.header.key = none) :
    (s.put .machine m).live space group = s.live space group + (m.belongs space group).toNat := by
  have hcount := s.machines.countP_values_insert (·.belongs space group) m.header.key m
  rw [new] at hcount
  exact hcount

theorem condemned_pos {key : String} (h : s.machines.get? key = some m)
    (belongs : m.belongs space group = true) (marked : m.isMarked = true) :
    0 < s.condemned space group :=
  List.countP_pos_iff.2 ⟨m, NameMap.mem_values_iff.2 ⟨key, h⟩, by simp [belongs, marked]⟩

theorem condemned_put_new (new : s.machines.get? m.header.key = none) :
    s.condemned space group ≤ (s.put .machine m).condemned space group := by
  have hcount := s.machines.countP_values_insert
    (fun m => m.belongs space group && m.isMarked) m.header.key m
  rw [new] at hcount
  exact Nat.le.intro hcount.symm

/-- A caller works beside a fleet manager that fills up a group. -/
def terms (space group : String) (me : Caller) : Terms := .beside (Scene.Fills space group) me

/-- The replica count of the group, and how many machines it has at most. -/
structure Counted (space group : String) (replicas most : Nat) (w : Scene) : Prop where
  keyed : w.store.Keyed
  replicas : w.store.replicas (objectKey space group) = some replicas
  live : w.store.live space group ≤ most

/-- A machine of the group is stored under the key. -/
def Stands (space group key : String) (w : Scene) : Prop :=
  ∃ m, w.store.machines.get? key = some m ∧ m.belongs space group = true

/-- The creation has written no machine, or the group has a machine with the mark. -/
def Covered (space group : String) (me : Caller) (w : Scene) : Prop :=
  w.writes me .machine = [] ∨ 0 < w.store.condemned space group

variable {me : Caller} {w w' : Scene}

theorem put_of_fills (h : w.Fills space group w') : ∃ m,
    w.store.machines.get? m.header.key = none ∧ w' = w.record .foreign (w.store.put .machine m) ∧
      (m.belongs space group = true → ∃ n,
        w.store.replicas (objectKey space group) = some n ∧ w.store.live space group < n) := by
  obtain @⟨m, m', s, _, room, created⟩ := h
  obtain ⟨new, rfl, rfl⟩ := Store.create_ok created
  exact ⟨Kind.machine.withVersion m 1, new, rfl, room⟩

theorem get?_of_fills (h : w.Fills space group w') {key : String}
    (hm : w.store.machines.get? key = some m) : w'.store.machines.get? key = some m := by
  obtain ⟨m', new, rfl, _⟩ := put_of_fills h
  rw [Scene.store_record, Store.machines_put_machine, NameMap.get?_insert_of_ne]
  · exact hm
  · rintro rfl
    cases new.symm.trans hm

theorem lasting_counted {replicas most : Nat} (h : replicas ≤ most) :
    (terms space group me).Lasting (Counted space group replicas most) where
  stable w w' hw step := by
    obtain ⟨m, new, rfl, room⟩ := put_of_fills step
    refine ⟨hw.keyed.put .machine m, hw.replicas, ?_⟩
    rw [Scene.store_record, live_put_new new]
    have hlive := hw.live
    cases hm : m.belongs space group with
    | false => exact hlive
    | true =>
      obtain ⟨n, hn, hlt⟩ := room hm
      obtain rfl := Option.some.inj (hw.replicas.symm.trans hn)
      rw [Bool.toNat_true]
      omega
  quiet _ _ _ _ hw := ⟨hw.keyed, hw.replicas, hw.live⟩

theorem lasting_stored (key : String) (m : Machine) : (terms space group me).Lasting
    fun w => w.store.machines.get? key = some m where
  stable _ _ h step := get?_of_fills step h
  quiet _ _ _ _ h := h

theorem lasting_stands (key : String) :
    (terms space group me).Lasting (Stands space group key) :=
  .ex fun m => (lasting_stored key m).and (.const _ _)

theorem personal : (terms space group me).Personal := fun _ _ step => by
  obtain ⟨m, _, rfl, _⟩ := put_of_fills step
  exact Scene.doings_record_of_ne nofun

theorem lasting_writes (k : Kind) (l : List Event) :
    (terms space group me).Lasting fun w => w.writes me k = l := personal.lasting_writes k l

theorem lasting_covered : (terms space group me).Lasting (Covered space group me) := by
  refine .of_passes fun w w' hw h => ?_
  obtain h | h := h
  · exact .inl ((lasting_writes ..).passes hw h)
  · right
    obtain step | ⟨c, x, _, rfl⟩ := hw
    · obtain ⟨m, new, rfl, _⟩ := put_of_fills step
      exact Nat.lt_of_lt_of_le h (condemned_put_new new)
    · exact h

theorem lasting_groups (P : NameMap MachineGroup → Prop) :
    (terms space group me).Lasting fun w => P w.store.groups where
  stable w w' h step := by
    obtain ⟨m, _, rfl, _⟩ := put_of_fills step
    exact h
  quiet _ _ _ _ h := h

theorem lasting_classes (classes : NameMap CapacityClass) :
    (terms space group me).Lasting fun w => w.store.classes = classes where
  stable w w' h step := by
    obtain ⟨m, _, rfl, _⟩ := put_of_fills step
    exact h
  quiet _ _ _ _ h := h

/-- Writing a machine of the group over the stored one. -/
theorem Counted.writeMachine {replicas most : Nat} (h : Counted space group replicas most w)
    (hstored : w.store.machines.get? m.header.key = some stored)
    (hm : m.belongs space group = stored.belongs space group) :
    Counted space group replicas most (w.writeMachine me m) where
  keyed := Scene.keyed_writeMachine h.keyed
  replicas := h.replicas
  live := Nat.le_trans (Nat.le_of_eq (live_put (m := Kind.machine.bump m) hstored hm)) h.live

theorem Counted.writeGroup {replicas replicas' most most' : Nat} {g : MachineGroup}
    (h : Counted space group replicas most w) (hg : g.header.key = objectKey space group)
    (hmost : most ≤ most') :
    Counted space group replicas' most' (w.writeGroup me (g.scaled replicas')) where
  keyed := Scene.keyed_writeGroup h.keyed
  replicas := (Store.replicas_put_group ..).trans (if_pos hg.symm)
  live := Nat.le_trans h.live hmost

/-- The reservation is one of the group. -/
structure Reserves (space group : String) (b : Nat) (r : Reservation) : Prop where
  space : r.space = space
  group : r.group = group
  baseline : r.baseline = b

theorem Reserves.belongs_of_free {b : Nat} {r : Reservation} (h : Reserves space group b r)
    (free : r.Free m) : m.belongs space group = true := by
  simp [Machine.belongs, free.owner, free.space, h.space, h.group]

/-- What a creation leaves of the group. -/
def Final (space group : String) (b : Nat) (me : Caller) (w : Scene) :
    Except Failure Claim → Prop
  | .ok _ => True
  | .error e => e.plain → Counted space group b (b + 1) w ∧ Covered space group me w

theorem lasting_final {b : Nat} (x : Except Failure Claim) :
    (terms space group me).Lasting fun w => Final space group b me w x := by
  cases x with
  | ok _ => exact .const _ _
  | error e => exact .all fun _ => (lasting_counted (Nat.le_succ b)).and lasting_covered

/-- A creation by what it leaves of its group. -/
def outline (space group : String) (b : Nat) (me : Caller) (p : Provider) (claim : Claim)
    (s : Store) (hchosen : ∀ τ, p.chosen? claim s s = some τ →
      τ.groupSpace = space ∧ τ.groupName = group) :
    CreateOutline (terms space group me) p claim where
  chosen τ := τ.groupSpace = space ∧ τ.groupName = group
  idle w := Counted space group b b w ∧ w.writes me .machine = [] ∧
    w.store.groups = s.groups ∧ w.store.classes = s.classes
  knowsGroup key g w := g.header.key = key ∧ w.store.groups.get? key = some g
  knows key m w := m.header.key = key ∧ w.store.machines.get? key = some m
  reserved r w := Reserves space group b r ∧ Counted space group (b + 1) (b + 1) w ∧
    w.writes me .machine = []
  labelled r w := Reserves space group b r ∧ Counted space group (b + 1) (b + 1) w ∧
    ∃ m, r.machine = some m ∧ Stands space group m.header.key w
  undoing r w := Reserves space group b r ∧ Counted space group (b + 1) (b + 1) w ∧
    (r.machine = none → w.writes me .machine = []) ∧
    ∀ m ∈ r.machine, Stands space group m.header.key w
  released r w := Reserves space group b r ∧ Counted space group (b + 1) (b + 1) w ∧
    Covered space group me w
  final x w := Final space group b me w x
  lasting_idle := (lasting_counted (Nat.le_refl _)).and ((lasting_writes ..).and
    ((lasting_groups (· = _)).and (lasting_classes _)))
  lasting_knowsGroup key g := (Terms.Lasting.const _ _).and (lasting_groups (·.get? key = some g))
  lasting_knows key m := (Terms.Lasting.const _ _).and (lasting_stored key m)
  lasting_reserved r := (Terms.Lasting.const _ _).and
    ((lasting_counted (Nat.le_refl _)).and (lasting_writes ..))
  lasting_labelled r := (Terms.Lasting.const _ _).and
    ((lasting_counted (Nat.le_refl _)).and (.ex fun m =>
      (Terms.Lasting.const _ _).and (lasting_stands _)))
  lasting_undoing r := (Terms.Lasting.const _ _).and ((lasting_counted (Nat.le_refl _)).and
    ((Terms.Lasting.all fun _ => lasting_writes ..).and (.all fun m => .all fun _ =>
      lasting_stands _)))
  lasting_released r := (Terms.Lasting.const _ _).and
    ((lasting_counted (Nat.le_refl _)).and lasting_covered)
  lasting_final := lasting_final
  choose τ w₁ w₂ h₁ h₂ hτ := by
    rw [p.chosen?_congr claim h₁.2.2.2 h₂.2.2.1] at hτ
    exact hchosen τ hτ
  stop e w _ h := fun _ =>
    ⟨⟨h.1.keyed, h.1.replicas, Nat.le_trans h.1.live (Nat.le_succ b)⟩, .inl h.2.1⟩
  readGroup key g w h hg := ⟨h.1.keyed .group key g hg, hg⟩
  raise τ g b' w hτ h hg hb _ _ := by
    obtain ⟨rfl, rfl⟩ := hτ
    have hreplicas := h.1.replicas
    rw [Store.replicas, hg.2, Option.bind_some, hb, Option.some.injEq] at hreplicas
    subst hreplicas
    refine ⟨trivial, ⟨rfl, rfl, rfl⟩, h.1.writeGroup hg.1 (Nat.le_succ _), ?_⟩
    exact Scene.writes_writeGroup_of_ne (by decide) h.2.1
  list r m w h _ hm := ⟨rfl, (h.2.1.keyed.mem_values_iff .machine m).1 hm⟩
  label r m w h hfree hm _ := by
    have hbelongs := h.1.belongs_of_free hfree
    have hjoined : m.joined.belongs space group = m.belongs space group := by
      rw [Machine.belongs, Machine.owner?_joined]
      rfl
    exact ⟨trivial, { h.1 with }, h.2.1.writeMachine hm.2 hjoined, _, rfl,
      Kind.machine.bump m.joined, NameMap.get?_insert_self .., hjoined.trans hbelongs⟩
  -- the machine is remembered although its label was refused, and the rollback marks it
  refuse r m _ _ w h hfree hm :=
    ⟨{ h.1 with }, { h.2.1 with }, nofun, fun _ hr =>
      Option.some.inj hr ▸ ⟨m, hm.2, h.1.belongs_of_free hfree⟩⟩
  bind r m τ w _ _ _ _ := by
    refine ⟨trivial, ?_⟩
    unfold Provider.populate
    split
    · exact nofun
    · trivial
  giveUp r w h hr := ⟨h.1, h.2.1, fun _ => h.2.2, by simp [hr]⟩
  abandon r w h := by
    obtain ⟨hr, hcounted, m, hm, hstands⟩ := h
    refine ⟨hr, hcounted, by simp [hm], ?_⟩
    simpa [hm] using hstands
  reread r m stored w h _ hm := ⟨h.2.1.keyed .machine _ stored hm, hm⟩
  empty r w h hr := ⟨h.1, h.2.1, .inl (h.2.2.1 hr)⟩
  gone r m w h hr hgone := by
    obtain ⟨stored, hstored, _⟩ := h.2.2.2 m hr
    rw [hgone] at hstored
    cases hstored
  clean r m stored w h hr hm _ hmarked := by
    obtain ⟨stored', hstored', hbelongs⟩ := h.2.2.2 m hr
    obtain rfl := Option.some.inj (hm.2.symm.trans hstored')
    exact ⟨h.1, h.2.1, .inr (condemned_pos hm.2 hbelongs hmarked)⟩
  release r m stored now w h hr hm _ _ := by
    obtain ⟨stored', hstored', hbelongs⟩ := h.2.2.2 m hr
    obtain rfl := Option.some.inj (hm.2.symm.trans hstored')
    have hreleased : (stored.released now).belongs space group = stored.belongs space group := by
      simp [Machine.belongs]
    have hstored : w.store.machines.get? (stored.released now).header.key = some stored := by
      rw [Machine.key_released, hm.1, hm.2]
    refine ⟨trivial, h.1, h.2.1.writeMachine hstored hreleased, .inr ?_⟩
    refine condemned_pos (m := Kind.machine.bump (stored.released now))
      (NameMap.get?_insert_self ..) (hreleased.trans hbelongs) ?_
    rw [Machine.isMarked_bump, Machine.isMarked_released]
  stuck r e cleanup w h := nofun
  rereadGroup r g w h hg := ⟨h.2.1.keyed .group _ g hg, hg⟩
  restore r e g w he h hg _ := by
    obtain ⟨hr, hcounted, hcovered⟩ := h
    have hkey : g.header.key = objectKey space group := by
      rw [hg.1, Reservation.key, hr.space, hr.group]
    refine ⟨trivial, fun _ => ⟨?_, ?_⟩⟩
    · rw [hr.baseline]
      exact hcounted.writeGroup hkey (Nat.le_refl _)
    · exact hcovered.imp_left (Scene.writes_writeGroup_of_ne (by decide))
  half r e cleanup w h := nofun

end Surplus

/-- A creation that fails and undoes itself leaves its group the replica count from before, and at
most one machine more than that. This one is not covered by a mark just if the creation has written
no machine at all, and no machine of the group has a mark. -/
theorem rollback_leaves_surplus_iff {p : Provider} {claim : Claim} {me : Caller} {s : Store}
    {w : Scene} {e : Failure} {τ : MachineType} {b : Nat} (keyed : s.Keyed)
    (unbound : claim.binding? = none) (chosen : p.chosen? claim s s = some τ)
    (count : s.replicas (objectKey τ.groupSpace τ.groupName) = some b)
    (enough : s.live τ.groupSpace τ.groupName ≤ b)
    (run : (p.create claim).Ends me (Scene.Fills τ.groupSpace τ.groupName) (.start s) (.error e) w)
    (undone : e.plain) :
    w.store.replicas (objectKey τ.groupSpace τ.groupName) = some b ∧
      w.store.live τ.groupSpace τ.groupName ≤ b + 1 ∧
      (b + w.store.condemned τ.groupSpace τ.groupName < w.store.live τ.groupSpace τ.groupName ↔
        w.store.live τ.groupSpace τ.groupName = b + 1 ∧
        w.store.condemned τ.groupSpace τ.groupName = 0 ∧ w.writes me .machine = []) := by
  have hchosen : ∀ τ', p.chosen? claim s s = some τ' →
      τ'.groupSpace = τ.groupSpace ∧ τ'.groupName = τ.groupName := by
    intro τ' hτ'
    obtain rfl := Option.some.inj (chosen.symm.trans hτ')
    exact ⟨rfl, rfl⟩
  let o := Surplus.outline τ.groupSpace τ.groupName b me p claim s hchosen
  have idle : o.idle (.start s) := ⟨⟨keyed, count, enough⟩, rfl, rfl, rfl⟩
  have ensures : (p.create claim).Ensures (Surplus.terms τ.groupSpace τ.groupName me)
      (fun x w => Surplus.Final τ.groupSpace τ.groupName b me w x) (.start s) := by
    refine o.ensures_create o.lasting_idle idle o.stop
      (fun w h _ => ⟨trivial, { h.1 with }, h.2⟩) (fun hb => absurd unbound hb) fun x w h => ?_
    refine ⟨trivial, ?_⟩
    cases x with
    | ok _ => trivial
    | error e => exact fun he => ⟨{ (h he).1 with }, (h he).2⟩
  obtain ⟨counted, covered⟩ := ensures.of_ends run undone
  have hlive := counted.live
  refine ⟨counted.replicas, hlive, fun hmore => ?_, fun ⟨hone, hnone, _⟩ => by omega⟩
  obtain hwrites | hmarked := covered
  · exact ⟨by omega, by omega, hwrites⟩
  · omega

/-- The small store with a machine that is taken. -/
def Store.occupied : Store :=
  Store.small.put .machine (Kind.machine.bump (Machine.new "ns" "worker-1" "workers").joined)

theorem Store.keyed_occupied : Store.occupied.Keyed := keyed_small.put .machine _

/-- While the creation waits a machine arrives, but the caller cancels before the next check. -/
private theorem cancelled_after_arrival :
    ∃ w τ, (Provider.sample.create .sample).Ends ⟨0, 0⟩ (Scene.Fills "ns" "workers")
        (.start .occupied) (.error (.cancelled (.awaitingMachine "ns/workers"))) w ∧
      Provider.sample.chosen? .sample .occupied .occupied = some τ ∧ τ.groupSpace = "ns" ∧
      τ.groupName = "workers" ∧ w.store.replicas "ns/workers" = some 1 ∧
      w.store.live "ns" "workers" = 2 ∧ w.store.condemned "ns" "workers" = 0 := by
  have run : (Provider.sample.create .sample).Ends ⟨0, 0⟩ (Scene.Fills "ns" "workers")
      (.start .occupied) (.error (.cancelled (.awaitingMachine "ns/workers"))) _ :=
    Program.ends_cut ⟨0, 0⟩ _ 0 11 20 (by decide +kernel)
      (.mk (m := .new "ns" "worker-2" "workers") rfl
        (fun _ => ⟨2, by decide +kernel, by decide +kernel⟩) (Store.create_of_new (by decide +kernel)))
      (Program.eq_of_hasFailed (by decide +kernel))
  exact ⟨_, _, run, rfl, by decide +kernel, by decide +kernel, by decide +kernel, by decide +kernel,
    by decide +kernel⟩

theorem rollback_leaves_surplus_iff_cancelled :
    ∃ w, (Provider.sample.create .sample).Ends ⟨0, 0⟩ (Scene.Fills "ns" "workers")
        (.start .occupied) (.error (.cancelled (.awaitingMachine "ns/workers"))) w ∧
      1 + w.store.condemned "ns" "workers" < w.store.live "ns" "workers" ∧
      w.writes ⟨0, 0⟩ .machine = [] := by
  obtain ⟨w, τ, run, chosen, hspace, hgroup, hcount, hlive, hcondemned⟩ := cancelled_after_arrival
  have hmore : 1 + w.store.condemned "ns" "workers" < w.store.live "ns" "workers" := by omega
  refine ⟨w, run, hmore, ?_⟩
  rw [← hspace, ← hgroup] at run hmore
  have count : Store.occupied.replicas (objectKey τ.groupSpace τ.groupName) = some 1 := by
    rw [hspace, hgroup]
    decide +kernel
  have enough : Store.occupied.live τ.groupSpace τ.groupName ≤ 1 := by
    rw [hspace, hgroup]
    decide +kernel
  exact ((rollback_leaves_surplus_iff Store.keyed_occupied rfl chosen count enough run rfl).2.2.1
    hmore).2.2

/-- The group had as many machines as it counts. Now it has one more, and none with a mark. -/
theorem rollback_leaves_unmarked_surplus :
    ∃ w τ b n, (Provider.sample.create .sample).Ends ⟨0, 0⟩ (Scene.Fills "ns" "workers")
        (.start .occupied) (.error (.cancelled (.awaitingMachine "ns/workers"))) w ∧
      Provider.sample.chosen? .sample .occupied .occupied = some τ ∧ τ.groupSpace = "ns" ∧
      τ.groupName = "workers" ∧ Store.occupied.replicas "ns/workers" = some b ∧
      Store.occupied.live "ns" "workers" ≤ b ∧ w.store.replicas "ns/workers" = some n ∧
      ¬ w.store.live "ns" "workers" - n ≤ w.store.condemned "ns" "workers" := by
  obtain ⟨w, τ, run, chosen, hspace, hgroup, hcount, hlive, hcondemned⟩ := cancelled_after_arrival
  exact ⟨w, τ, 1, 1, run, chosen, hspace, hgroup, by decide +kernel, by decide +kernel, hcount,
    by omega⟩

end MachineClaims
