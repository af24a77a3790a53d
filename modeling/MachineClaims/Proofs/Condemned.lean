import MachineClaims.Proofs.Bindings
import MachineClaims.Proofs.Shifts

/-!
# Claims on condemned machines

A machine with a mark is the first to go. A creation passes over machines that have a label, and
over those whose removal has begun, but it takes a machine with a mark if nobody holds it. So
a claim gets bound to a marked machine just if an earlier call has left it marked and without a
label, which a rollback does (`binding_condemned_iff`).
-/

namespace MachineClaims

/-- A fleet manager adds a machine that has no mark. -/
inductive Scene.Adds : Scene → Scene → Prop where
  | mk {w : Scene} {m m' : Machine} {s : Store} (unmarked : m.isMarked = false)
    (created : w.store.create .machine m = .ok (m', s)) : Adds w (w.record .foreign s)

/-- Whose write to the machine under a key was accepted, and what was written. -/
def Event.writing? (key : String) (e : Event) : Option (Caller × Machine) :=
  match e.deed with
  | .call c (.updateMachine m) (.ok _) => if m.header.key = key then some (c, m) else none
  | _ => none

/-- The accepted writes to the machine under a key, the last first. -/
def writings (events : List Event) (key : String) : List (Caller × Machine) :=
  events.filterMap (·.writing? key)

/-- The last of these writes was of another caller, who left the machine marked and without a
label. -/
def LeftCondemned (c : Caller) (l : List (Caller × Machine)) : Prop :=
  ∃ d m, l.head? = some (d, m) ∧ d ≠ c ∧ m.isMember = false ∧ m.isMarked = true

/-- If a claim gets bound, its machine has the label of the call and is not about to be removed. It
has a mark just if the call found it condemned. -/
def BindsSoundly (past : List Event) (e : Event) : Prop :=
  ∀ c claim answer, e.deed = .call c (.updateClaim claim) (.ok answer) →
    ∃ key m m' rest, claim.binding? = some key ∧ e.before.machines.get? key = some m ∧
      m.isMember = true ∧ m.isDeleting = false ∧ writings past key = (c, m') :: rest ∧
      (m.isMarked = true ↔ LeftCondemned c rest)

namespace Condemned

variable {w w' : Scene} {me : Caller} {key : String} {m : Machine}

theorem writing?_quiet {c : Call} {x : Except Failure c.Result} (h : c.Quiet x) (s s' : Store) :
    Event.writing? key ⟨s, .call me c x, s'⟩ = none := by
  obtain hreads | ⟨e, rfl⟩ := h
  · cases c <;> first | rfl | cases hreads
  · cases c <;> rfl

theorem bindsSoundly_quiet {c : Call} {x : Except Failure c.Result} (h : c.Quiet x) (s s' : Store)
    (past : List Event) : BindsSoundly past ⟨s, .call me c x, s'⟩ := by
  intro c' claim answer heq
  cases heq
  obtain hreads | ⟨e, he⟩ := h
  · cases hreads
  · cases he

/-- What is stored under a key was written last, and what no call has written has a mark only if it
is taken. -/
def Traced (w : Scene) (key : String) : Prop :=
  match writings w.events key with
  | [] => ∀ m, w.store.machines.get? key = some m → m.isMarked = true → m.isMember = true
  | (_, m) :: _ => w.store.machines.get? key = some (Kind.machine.bump m)

/-- A write that is not to this machine. -/
theorem Traced.record (h : Traced w key) {deed : Deed} {s : Store}
    (hdeed : Event.writing? key ⟨w.store, deed, s⟩ = none)
    (hs : s.machines.get? key = w.store.machines.get? key) : Traced (w.record deed s) key := by
  have hwritings : writings (w.record deed s).events key = writings w.events key := by
    rw [writings, Scene.events_record, List.filterMap_cons, hdeed]
    rfl
  unfold Traced at h ⊢
  rw [hwritings, Scene.store_record, hs]
  exact h

theorem writings_writeMachine (w : Scene) (me : Caller) (m : Machine) :
    writings (w.writeMachine me m).events m.header.key =
      (me, m) :: writings w.events m.header.key := by
  have hwriting : (Event.ofMachine w.store me m).writing? m.header.key = some (me, m) := by
    simp [Event.ofMachine, Event.writing?]
  exact List.filterMap_cons_some hwriting

theorem Traced.writeMachine (h : Traced w key) : Traced (w.writeMachine me m) key := by
  by_cases hkey : m.header.key = key
  · subst hkey
    unfold Traced
    rw [writings_writeMachine]
    exact NameMap.get?_insert_self ..
  · refine h.record ?_ ?_
    · simp [Event.writing?, hkey]
    · exact NameMap.get?_insert_of_ne _ _ fun heq => hkey heq.symm

theorem Traced.adds (h : Traced w key) (step : w.Adds w') : Traced w' key := by
  obtain @⟨m, m', s, unmarked, created⟩ := step
  obtain ⟨new, rfl, rfl⟩ := Store.create_ok created
  by_cases hkey : key = m.header.key
  · subst hkey
    unfold Traced at h ⊢
    have hwritings : writings (w.record .foreign (w.store.put .machine
        (Kind.machine.withVersion m 1))).events m.header.key = writings w.events m.header.key := rfl
    rw [hwritings]
    split at h
    · rename_i hnone
      intro m' hm' hmarked
      rw [Scene.store_record, Store.machines_put_machine] at hm'
      obtain rfl := Option.some.inj ((NameMap.get?_insert_self ..).symm.trans hm')
      exact absurd (unmarked.symm.trans hmarked) nofun
    · cases new.symm.trans h
  · exact h.record rfl (NameMap.get?_insert_of_ne _ _ hkey)

/-- What every scene keeps. -/
structure Kept (w : Scene) : Prop where
  keyed : w.store.Keyed
  traced : ∀ key, Traced w key
  sound : Along BindsSoundly w.events

theorem Kept.writeMachine (h : Kept w) : Kept (w.writeMachine me m) :=
  ⟨Scene.keyed_writeMachine h.keyed, fun key => (h.traced key).writeMachine, nofun, h.sound⟩

theorem Kept.writeGroup (h : Kept w) (g : MachineGroup) : Kept (w.writeGroup me g) :=
  ⟨Scene.keyed_writeGroup h.keyed, fun key => (h.traced key).record rfl rfl, nofun, h.sound⟩

theorem Kept.idles {c : Caller} (h : Kept w) (step : w.Idles c w') : Kept w' := by
  cases step with
  | turn holders => exact ⟨h.keyed, h.traced, h.sound⟩
  | quiet hx => exact ⟨h.keyed, fun key => (h.traced key).record (writing?_quiet hx _ _) rfl,
      bindsSoundly_quiet hx _ _ _, h.sound⟩

theorem Kept.adds (h : Kept w) (step : w.Adds w') : Kept w' := by
  refine ⟨?_, fun key => (h.traced key).adds step, ?_⟩
  · obtain ⟨_, created⟩ := step
    exact h.keyed.create created
  · obtain ⟨_, created⟩ := step
    exact ⟨nofun, h.sound⟩

/-- The callers of one provider, beside a fleet manager that adds machines without a mark. -/
def shift (home : Nat) : Shift where
  home := home
  inv := Kept
  world := Scene.Adds
  idles _ _ _ h step := h.idles step
  spares _ _ h step := h.adds step
  alien _ _ step := by
    obtain ⟨_, created⟩ := step
    exact ⟨_, _, rfl, nofun⟩

/-- A caller has written no machine. -/
def Fresh (me : Caller) (w : Scene) : Prop :=
  ∀ e ∈ w.doings me, ∀ key, e.writing? key = none

theorem Fresh.record (h : Fresh me w) {deed : Deed} {s : Store}
    (hdeed : ∀ key, Event.writing? key ⟨w.store, deed, s⟩ = none) : Fresh me (w.record deed s) := by
  intro e he key
  obtain rfl | he' := List.mem_cons.1 (List.mem_filter.1 he).1
  · exact hdeed key
  · exact h e (List.mem_filter.2 ⟨he', (List.mem_filter.1 he).2⟩) key

theorem Fresh.ne {d : Caller} (h : Fresh me w) (hd : (d, m) ∈ writings w.events key) : d ≠ me := by
  rintro rfl
  obtain ⟨e, he, hwriting⟩ := List.mem_filterMap.1 hd
  have hcaller : e.caller? = some d := by
    unfold Event.writing? at hwriting
    unfold Event.caller?
    split at hwriting
    · rename_i hdeed
      rw [hdeed]
      split at hwriting
      · cases hwriting
        rfl
      · cases hwriting
    · cases hwriting
  rw [h e (List.mem_filter.2 ⟨he, by simpa using hcaller⟩) key] at hwriting
  cases hwriting

variable {home : Nat}

theorem lasting_fresh : ((shift home).terms me).Lasting (Fresh me) :=
  Shift.personal.lasting_doings (P := fun doings => ∀ e ∈ doings, ∀ key, e.writing? key = none)
    fun l s c x hx hl e he key => by
      obtain rfl | he := List.mem_cons.1 he
      · exact writing?_quiet hx s s
      · exact hl e he key

/-- A machine that is stored stays as it is during a turn. -/
theorem lasting_stored (key : String) (m : Machine) : ((shift home).terms me).Lasting
    fun w => (shift home).Inside me w ∧ w.store.machines.get? key = some m := by
  refine Shift.lasting_inside (fun _ _ _ hidle hm => hidle.store_eq ▸ hm) fun w w' _ step hm => ?_
  obtain ⟨_, created⟩ := step
  obtain ⟨new, rfl, rfl⟩ := Store.create_ok created
  rw [Scene.store_record, Store.machines_put_machine, NameMap.get?_insert_of_ne]
  · exact hm
  · rintro rfl
    cases new.symm.trans hm

/-- The caller has just labelled the machine. -/
structure Labelled (me : Caller) (m : Machine) (w : Scene) : Prop where
  member : m.isMember = true
  staying : m.isDeleting = false
  writes : ∃ m' rest, writings w.events m.header.key = (me, m') :: rest ∧
    (m.isMarked = true ↔ LeftCondemned me rest)

theorem lasting_labelled (m : Machine) : ((shift home).terms me).Lasting
    fun w => ((shift home).Inside me w ∧ w.store.machines.get? m.header.key = some m) ∧
      (shift home).Inside me w ∧ Labelled me m w := by
  refine (lasting_stored _ m).and (Shift.lasting_inside (fun d w w' hidle h => ?_)
    fun w w' _ step h => ?_)
  · refine ⟨h.member, h.staying, ?_⟩
    cases hidle with
    | turn holders => exact h.writes
    | quiet hx =>
      rw [Scene.events_record, writings, List.filterMap_cons, writing?_quiet hx]
      exact h.writes
  · obtain ⟨_, _⟩ := step
    exact ⟨h.member, h.staying, h.writes⟩

/-- Labelling a machine that nobody holds. -/
theorem labelled_of_free {r : Reservation} (kept : Kept w) (fresh : Fresh me w) (free : r.Free m)
    (hm : w.store.machines.get? m.header.key = some m) :
    Labelled me (Kind.machine.bump m.joined) (w.writeMachine me m.joined) where
  member := by simp
  staying := free.staying
  writes := by
    refine ⟨m.joined, writings w.events m.header.key, ?_, ?_⟩
    · exact writings_writeMachine ..
    rw [Machine.isMarked_bump, Machine.isMarked_joined]
    -- a mark on a machine without a label comes from the last write to it, which was not ours
    have traced := kept.traced m.header.key
    unfold Traced at traced
    split at traced
    · rename_i hnone
      rw [hnone]
      refine ⟨fun hmarked => ?_, fun ⟨d, m', hhead, _⟩ => nomatch hhead⟩
      exact absurd ((traced m hm hmarked).symm.trans free.unlabelled) nofun
    · rename_i d m' rest hlast
      obtain rfl := Option.some.inj (hm.symm.trans traced)
      rw [hlast]
      constructor
      · exact fun hmarked => ⟨d, m', rfl, fresh.ne (hlast ▸ List.mem_cons_self), free.unlabelled,
          hmarked⟩
      · rintro ⟨d', m'', hhead, _, _, hmarked⟩
        cases hhead
        exact hmarked

/-- Binding a claim to the machine that was labelled for it. -/
theorem bindsSoundly_of_labelled {claim : Claim} {answer : Except Failure Claim} {s' : Store}
    (hm : w.store.machines.get? m.header.key = some m) (labelled : Labelled me m w) :
    BindsSoundly w.events
      ⟨w.store, .call me (.updateClaim (claim.bound m.header.key)) answer, s'⟩ := by
  intro c claim' answer' heq
  cases heq
  obtain ⟨m', rest, hwrites, hmark⟩ := labelled.writes
  exact ⟨_, m, m', rest, NameMap.get?_insert_self .., hm, labelled.member, labelled.staying,
    hwrites, hmark⟩

theorem Kept.writeClaim {claim : Claim} (h : Kept w)
    (hm : w.store.machines.get? m.header.key = some m) (labelled : Labelled me m w) :
    Kept (w.writeClaim me (claim.bound m.header.key)) :=
  ⟨Scene.keyed_writeClaim h.keyed, fun key => (h.traced key).record rfl rfl,
    bindsSoundly_of_labelled hm labelled, h.sound⟩

/-- A creation in its turn. -/
def creation (home : Nat) (me : Caller) (p : Provider) (claim : Claim) :
    CreateOutline ((shift home).terms me) p claim where
  chosen _ := True
  idle w := (shift home).Inside me w ∧ Fresh me w
  knowsGroup _ _ _ := True
  knows key m w := (shift home).Inside me w ∧ w.store.machines.get? key = some m
  reserved _ w := (shift home).Inside me w ∧ Fresh me w
  labelled r w := (shift home).Inside me w ∧ ∀ m ∈ r.machine,
    ((shift home).Inside me w ∧ w.store.machines.get? m.header.key = some m) ∧
      (shift home).Inside me w ∧ Labelled me m w
  undoing _ := (shift home).Inside me
  released _ := (shift home).Inside me
  final _ _ := True
  lasting_idle := Shift.lasting_turn.and lasting_fresh
  lasting_knowsGroup _ _ := .const _ _
  lasting_knows key m := lasting_stored key m
  lasting_reserved _ := Shift.lasting_turn.and lasting_fresh
  lasting_labelled r := Shift.lasting_turn.and (.all fun m => .all fun _ => lasting_labelled m)
  lasting_undoing _ := Shift.lasting_turn
  lasting_released _ := Shift.lasting_turn
  lasting_final _ := .const _ _
  choose _ _ _ _ _ _ := trivial
  stop _ _ _ _ := trivial
  readGroup _ _ _ _ _ := trivial
  raise τ g b w _ h _ _ _ _ := by
    obtain ⟨keeps, inside⟩ := h.1.write (h.1.orderly.inv.writeGroup (g.scaled (b + 1)))
    exact ⟨keeps, inside, h.2.record fun _ => rfl⟩
  list r m w h _ hm := ⟨h.1, (h.1.orderly.inv.keyed.mem_values_iff .machine m).1 hm⟩
  label r m w h hfree hm _ := by
    obtain ⟨keeps, inside⟩ := h.1.write (h.1.orderly.inv.writeMachine (m := m.joined))
    refine ⟨keeps, inside, fun m' hm' => ?_⟩
    obtain rfl := Option.some.inj hm'
    exact ⟨⟨inside, NameMap.get?_insert_self ..⟩, inside,
      labelled_of_free h.1.orderly.inv h.2 hfree hm.2⟩
  refuse r m _ _ w h _ _ := Shift.lasting_turn.quiet w _ _ (.inr ⟨_, rfl⟩) h.1
  bind r m τ w h hr _ _ := by
    obtain ⟨⟨inside, hm⟩, _, labelled⟩ := h.2 m hr
    exact ⟨(inside.write (inside.orderly.inv.writeClaim hm labelled)).1, trivial⟩
  giveUp r w h _ := h.1
  abandon r w h := h.1
  reread r m stored w h _ hstored := ⟨h, hstored⟩
  empty _ _ h _ := h
  gone _ _ _ h _ _ := h
  clean _ _ _ _ h _ _ _ _ := h
  release r m stored now w h hr hm current _ := h.write h.orderly.inv.writeMachine
  stuck _ _ _ _ _ := trivial
  rereadGroup _ _ _ _ _ := trivial
  restore r e g w _ h _ _ := ⟨(h.write (h.orderly.inv.writeGroup _)).1, trivial⟩
  half _ _ _ _ _ := trivial

/-- A release in its turn. -/
def release (home : Nat) (me : Caller) (claim : Claim) :
    DeleteOutline ((shift home).terms me) claim where
  idle := (shift home).Inside me
  found _ := (shift home).Inside me
  owned _ _ := (shift home).Inside me
  marked _ _ _ := (shift home).Inside me
  final _ _ := True
  lasting_idle := Shift.lasting_turn
  lasting_found _ := Shift.lasting_turn
  lasting_owned _ _ := Shift.lasting_turn
  lasting_marked _ _ _ := Shift.lasting_turn
  lasting_final _ := .const _ _
  stop _ _ _ _ := trivial
  find _ _ _ h _ := h
  get _ _ _ _ _ _ _ _ h _ := h
  going _ _ _ _ := trivial
  lost _ _ _ _ _ := trivial
  own _ _ _ _ h _ _ _ := h
  keep _ _ _ _ _ _ := trivial
  already _ _ _ _ h _ _ := h
  mark _ _ _ _ _ h _ _ _ := h.write h.orderly.inv.writeMachine
  lower _ _ _ _ _ h _ _ := ⟨(h.write (h.orderly.inv.writeGroup _)).1, trivial⟩
  leave _ _ _ _ _ _ := trivial
  unmark _ _ _ _ _ h _ := ⟨(h.write h.orderly.inv.writeMachine).1, trivial⟩
  stuck _ _ _ _ _ _ := trivial

theorem ensures_order (p : Provider) (me : Caller) (order : Order) {w : Scene}
    (orderly : (shift me.provider).Orderly w) (fresh : Fresh me w) :
    (order.program p).Ensures ((shift me.provider).terms me) (fun _ _ => True) w := by
  cases order with
  | create claim =>
    have ensures : (p.create claim).Ensures ((shift me.provider).terms me) (fun _ _ => True) w :=
      (creation me.provider me p claim).ensures_create (Shift.lasting_orderly.and lasting_fresh)
        ⟨orderly, fresh⟩ (fun _ _ _ _ => trivial)
        (fun w h free => ⟨(Shift.take rfl h.1 free).1, (Shift.take rfl h.1 free).2, h.2⟩)
        (fun _ _ _ _ => trivial) fun x w _ => ⟨Shift.give w, trivial⟩
    rw [Order.program, Program.ensures_bind]
    exact ensures
  | delete claim =>
    have ensures : (Provider.delete claim).Ensures ((shift me.provider).terms me)
        (fun _ _ => True) w :=
      (release me.provider me claim).ensures_delete Shift.lasting_orderly orderly
        (fun _ _ _ _ => trivial) (fun w h free => Shift.take rfl h free)
        fun x w _ => ⟨Shift.give w, trivial⟩
    rw [Order.program, Program.ensures_bind]
    exact ensures

theorem fresh_of_unknown (h : w.Unknown me) : Fresh me w := by
  intro e he
  rw [h.doings_eq_nil] at he
  cases he

theorem kept_start {s : Store} (keyed : s.Keyed)
    (unmarked : ∀ key m, s.machines.get? key = some m → m.isMarked = true → m.isMember = true) :
    Kept (.start s) := ⟨keyed, unmarked, trivial⟩

end Condemned

/-- Whatever is called on a provider, and however the calls fare: the machine to which a claim gets
bound is not about to be removed, and it has a mark just if it had one, and no label, from an
earlier call. -/
theorem binding_condemned_iff {p : Provider} {home : Nat} {s : Store} {σ : Stage Unit}
    (keyed : s.Keyed)
    (unmarked : ∀ key m, s.machines.get? key = some m → m.isMarked = true → m.isMember = true)
    (run : (Stage.start (Scene.start s)).Reaches (Order.Job p home) Scene.Adds σ)
    {later earlier : List Event} {e : Event} (history : σ.scene.events = later ++ e :: earlier)
    {c : Caller} {claim : Claim} {answer : Claim}
    (binds : e.deed = .call c (.updateClaim claim) (.ok answer)) :
    ∃ key m m' rest, claim.binding? = some key ∧ e.before.machines.get? key = some m ∧
      m.isMember = true ∧ m.isDeleting = false ∧ writings earlier key = (c, m') :: rest ∧
      (m.isMarked = true ↔ LeftCondemned c rest) := by
  let pact := (Condemned.shift home).pact (Order.Job p home) (fun _ _ _ => True)
    (fun _ _ _ _ _ _ => trivial) fun c q w hjob orderly unknown => by
      obtain ⟨rfl, order, rfl⟩ := hjob
      exact Condemned.ensures_order p c order orderly (Condemned.fresh_of_unknown unknown)
  have orderly : (Condemned.shift home).Orderly (.start s) :=
    ⟨Condemned.kept_start keyed unmarked, nofun, nofun⟩
  have kept := (pact.reaches orderly run).inv.inv
  exact (history ▸ kept.sound).of_append c claim answer binds

/-- Whether a claim gets bound to a machine that is stored with a mark. -/
def Event.bindsMarked (e : Event) : Bool :=
  match e.deed with
  | .call _ (.updateClaim claim) (.ok _) =>
    (claim.binding?.bind e.before.machines.get?).any (·.isMarked)
  | _ => false

theorem Event.eq_of_bindsMarked {e : Event} (h : e.bindsMarked = true) :
    ∃ c claim answer key m, e.deed = .call c (.updateClaim claim) (.ok answer) ∧
      claim.binding? = some key ∧ e.before.machines.get? key = some m ∧ m.isMarked = true := by
  unfold bindsMarked at h
  split at h
  · rename_i c claim answer hdeed
    obtain ⟨m, hm, hmarked⟩ := (Option.any_eq_true ..).1 h
    obtain ⟨key, hkey, hm⟩ := Option.bind_eq_some_iff.1 hm
    exact ⟨c, claim, answer, key, m, hdeed, hkey, hm, hmarked⟩
  · cases h

/-- A creation for an outdated claim lets go of the machine that it has labelled, and the next
creation takes that machine. -/
private theorem bound_after_rollback :
    ∃ σ e earlier, (Stage.start (Scene.start .claimed)).Reaches (Order.Job .sample 0) Scene.Adds σ ∧
      σ.scene.events = e :: earlier ∧ e.bindsMarked = true := by
  obtain ⟨σ, run, hscene⟩ := Stage.reaches_overtaken (Order.Job .sample 0) Scene.Adds
    (c := ⟨0, 0⟩) (d := ⟨0, 1⟩) (p := (Order.create .sample).program .sample)
    (q := (Order.create (Kind.claim.bump .sample')).program .sample) (by decide)
    ⟨rfl, .create .sample, rfl⟩ ⟨rfl, .create (Kind.claim.bump .sample'), rfl⟩ 0 20 20 0
    (.start .claimed)
  have hlast : (σ.scene.events.head?.any (·.bindsMarked)) = true := by
    rw [hscene]
    decide +kernel
  obtain ⟨e, he, hbinds⟩ := (Option.any_eq_true ..).1 hlast
  obtain ⟨earlier, hevents⟩ := List.head?_eq_some_iff.1 he
  exact ⟨σ, e, earlier, run, hevents, hbinds⟩

private theorem unmarked_claimed (key : String) (m : Machine)
    (h : Store.claimed.machines.get? key = some m) (hmarked : m.isMarked = true) :
    m.isMember = true := by
  have hnone : ∀ m ∈ Store.claimed.machines.values, m.isMarked = false := by decide +kernel
  rw [hnone m (NameMap.mem_values_iff.2 ⟨key, h⟩)] at hmarked
  cases hmarked

theorem binding_condemned_iff_after_rollback :
    ∃ σ e earlier c claim answer rest,
      (Stage.start (Scene.start .claimed)).Reaches (Order.Job .sample 0) Scene.Adds σ ∧
      σ.scene.events = e :: earlier ∧ e.deed = .call c (.updateClaim claim) (.ok answer) ∧
      LeftCondemned c rest := by
  obtain ⟨σ, e, earlier, run, history, hbinds⟩ := bound_after_rollback
  obtain ⟨c, claim, answer, key, m, binds, hkey, hm, hmarked⟩ := e.eq_of_bindsMarked hbinds
  obtain ⟨key', m₁, m', rest, hkey', hm₁, _, _, _, hiff⟩ :=
    binding_condemned_iff Store.keyed_claimed unmarked_claimed run
      (show σ.scene.events = [] ++ e :: earlier from history) binds
  obtain rfl := Option.some.inj (hkey.symm.trans hkey')
  obtain rfl := Option.some.inj (hm.symm.trans hm₁)
  exact ⟨σ, e, earlier, c, claim, answer, rest, run, history, binds, hiff.1 hmarked⟩

/-- At first no machine has a mark, and then a claim gets bound to one that has. -/
theorem claim_bound_to_condemned_machine :
    ∃ σ e earlier c claim answer key m,
      (Stage.start (Scene.start .claimed)).Reaches (Order.Job .sample 0) Scene.Adds σ ∧
      (∀ m ∈ Store.claimed.machines.values, m.isMarked = false) ∧
      σ.scene.events = e :: earlier ∧ e.deed = .call c (.updateClaim claim) (.ok answer) ∧
      claim.binding? = some key ∧ e.before.machines.get? key = some m ∧ m.isMarked = true := by
  obtain ⟨σ, e, earlier, run, history, hbinds⟩ := bound_after_rollback
  obtain ⟨c, claim, answer, key, m, binds, hkey, hm, hmarked⟩ := e.eq_of_bindsMarked hbinds
  exact ⟨σ, e, earlier, c, claim, answer, key, m, run, by decide +kernel, history, binds, hkey, hm,
    hmarked⟩

end MachineClaims
