import MachineClaims.Proofs.Alone
import MachineClaims.Proofs.Bindings
import MachineClaims.Proofs.Scaling
import MachineClaims.Proofs.Shifts
import Mathlib.Algebra.BigOperators.Group.Finset.Indicator
import Mathlib.Data.Set.Card

/-!
# What a call does to replica counts

The callers of one provider take turns, and nobody else changes a replica count. Then a call either
leaves all counts alone, or raises one by one for good, or raises it and lowers it again, or lowers
one by one; which of these it was shows in its answer (`Account`).
-/

namespace MachineClaims

/-- The answer of a call, and the claim it was made for. -/
inductive Outcome where
  | created (claim : Claim) (result : Except Failure Claim)
  | deleted (claim : Claim) (result : Except Failure Unit)

/-- The program of a call, which ends with its answer. -/
def Order.outcome (p : Provider) : Order → Program Outcome
  | .create claim => (p.create claim).run.bind fun x => .done (.created claim x)
  | .delete claim => (Provider.delete claim).run.bind fun x => .done (.deleted claim x)

/-- The callers of one provider make calls with any claims, and get answers. -/
def Outcome.Job (p : Provider) (home : Nat) (c : Caller) (q : Program Outcome) : Prop :=
  c.provider = home ∧ ∃ order : Order, q = order.outcome p

/-- A client operates on the store, but leaves all replica counts as they are. -/
inductive Scene.Uncounted : Scene → Scene → Prop where
  | mk {w : Scene} (client : Caller) (op : Store.Operation)
    (same : ∀ key, (op.perform w.store).2.replicas key = w.store.replicas key) :
    Uncounted w (w.operate client op)

/-- The replica count of one group becomes another. -/
structure Event.Scales (e : Event) (key : String) (was now : Nat) : Prop where
  before : e.before.replicas key = some was
  after : e.after.replicas key = some now
  others : ∀ key', key' ≠ key → e.after.replicas key' = e.before.replicas key'

/-- By how much an event changes the replica count of a group. -/
def Event.gain (key : String) (e : Event) : Int :=
  (e.after.replicas key).getD 0 - (e.before.replicas key).getD 0

/-- A caller has written one group once, which has changed the count of that group. -/
def Scene.Scaled (w : Scene) (c : Caller) (key : String) (was now : Nat) : Prop :=
  ∃ e, w.writes c .group = [e] ∧ e.Scales key was now

/-- A creation has raised the count of a group and bound its claim to a machine, whether or not the
machine had a provider id. -/
structure Bound (c : Caller) (w : Scene) (claim : Claim) (x : Except Failure Claim) (key : String) :
    Prop where
  unbound : claim.binding? = none
  raised : ∃ b, b ≠ maxReplicas ∧ w.Scaled c key b (b + 1)
  binds : ∃ s machine, w.writes c .claim = [.ofClaim s c (claim.bound machine)] ∧
    ((∃ claim', x = .ok claim') ∨ x = .error (.missingProviderId machine))

/-- A creation has raised the count of a group, and could not undo that. -/
structure Stranded (c : Caller) (w : Scene) (claim : Claim) (x : Except Failure Claim)
    (key : String) : Prop where
  unbound : claim.binding? = none
  raised : ∃ b, b ≠ maxReplicas ∧ w.Scaled c key b (b + 1)
  claims : w.writes c .claim = []
  failed : ∃ e cleanup, x = .error (.compensationFailed e cleanup)

/-- A release has lowered the count of the group of its machine, which was to stay until then. -/
structure Freed (c : Caller) (w : Scene) (claim : Claim) (x : Except Failure Unit) (key : String) :
    Prop where
  machine : ∃ m owner, w.Met (fun s => claim.machine? s = some m) ∧ m.isDeleting = false ∧
    m.owner? = some owner ∧ key = objectKey m.header.space owner
  lowered : ∃ n, w.Scaled c key (n + 1) n
  done : x = .ok ()

/-- What a call has done to replica counts, by its answer. -/
inductive Account (c : Caller) (w : Scene) : Outcome → Prop where
  /-- A claim that is bound is not bound again. -/
  | retried {claim : Claim} {x : Except Failure Claim} (bound : claim.binding? ≠ none)
    (whole : Whole x) (nothing : w.Passive c) : Account c w (.created claim x)
  | refused {claim : Claim} {e : Failure} (unbound : claim.binding? = none) (plain : e.plain = true)
    (nothing : w.Passive c) : Account c w (.created claim (.error e))
  | undone {claim : Claim} {e : Failure} {key : String} {b : Nat} {off on : Event}
    (unbound : claim.binding? = none) (plain : e.plain = true)
    (groups : w.writes c .group = [off, on]) (raised : on.Scales key b (b + 1))
    (lowered : off.Scales key (b + 1) b) (claims : w.writes c .claim = []) :
    Account c w (.created claim (.error e))
  | bound {claim : Claim} {x : Except Failure Claim} {key : String} (h : Bound c w claim x key) :
    Account c w (.created claim x)
  | stranded {claim : Claim} {x : Except Failure Claim} {key : String}
    (h : Stranded c w claim x key) : Account c w (.created claim x)
  /-- The removal of the machine has begun. -/
  | going {claim : Claim} {m : Machine} (resolved : w.Met fun s => claim.machine? s = some m)
    (going : m.isDeleting = true) (nothing : w.Passive c) : Account c w (.deleted claim (.ok ()))
  | freed {claim : Claim} {x : Except Failure Unit} {key : String} (h : Freed c w claim x key) :
    Account c w (.deleted claim x)
  | kept {claim : Claim} {e : Failure} (groups : w.writes c .group = []) :
    Account c w (.deleted claim (.error e))

namespace Accounting

/-- A store in which no count is too large and the same groups have one as in another store. -/
structure Counts (s s' : Store) : Prop where
  bounded : ∀ key n, s'.replicas key = some n → n ≤ maxReplicas
  managed : ∀ key, (s'.replicas key).isSome = (s.replicas key).isSome

theorem Counts.congr {s s₁ s₂ : Store} (h : Counts s s₁)
    (same : ∀ key, s₂.replicas key = s₁.replicas key) : Counts s s₂ :=
  ⟨fun key n hn => h.bounded key n (same key ▸ hn), fun key => (same key ▸ h.managed key :)⟩

/-- What every scene keeps. -/
structure Kept (s : Store) (w : Scene) : Prop where
  keyed : w.store.Keyed
  counts : Counts s w.store
  past : ∀ e ∈ w.events, Counts s e.after
  others : ∀ e ∈ w.events, e.caller? = none → ∀ key, e.after.replicas key = e.before.replicas key
  total : ∀ key, ((w.store.replicas key).getD 0 : Int) =
    (s.replicas key).getD 0 + (w.events.map (·.gain key)).sum

theorem kept_start {s : Store} (keyed : s.Keyed)
    (bounded : ∀ key n, s.replicas key = some n → n ≤ maxReplicas) : Kept s (.start s) where
  keyed := keyed
  counts := ⟨bounded, fun _ => rfl⟩
  past _ he := absurd he List.not_mem_nil
  others _ he := absurd he List.not_mem_nil
  total _ := (Int.add_zero _).symm

variable {s : Store} {w w' : Scene} {me : Caller} {home : Nat}

theorem Kept.record (h : Kept s w) {deed : Deed} {s' : Store} (keyed : s'.Keyed)
    (counts : Counts s s') (same : (⟨w.store, deed, s'⟩ : Event).caller? = none →
      ∀ key, s'.replicas key = w.store.replicas key) : Kept s (w.record deed s') where
  keyed := keyed
  counts := counts
  past e he := by
    obtain rfl | he := List.mem_cons.1 he
    · exact counts
    · exact h.past e he
  others e he := by
    obtain rfl | he := List.mem_cons.1 he
    · exact same
    · exact h.others e he
  total key := by
    have htotal := h.total key
    have hgain : Event.gain key ⟨w.store, deed, s'⟩ =
        (s'.replicas key).getD 0 - (w.store.replicas key).getD 0 := rfl
    rw [Scene.store_record, Scene.events_record, List.map_cons, List.sum_cons, hgain]
    omega

/-- The callers of one provider, beside clients that leave the counts alone. -/
def shift (home : Nat) (s : Store) : Shift where
  home := home
  inv := Kept s
  world := Scene.Uncounted
  idles c w w' h step := by
    cases step with
    | turn holders => exact { h with }
    | quiet _ => exact h.record h.keyed h.counts fun _ _ => rfl
  spares w w' h step := by
    obtain ⟨client, op, same⟩ := step
    exact h.record (h.keyed.perform op) (h.counts.congr same) fun _ => same
  alien w w' step := by
    obtain ⟨client, op, _⟩ := step
    exact ⟨_, _, rfl, nofun⟩

/-- A count stays as it is while it is the caller's turn. -/
theorem lasting_count (key : String) (count : Option Nat) : ((shift home s).terms me).Lasting
    fun w => (shift home s).Inside me w ∧ w.store.replicas key = count := by
  refine Shift.lasting_inside (fun _ _ _ hidle h => hidle.store_eq ▸ h) fun w w' _ step h => ?_
  obtain ⟨client, op, same⟩ := step
  exact (same key).trans h

/-- Giving a group another count. -/
theorem Kept.scale (h : Kept s w) {g : MachineGroup} {key : String} {n n' : Nat}
    (hkey : g.header.key = key) (hn : w.store.replicas key = some n) (hn' : n' ≤ maxReplicas) :
    Kept s (w.writeGroup me (g.scaled n')) := by
  have hput : ∀ key', (w.store.put .group (Kind.group.bump (g.scaled n'))).replicas key' =
      if key' = key then some n' else w.store.replicas key' := by
    intro key'
    rw [Store.replicas_put_group]
    exact hkey ▸ rfl
  refine h.record (h.keyed.put .group _) ⟨fun key' m hm => ?_, fun key' => ?_⟩ nofun
  · rw [hput] at hm
    split at hm
    · cases hm
      exact hn'
    · exact h.counts.bounded key' m hm
  · rw [hput]
    split
    · rename_i heq
      rw [heq, ← h.counts.managed key, hn]
      rfl
    · exact h.counts.managed key'

theorem scales_ofGroup (w : Scene) (me : Caller) {g : MachineGroup} {key : String} {n : Nat}
    (n' : Nat) (hkey : g.header.key = key) (hn : w.store.replicas key = some n) :
    (Event.ofGroup w.store me (g.scaled n')).Scales key n n' where
  before := hn
  after := (Store.replicas_put_group ..).trans (if_pos hkey.symm)
  others key' hne := by
    refine (Store.replicas_put_group ..).trans (if_neg fun heq => hne ?_)
    exact heq.trans hkey

theorem lasting_scaled (key : String) (was now : Nat) :
    ((shift home s).terms me).Lasting (·.Scaled me key was now) :=
  .ex fun _ => (Shift.lasting_writes ..).and (.const _ _)

/-- The caller has raised the count of a group by one, and has written no other group and no
claim. -/
structure Raised (me : Caller) (key : String) (b : Nat) (w : Scene) : Prop where
  scaled : w.Scaled me key b (b + 1)
  room : b ≠ maxReplicas
  claims : w.writes me .claim = []

theorem lasting_raised (key : String) (b : Nat) :
    ((shift home s).terms me).Lasting (Raised me key b) :=
  .of_passes fun _ _ hw h => ⟨(lasting_scaled ..).passes hw h.scaled, h.room,
    (Shift.lasting_writes ..).passes hw h.claims⟩

/-- The group of the reservation has the raised count. -/
def Reserved (home : Nat) (s : Store) (me : Caller) (r : Reservation) (w : Scene) : Prop :=
  ((shift home s).Inside me w ∧ w.store.replicas r.key = some (r.baseline + 1)) ∧
    Raised me r.key r.baseline w

theorem lasting_reserved (r : Reservation) :
    ((shift home s).terms me).Lasting (Reserved home s me r) :=
  (lasting_count ..).and (lasting_raised ..)

/-- A write that leaves groups and claims alone. -/
theorem Reserved.record {r : Reservation} (h : Reserved home s me r w) {deed : Deed} {s' : Store}
    (keeps : (shift home s).Inside me (w.record deed s')) (groups : s'.groups = w.store.groups)
    (claims : s'.claims = w.store.claims) : Reserved home s me r (w.record deed s') := by
  refine ⟨⟨keeps, ?_⟩, ?_, h.2.room, ?_⟩
  · have hcount := h.1.2
    unfold Store.replicas at hcount ⊢
    rw [Scene.store_record, groups]
    exact hcount
  · rw [Scene.Scaled, Scene.writes_record_of_eq (k := .group) groups]
    exact h.2.scaled
  · rw [Scene.writes_record_of_eq (k := .claim) claims]
    exact h.2.claims

theorem inside_writeMachine (h : (shift home s).Inside me w) (m : Machine) :
    Shift.Keeps (shift home s) me w (w.writeMachine me m) ∧
      (shift home s).Inside me (w.writeMachine me m) :=
  h.write (h.orderly.inv.record (h.orderly.inv.keyed.put .machine _)
    (h.orderly.inv.counts.congr fun _ => rfl) nofun)

theorem inside_writeClaim (h : (shift home s).Inside me w) (claim : Claim) :
    Shift.Keeps (shift home s) me w (w.writeClaim me claim) ∧
      (shift home s).Inside me (w.writeClaim me claim) :=
  h.write (h.orderly.inv.record (h.orderly.inv.keyed.put .claim _)
    (h.orderly.inv.counts.congr fun _ => rfl) nofun)

theorem Raised.stranded {claim : Claim} {key : String} {b : Nat} (h : Raised me key b w)
    (unbound : claim.binding? = none) (e cleanup : Failure) :
    Stranded me w claim (.error (.compensationFailed e cleanup)) key :=
  ⟨unbound, ⟨b, h.room, h.scaled⟩, h.claims, e, cleanup, rfl⟩

theorem lasting_account (x : Outcome) :
    ((shift home s).terms me).Lasting fun w => Account me w x := by
  refine .of_passes fun w w' hw h => ?_
  have raised : ∀ key, (∃ b, b ≠ maxReplicas ∧ w.Scaled me key b (b + 1)) →
      ∃ b, b ≠ maxReplicas ∧ w'.Scaled me key b (b + 1) := fun key ⟨b, room, hb⟩ =>
    ⟨b, room, (lasting_scaled ..).passes hw hb⟩
  cases h with
  | retried bound whole nothing =>
    exact .retried bound whole (Shift.lasting_passive.passes hw nothing)
  | refused unbound plain nothing =>
    exact .refused unbound plain (Shift.lasting_passive.passes hw nothing)
  | undone unbound plain groups raised lowered claims =>
    exact .undone unbound plain ((Shift.lasting_writes ..).passes hw groups) raised lowered
      ((Shift.lasting_writes ..).passes hw claims)
  | bound h =>
    obtain ⟨s, machine, claims, result⟩ := h.binds
    exact .bound ⟨h.unbound, raised _ h.raised, s, machine,
      (Shift.lasting_writes ..).passes hw claims, result⟩
  | stranded h =>
    exact .stranded { h with
      raised := raised _ h.raised
      claims := (Shift.lasting_writes ..).passes hw h.claims }
  | going resolved going nothing =>
    exact .going ((Shift.lasting_met _).passes hw resolved) going
      (Shift.lasting_passive.passes hw nothing)
  | freed h =>
    obtain ⟨m, owner, resolved, rest⟩ := h.machine
    obtain ⟨n, lowered⟩ := h.lowered
    exact .freed ⟨⟨m, owner, (Shift.lasting_met _).passes hw resolved, rest⟩,
      ⟨n, (lasting_scaled ..).passes hw lowered⟩, h.done⟩
  | kept groups => exact .kept ((Shift.lasting_writes ..).passes hw groups)

theorem account_with_holders {x : Outcome} (h : Account me w x) (holders : List Caller) :
    Account me { w with holders } x := by
  cases h with
  | retried bound whole nothing => exact .retried bound whole nothing
  | refused unbound plain nothing => exact .refused unbound plain nothing
  | undone unbound plain groups raised lowered claims =>
    exact .undone unbound plain groups raised lowered claims
  | bound h => exact .bound { h with }
  | stranded h => exact .stranded { h with }
  | going resolved going nothing => exact .going resolved going nothing
  | freed h => exact .freed { h with }
  | kept groups => exact .kept groups

/-- A creation in its turn, for a claim that is not bound. -/
def creation (home : Nat) (s : Store) (me : Caller) (p : Provider) {claim : Claim}
    (unbound : claim.binding? = none) : CreateOutline ((shift home s).terms me) p claim where
  chosen _ := True
  idle w := (shift home s).Inside me w ∧ w.Passive me
  knowsGroup key g w :=
    ((shift home s).Inside me w ∧ w.store.replicas key = g.replicas) ∧ g.header.key = key
  knows _ _ _ := True
  reserved := Reserved home s me
  labelled := Reserved home s me
  undoing := Reserved home s me
  released := Reserved home s me
  final x w := Account me w (.created claim x)
  lasting_idle := Shift.lasting_turn.and Shift.lasting_passive
  lasting_knowsGroup key g := (lasting_count key g.replicas).and (.const _ _)
  lasting_knows _ _ := .const _ _
  lasting_reserved := lasting_reserved
  lasting_labelled := lasting_reserved
  lasting_undoing := lasting_reserved
  lasting_released := lasting_reserved
  lasting_final x := lasting_account (.created claim x)
  choose _ _ _ _ _ _ := trivial
  stop e w he h := .refused unbound he h.2
  readGroup key g w h hg := by
    refine ⟨⟨h.1, ?_⟩, h.1.orderly.inv.keyed .group key g hg⟩
    rw [Store.replicas, hg]
    rfl
  raise τ g b w _ h hg hb hmax current := by
    obtain ⟨⟨inside, hcount⟩, hkey⟩ := hg
    rw [hb] at hcount
    have room : b + 1 ≤ maxReplicas :=
      Nat.lt_of_le_of_ne (inside.orderly.inv.counts.bounded _ b hcount) hmax
    obtain ⟨keeps, inside'⟩ := inside.write (inside.orderly.inv.scale hkey hcount room)
    have scales := scales_ofGroup w me (b + 1) hkey hcount
    refine ⟨keeps, ⟨inside', scales.after⟩, ⟨_, ?_, scales⟩, hmax, ?_⟩
    · exact Scene.writes_writeGroup current (h.2.writes .group)
    · exact Scene.writes_writeGroup_of_ne (by decide) (h.2.writes .claim)
  list _ _ _ _ _ _ := trivial
  label r m w h _ _ _ := by
    obtain ⟨keeps, inside⟩ := inside_writeMachine h.1.1 m.joined
    have reserved : Reserved home s me r (w.writeMachine me m.joined) := h.record inside rfl rfl
    exact ⟨keeps, reserved⟩
  refuse r m activity error w h _ _ := by
    have inside := Shift.lasting_turn.quiet w (.updateMachine m.joined)
      (.error (.store activity error)) (.inr ⟨_, rfl⟩) h.1.1
    have reserved : Reserved home s me r (w.record
        (.call me (.updateMachine m.joined) (.error (.store activity error))) w.store) :=
      h.record inside rfl rfl
    exact reserved
  bind r m τ w h hr _ current := by
    obtain ⟨keeps, -⟩ := inside_writeClaim h.1.1 (claim.bound m.header.key)
    obtain ⟨on, groups, raised⟩ := h.2.scaled
    refine ⟨keeps, .bound ⟨unbound, ⟨_, h.2.room, on, ?_, raised⟩, w.store, m.header.key, ?_,
      Provider.populate_cases ..⟩⟩
    · exact Scene.writes_writeClaim_of_ne (by decide) groups
    · exact Scene.writes_writeClaim current h.2.claims
  giveUp _ _ h _ := h
  abandon _ _ h := h
  reread _ _ _ _ _ _ _ := trivial
  empty _ _ h _ := h
  gone _ _ _ h _ _ := h
  clean _ _ _ _ h _ _ _ _ := h
  release r m stored now w h _ _ _ _ := by
    obtain ⟨keeps, inside⟩ := inside_writeMachine h.1.1 (stored.released now)
    exact ⟨keeps, h.record inside rfl rfl⟩
  stuck r e cleanup w h := .stranded (h.2.stranded unbound e cleanup)
  rereadGroup r g w h hg := by
    refine ⟨⟨h.1.1, ?_⟩, h.1.1.orderly.inv.keyed .group r.key g hg⟩
    rw [Store.replicas, hg]
    rfl
  restore r e g w he h hg current := by
    obtain ⟨⟨inside, hcount⟩, hkey⟩ := hg
    obtain ⟨on, groups, raised⟩ := h.2.scaled
    -- the count is still the raised one, so writing the remembered one lowers it by one
    have hraised := h.1.2
    have room : r.baseline ≤ maxReplicas :=
      Nat.le_of_succ_le (inside.orderly.inv.counts.bounded _ _ hraised)
    obtain ⟨keeps, -⟩ := inside.write (inside.orderly.inv.scale hkey hraised room)
    have lowered := scales_ofGroup w me r.baseline hkey hraised
    refine ⟨keeps, .undone unbound he ?_ raised lowered ?_⟩
    · exact Scene.writes_writeGroup current groups
    · exact Scene.writes_writeGroup_of_ne (by decide) h.2.claims
  half r e cleanup w h := .stranded (h.2.stranded unbound e cleanup)

/-- The machine of a claim belongs to a group whose replica count is known, and the release has
written no group. -/
def Owned (home : Nat) (s : Store) (me : Caller) (claim : Claim) (m : Machine) (owner : String)
    (g : MachineGroup) (w : Scene) : Prop :=
  ((shift home s).Inside me w ∧
      w.store.replicas (objectKey m.header.space owner) = g.replicas) ∧
    w.Met (fun s => claim.machine? s = some m) ∧
    (m.isDeleting = false ∧ m.owner? = some owner ∧
      g.header.key = objectKey m.header.space owner) ∧
    w.writes me .group = []

theorem lasting_owned (claim : Claim) (m : Machine) (owner : String) (g : MachineGroup) :
    ((shift home s).terms me).Lasting (Owned home s me claim m owner g) :=
  (lasting_count ..).and ((Shift.lasting_met _).and ((Terms.Lasting.const _ _).and
    (Shift.lasting_writes ..)))

theorem Owned.writeMachine {claim : Claim} {m : Machine} {owner : String} {g : MachineGroup}
    (h : Owned home s me claim m owner g w) (m' : Machine) :
    Shift.Keeps (shift home s) me w (w.writeMachine me m') ∧
      Owned home s me claim m owner g (w.writeMachine me m') := by
  obtain ⟨⟨inside, hcount⟩, resolved, place, groups⟩ := h
  obtain ⟨keeps, inside⟩ := inside_writeMachine inside m'
  refine ⟨keeps, ⟨inside, hcount⟩, resolved.record _ _, place, ?_⟩
  exact Scene.writes_writeMachine_of_ne (by decide) groups

/-- A release in its turn. -/
def release (home : Nat) (s : Store) (me : Caller) (claim : Claim) :
    DeleteOutline ((shift home s).terms me) claim where
  idle w := (shift home s).Inside me w ∧ w.Passive me
  found m w := ((shift home s).Inside me w ∧ w.Passive me) ∧
    w.Met fun s => claim.machine? s = some m
  owned m g w := ∃ owner, Owned home s me claim m owner g w
  marked _ g _ w := ∃ m owner, Owned home s me claim m owner g w
  final x w := Account me w (.deleted claim x)
  lasting_idle := Shift.lasting_turn.and Shift.lasting_passive
  lasting_found m := (Shift.lasting_turn.and Shift.lasting_passive).and (Shift.lasting_met _)
  lasting_owned m g := .ex fun owner => lasting_owned claim m owner g
  lasting_marked _ g _ := .ex fun m => .ex fun owner => lasting_owned claim m owner g
  lasting_final x := lasting_account (.deleted claim x)
  stop _ _ _ h := .kept (h.2.writes .group)
  find m w hid h hfind := ⟨h, .inl (Claim.machine?_of_find hid hfind)⟩
  get b space name m w hid hb hparse h hm := ⟨h, .inl (Claim.machine?_of_get hid hb hparse hm)⟩
  going m w h hgoing := .going h.2 hgoing h.1.2
  lost m e w _ h := .kept (h.1.2.writes .group)
  own m name g w h hstaying hname hg := by
    have hcount : w.store.replicas (objectKey m.header.space name) = g.replicas := by
      rw [Store.replicas, hg]
      rfl
    exact ⟨name, ⟨h.1.1, hcount⟩, h.2,
      ⟨hstaying, hname, h.1.1.orderly.inv.keyed .group _ g hg⟩, h.1.2.writes .group⟩
  keep m g e w _ h := by
    obtain ⟨owner, owned⟩ := h
    exact .kept owned.2.2.2
  already m g n w h _ _ := ⟨m, h⟩
  mark m g n now w h _ _ _ := by
    obtain ⟨owner, owned⟩ := h
    obtain ⟨keeps, owned⟩ := owned.writeMachine (m.marked (Text.decimal now))
    exact ⟨keeps, m, owner, owned⟩
  lower m g n fresh w h hn current := by
    obtain ⟨m, owner, ⟨inside, hcount⟩, resolved, ⟨hstaying, howner, hkey⟩, groups⟩ := h
    rw [hn] at hcount
    have room : n ≤ maxReplicas :=
      Nat.le_of_succ_le (inside.orderly.inv.counts.bounded _ _ hcount)
    obtain ⟨keeps, -⟩ := inside.write (inside.orderly.inv.scale hkey hcount room)
    refine ⟨keeps, .freed ⟨⟨m, owner, resolved.record _ _, hstaying, howner, rfl⟩, ⟨n, _, ?_,
      scales_ofGroup w me n hkey hcount⟩, rfl⟩⟩
    exact Scene.writes_writeGroup current groups
  leave m g e w _ h := by
    obtain ⟨m, owner, owned⟩ := h
    exact .kept owned.2.2.2
  unmark m g e w _ h _ := by
    obtain ⟨m₀, owner, owned⟩ := h
    obtain ⟨keeps, owned⟩ := owned.writeMachine m.unmarked
    exact ⟨keeps, .kept owned.2.2.2⟩
  stuck m g e cleanup w h := by
    obtain ⟨m, owner, owned⟩ := h
    exact .kept owned.2.2.2

/-- Whatever a caller asks for, what it does to replica counts shows in its answer. -/
theorem ensures_outcome (p : Provider) (order : Order)
    (h : (shift me.provider s).Orderly w ∧ w.Passive me) :
    (order.outcome p).Ensures ((shift me.provider s).terms me) (fun x w => Account me w x) w := by
  have lasting : ((shift me.provider s).terms me).Lasting
      fun w => (shift me.provider s).Orderly w ∧ w.Passive me :=
    Shift.lasting_orderly.and Shift.lasting_passive
  have enter : ∀ w, (shift me.provider s).Orderly w ∧ w.Passive me →
      (∀ c ∈ w.holders, c.provider ≠ me.provider) →
      Shift.Keeps (shift me.provider s) me w { w with holders := me :: w.holders } ∧
        (shift me.provider s).Inside me { w with holders := me :: w.holders } ∧
        Scene.Passive { w with holders := me :: w.holders } me := fun w h free =>
    ⟨(Shift.take rfl h.1 free).1, (Shift.take rfl h.1 free).2, h.2⟩
  have leave : ∀ x w, Account me w x →
      Shift.Keeps (shift me.provider s) me w { w with holders := w.holders.filter (· ≠ me) } ∧
        Account me { w with holders := w.holders.filter (· ≠ me) } x := fun _ w h =>
    ⟨Shift.give w, account_with_holders h _⟩
  cases order with
  | create claim =>
    rw [Order.outcome, Program.ensures_bind]
    by_cases unbound : claim.binding? = none
    · exact (creation me.provider s me p unbound).ensures_create lasting h
        (fun e w plain h => .refused unbound plain h.2) enter
        (fun bound _ _ _ => absurd unbound bound) fun x w h => leave (.created claim x) w h
    · exact Provider.ensures_retry unbound lasting (Shift.lasting_turn.and Shift.lasting_passive) h
        (fun _ w plain h => .retried unbound (.of_plain plain) h.2) enter
        fun x w whole h => leave (.created claim x) w (.retried unbound whole h.2)
  | delete claim =>
    rw [Order.outcome, Program.ensures_bind]
    exact (release me.provider s me claim).ensures_delete lasting h
      (fun _ w _ h => .kept (h.2.writes .group)) enter fun x w h => leave (.deleted claim x) w h

end Accounting
end MachineClaims
