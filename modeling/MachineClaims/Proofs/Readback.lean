import MachineClaims.Proofs.Doings
import MachineClaims.Proofs.Keys
import MachineClaims.Proofs.Scaling
import MachineClaims.Proofs.Undisturbed

/-!
# Bindings that can be read back

A binding is written as the key of a machine, and read by splitting it at its one slash and trimming
both parts. So it gives back the identity of the machine just if both parts of the identity are
legible: not empty, without a slash, and without a blank at either end
(`Binding.parse_objectKey_iff`). Nothing keeps a creation from binding a claim to a machine whose
identity is not legible (`binding_reads_back_iff`), and then neither a retry nor a release by the
binding comes to that machine (`binding_lost`).
-/

namespace MachineClaims

section

variable {sep : Char} {a b x y : List Char}

private theorem length_splitOn_pos (sep : Char) (a : List Char) : 0 < (a.splitOn sep).length :=
  List.length_pos_iff.2 (List.splitOn_ne_nil sep a)

/-- A text is split into one part just if it does not contain the separator. -/
private theorem splitOn_eq_singleton_iff : a.splitOn sep = [x] ↔ sep ∉ a ∧ x = a := by
  constructor
  · intro h
    have hmem : sep ∉ a := by
      intro hmem
      obtain ⟨before, after, rfl⟩ := List.append_of_mem hmem
      have hlength := congrArg List.length h
      rw [List.splitOn_append_cons_self, List.length_append] at hlength
      have hbefore := length_splitOn_pos sep before
      have hafter := length_splitOn_pos sep after
      simp only [List.length_singleton] at hlength
      omega
    rw [List.splitOn_eq_singleton hmem] at h
    exact ⟨hmem, (List.singleton_inj.1 h).symm⟩
  · rintro ⟨hmem, rfl⟩
    exact List.splitOn_eq_singleton hmem

/-- Two texts put together with a separator are split into two just if neither contains it. -/
private theorem splitOn_eq_pair_iff :
    (a ++ sep :: b).splitOn sep = [x, y] ↔ (sep ∉ a ∧ x = a) ∧ sep ∉ b ∧ y = b := by
  rw [List.splitOn_append_cons_self, ← splitOn_eq_singleton_iff, ← splitOn_eq_singleton_iff]
  constructor
  · intro h
    have hlength := congrArg List.length h
    have ha := length_splitOn_pos sep a
    have hb := length_splitOn_pos sep b
    simp only [List.length_append, List.length_cons, List.length_nil] at hlength
    obtain ⟨x', hx'⟩ := List.length_eq_one_iff.1 (show (a.splitOn sep).length = 1 by omega)
    obtain ⟨y', hy'⟩ := List.length_eq_one_iff.1 (show (b.splitOn sep).length = 1 by omega)
    rw [hx', hy'] at h ⊢
    simpa using h
  · rintro ⟨ha, hb⟩
    rw [ha, hb]
    rfl

end

namespace Binding

/-- What a binding says just as it is written: no slash, no blank at the ends, and not nothing. -/
def Legible (part : String) : Prop := '/' ∉ part.toList ∧ Text.trim part = part ∧ part ≠ ""

instance (part : String) : Decidable (Legible part) := by unfold Legible; infer_instance

variable {space name space' name' : String}

/-- All that is ever read from a key. -/
theorem parse_objectKey_eq_ok_iff : parse (objectKey space name) = .ok (space', name') ↔
    ('/' ∉ space.toList ∧ '/' ∉ name.toList) ∧
      (space' = Text.trim space ∧ name' = Text.trim name) ∧ space' ≠ "" ∧ name' ≠ "" := by
  unfold parse
  rw [toList_objectKey]
  constructor
  · intro h
    split at h
    · rename_i x y hsplit
      obtain ⟨⟨hspace, rfl⟩, hname, rfl⟩ := splitOn_eq_pair_iff.1 hsplit
      dsimp only at h
      split at h
      · cases h
      · rename_i hne
        obtain ⟨rfl, rfl⟩ := Prod.mk.inj (Except.ok.inj h)
        rw [not_or] at hne
        exact ⟨⟨hspace, hname⟩, ⟨rfl, rfl⟩, hne⟩
    · cases h
  · rintro ⟨⟨hspace, hname⟩, ⟨rfl, rfl⟩, hne⟩
    rw [splitOn_eq_pair_iff.2 ⟨⟨hspace, rfl⟩, hname, rfl⟩]
    exact if_neg (not_or.2 hne)

/-- A key gives back the identity that it was made from just if both parts are legible. -/
theorem parse_objectKey_iff :
    parse (objectKey space name) = .ok (space, name) ↔ Legible space ∧ Legible name := by
  rw [parse_objectKey_eq_ok_iff]
  unfold Legible
  constructor
  · rintro ⟨⟨hspace, hname⟩, ⟨htrim, htrim'⟩, hne, hne'⟩
    exact ⟨⟨hspace, htrim.symm, hne⟩, hname, htrim'.symm, hne'⟩
  · rintro ⟨⟨hspace, htrim, hne⟩, hname, htrim', hne'⟩
    exact ⟨⟨hspace, hname⟩, ⟨htrim.symm, htrim'.symm⟩, hne, hne'⟩

/-- An identity without slashes has a key of its own. -/
theorem objectKey_inj (plain : '/' ∉ space.toList ∧ '/' ∉ name.toList)
    (heq : objectKey space name = objectKey space' name') : space = space' ∧ name = name' := by
  let i : Identity := ⟨space, name⟩
  let j : Identity := ⟨space', name'⟩
  have hkey : i.key = j.key := heq
  rcases Identity.key_eq_iff.1 hkey with hsame | hcollides
  · exact Identity.mk.inj hsame
  · exact absurd plain (Identity.exists_collides_iff.1 ⟨j, hcollides⟩)

end Binding

/-- Both parts of the identity are legible. -/
def Header.Legible (h : Header) : Prop := Binding.Legible h.space ∧ Binding.Legible h.name

instance (h : Header) : Decidable h.Legible := by unfold Header.Legible; infer_instance

namespace Claim

variable {claim : Claim} {s : Store} {m : Machine}

/-- The binding to a stored machine is read as that machine just if its identity is legible. -/
theorem boundMachine?_eq_some_iff (keyed : s.Keyed) (hm : s.machines.get? m.header.key = some m)
    (hb : claim.binding? = some m.header.key) :
    claim.boundMachine? s = some m ↔ m.header.Legible := by
  unfold boundMachine? Header.Legible
  rw [hb, ← Binding.parse_objectKey_iff]
  constructor
  · intro h
    split at h
    · rename_i space name hparsed
      have hparse : Binding.parse m.header.key = .ok (space, name) := Option.some.inj hparsed
      have hkey : m.header.key = objectKey space name := keyed .machine _ m h
      obtain ⟨hslash, -⟩ := Binding.parse_objectKey_eq_ok_iff.1 hparse
      obtain ⟨rfl, rfl⟩ := Binding.objectKey_inj hslash hkey
      exact hparse
    · cases h
  · intro h
    have hparsed : (some m.header.key).map Binding.parse =
        some (.ok (m.header.space, m.header.name)) := congrArg some h
    rw [hparsed]
    exact hm

theorem machine?_eq_boundMachine? (hid : claim.providerId = "") :
    claim.machine? s = claim.boundMachine? s := by
  unfold machine?
  exact if_neg (not_not_intro hid)

theorem stored_of_boundMachine? (keyed : s.Keyed) (h : claim.boundMachine? s = some m) :
    s.machines.get? m.header.key = some m := by
  have hm : ({ claim with providerId := "" } : Claim).machine? s = some m := h
  exact stored_of_machine? keyed hm

end Claim

namespace Provider

variable {p : Provider} {c : Claim} {s : Store} {m : Machine}

/-- A retry fills in the status from a machine, and so does a release without a provider id find
that machine. -/
structure ComesTo (p : Provider) (c : Claim) (s : Store) (m : Machine) : Prop where
  retry : ∀ now, (p.create c).alone now s = (p.finish c m).alone now s
  release : c.providerId = "" → ∀ now, (resolveMachine c).alone now s = (.ok m, s)

/-- A retry fails, and so does a release without a provider id. -/
structure ComesToNothing (p : Provider) (c : Claim) (s : Store) : Prop where
  retry : ∀ now, ∃ e, (p.create c).alone now s = (.error e, s)
  release : c.providerId = "" → ∀ now, ∃ e, (delete c).alone now s = (.error e, s)

theorem comesTo_of_boundMachine? (h : c.boundMachine? s = some m) : p.ComesTo c s m where
  retry now := alone_create_again p h now
  release hid now := alone_resolveMachine ((c.machine?_eq_boundMachine? hid).trans h) now

theorem comesToNothing_of_boundMachine? {b : String} (hb : c.binding? = some b)
    (h : c.boundMachine? s = none) : p.ComesToNothing c s where
  retry now := by
    obtain ⟨e, -, he⟩ := alone_create_lost p hb h now
    exact ⟨e, he⟩
  release hid now := by
    obtain ⟨e, he⟩ := alone_resolveMachine_of_none ((c.machine?_eq_boundMachine? hid).trans h) now
    refine ⟨e, ?_⟩
    unfold delete
    dsimp only
    rw [alone_exclusively]
    simp [Action.request, Program.answerAlone, he]

/-- A binding to a stored machine leads to it if its identity is legible, and otherwise to a machine
under another key or to nothing. -/
theorem comesTo_iff_legible (keyed : s.Keyed) (hm : s.machines.get? m.header.key = some m)
    (hb : c.binding? = some m.header.key) :
    (m.header.Legible → p.ComesTo c s m) ∧
      (¬ m.header.Legible → p.ComesToNothing c s ∨
        ∃ m', m'.header.key ≠ m.header.key ∧ p.ComesTo c s m') := by
  have hiff := Claim.boundMachine?_eq_some_iff keyed hm hb
  refine ⟨fun h => comesTo_of_boundMachine? (hiff.2 h), fun h => ?_⟩
  cases hfound : c.boundMachine? s with
  | none => exact .inl (comesToNothing_of_boundMachine? hb hfound)
  | some m' =>
    refine .inr ⟨m', fun hkey => ?_, comesTo_of_boundMachine? hfound⟩
    have hm' : s.machines.get? m'.header.key = some m' := c.stored_of_boundMachine? keyed hfound
    rw [hkey, hm] at hm'
    obtain rfl := Option.some.inj hm'
    exact h (hiff.1 hfound)

end Provider

namespace Readback

/-- A caller works while others operate on the store as they like. -/
def terms (me : Caller) : Terms := .beside Scene.Operated me

variable {me : Caller} {w : Scene} {claim : Claim}

/-- A caller has labelled a machine. -/
def Labelled (me : Caller) (u : Machine) (w : Scene) : Prop :=
  ∃ s, .ofMachine s me u ∈ w.writes me .machine

/-- The one claim that a caller has written is its claim, bound to a machine that it has labelled. -/
def Bound (me : Caller) (claim : Claim) (w : Scene) : Prop :=
  ∃ u s, w.writes me .claim = [.ofClaim s me (claim.bound u.header.key)] ∧
    u.isMember = true ∧ Labelled me u w

theorem personal : (terms me).Personal := fun _ _ step => by
  obtain ⟨client, op⟩ := step
  exact Scene.doings_operate client op

theorem lasting_unwritten : (terms me).Lasting fun w => w.writes me .claim = [] :=
  personal.lasting_writes .claim []

theorem lasting_labelled (u : Machine) : (terms me).Lasting (Labelled me u) :=
  .of_passes fun _ _ hw ⟨s, hs⟩ =>
    ⟨s, (personal.lasting_writes .machine _).passes hw rfl ▸ hs⟩

theorem lasting_bound (claim : Claim) : (terms me).Lasting (Bound me claim) :=
  .of_passes fun _ _ hw ⟨u, s, hwrites, hmember, hlabelled⟩ =>
    ⟨u, s, (personal.lasting_writes .claim _).passes hw hwrites, hmember,
      (lasting_labelled u).passes hw hlabelled⟩

/-- What a creation has written when it has come to an end, however that was. -/
def Final (me : Caller) (claim : Claim) (w : Scene) : Prop :=
  w.writes me .claim = [] ∨ Bound me claim w

theorem lasting_final (claim : Claim) : (terms me).Lasting (Final me claim) :=
  .of_passes fun _ _ hw h =>
    h.imp (lasting_unwritten.passes hw) ((lasting_bound claim).passes hw)

/-- A creation among other clients, by the claim that it writes and the machine that it labels. -/
def outline (me : Caller) (p : Provider) (claim : Claim) : CreateOutline (terms me) p claim where
  chosen _ := True
  idle w := w.writes me .claim = []
  knowsGroup _ _ _ := True
  knows _ _ _ := True
  reserved _ w := w.writes me .claim = []
  labelled r w := w.writes me .claim = [] ∧
    ∀ m ∈ r.machine, ∃ u, m = Kind.machine.bump u ∧ u.isMember = true ∧ Labelled me u w
  undoing _ w := w.writes me .claim = []
  released _ w := w.writes me .claim = []
  final _ := Final me claim
  lasting_idle := lasting_unwritten
  lasting_knowsGroup _ _ := .const _ _
  lasting_knows _ _ := .const _ _
  lasting_reserved _ := lasting_unwritten
  lasting_labelled r := lasting_unwritten.and <| .all fun m => .of_passes fun w w' hw h hm => by
    obtain ⟨u, hu, hmember, hlabelled⟩ := h hm
    exact ⟨u, hu, hmember, (lasting_labelled u).passes hw hlabelled⟩
  lasting_undoing _ := lasting_unwritten
  lasting_released _ := lasting_unwritten
  lasting_final _ := lasting_final claim
  choose _ _ _ _ _ _ := trivial
  stop _ _ _ h := .inl h
  readGroup _ _ _ _ _ := trivial
  raise τ g b w _ h _ _ _ _ := ⟨trivial, Scene.writes_writeGroup_of_ne nofun h⟩
  list _ _ _ _ _ _ := trivial
  label r m w h hfree _ current := by
    refine ⟨trivial, Scene.writes_writeMachine_of_ne nofun h, fun m' hm' => ?_⟩
    obtain rfl : Kind.machine.bump m.joined = m' := Option.some.inj hm'
    refine ⟨m.joined, rfl, m.isMember_joined, w.store, ?_⟩
    have hwrites : (w.writeMachine me m.joined).writes me .machine = _ :=
      Scene.writes_writeMachine current rfl
    show Event.ofMachine w.store me m.joined ∈ (w.writeMachine me m.joined).writes me .machine
    rw [hwrites]
    exact List.mem_cons_self
  refuse r m activity error w h _ _ := lasting_unwritten.quiet w _ _ (.inr ⟨_, rfl⟩) h
  bind r m τ w h hr _ current := by
    obtain ⟨u, rfl, hmember, s, hs⟩ := h.2 m hr
    refine ⟨trivial, .inr ⟨u, w.store, Scene.writes_writeClaim current h.1, hmember, s, ?_⟩⟩
    have hsame : (w.writeClaim me (claim.bound u.header.key)).writes me .machine = _ :=
      Scene.writes_writeClaim_of_ne nofun rfl
    show Event.ofMachine s me u ∈
      (w.writeClaim me (claim.bound u.header.key)).writes me .machine
    rw [hsame]
    exact hs
  giveUp _ _ h _ := h
  abandon _ _ h := h.1
  reread _ _ _ _ _ _ _ := trivial
  empty _ _ h _ := h
  gone _ _ _ h _ _ := h
  clean _ _ _ _ h _ _ _ _ := h
  release _ _ _ _ _ h _ _ _ _ := ⟨trivial, Scene.writes_writeMachine_of_ne nofun h⟩
  stuck _ _ _ _ h := .inl h
  rereadGroup _ _ _ _ _ := trivial
  restore _ _ _ _ _ h _ _ := ⟨trivial, .inl (Scene.writes_writeGroup_of_ne nofun h)⟩
  half _ _ _ _ h := .inl h

end Readback

/-- Whatever others do and whatever calls fail: a claim that a creation writes is bound to a machine
that the creation has labelled. This binding is read as the identity of the machine just if that is
legible, and then it leads to the machine wherever that is stored; otherwise it never does. -/
theorem binding_reads_back_iff {p : Provider} {claim : Claim} {s : Store} {me : Caller}
    {x : Except Failure Claim} {w : Scene}
    (run : (p.create claim).Ends me Scene.Operated (.start s) x w) :
    ∀ e ∈ w.writes me .claim, ∃ u, e = .ofClaim e.before me (claim.bound u.header.key) ∧
      u.isMember = true ∧ Readback.Labelled me u w ∧
      (Binding.parse u.header.key = .ok (u.header.space, u.header.name) ↔ u.header.Legible) ∧
      ∀ (s' : Store) (m : Machine) (c : Claim), s'.Keyed → m.header.space = u.header.space →
        m.header.name = u.header.name → s'.machines.get? m.header.key = some m →
        c.binding? = some u.header.key →
        (u.header.Legible → p.ComesTo c s' m) ∧
          (¬ u.header.Legible → p.ComesToNothing c s' ∨
            ∃ m', m'.header.key ≠ m.header.key ∧ p.ComesTo c s' m') := by
  let o := Readback.outline me p claim
  have ensures : (p.create claim).Ensures (Readback.terms me) (fun _ => Readback.Final me claim)
      (.start s) :=
    o.ensures_create o.lasting_idle rfl (fun _ _ _ h => .inl h) (fun _ h _ => ⟨trivial, h⟩)
      (fun _ _ _ h => .inl h) fun _ _ h => ⟨trivial, h⟩
  intro e he
  obtain hnone | ⟨u, s₁, hwrites, hmember, hlabelled⟩ := ensures.of_ends run
  · rw [hnone] at he
    cases he
  · rw [hwrites] at he
    obtain rfl := List.mem_singleton.1 he
    refine ⟨u, rfl, hmember, hlabelled, Binding.parse_objectKey_iff, ?_⟩
    intro s' m c keyed hspace hname hm hb
    have hkey : m.header.key = u.header.key := by simp only [Header.key, hspace, hname]
    have hlegible : m.header.Legible ↔ u.header.Legible := by
      simp only [Header.Legible, hspace, hname]
    rw [← hlegible]
    exact Provider.comesTo_iff_legible keyed hm (hkey ▸ hb)

/-- A small store in the empty name space. Its machine has no provider id yet. -/
def Store.nameless : Store :=
  (((((∅ : Store).put .capacityClass (Kind.capacityClass.bump (.new "small" none))).put .group
    (Kind.group.bump (.new "" "workers" (some 1)))).put .machine
    (Kind.machine.bump (.new "" "worker-1" "workers"))).put .claim (Kind.claim.bump .sample))

/-- The claim is bound to the machine in the empty name space, but the binding does not lead to it. -/
theorem binding_reads_back_iff_nameless :
    ∃ w e u, (Provider.sample.create (Kind.claim.bump .sample)).Ends ⟨0, 0⟩ Scene.Operated
        (.start .nameless) (.error (.missingProviderId "/worker-1")) w ∧
      e ∈ w.writes ⟨0, 0⟩ .claim ∧
      e = .ofClaim e.before ⟨0, 0⟩ ((Kind.claim.bump .sample).bound u.header.key) ∧
      Readback.Labelled ⟨0, 0⟩ u w ∧ u.header.key = "/worker-1" ∧ ¬ u.header.Legible := by
  have run : (Provider.sample.create (Kind.claim.bump .sample)).Ends ⟨0, 0⟩ Scene.Operated
      (.start .nameless) (.error (.missingProviderId "/worker-1")) _ :=
    Program.ends_advance ⟨0, 0⟩ Scene.Operated 0 14 (Program.eq_of_hasFailed (by decide +kernel))
  generalize hw : Prod.snd _ = w at run
  have hfeats : (w.writes ⟨0, 0⟩ .claim).map (·.feat? ⟨0, 0⟩) = [some (.bind, "/worker-1")] := by
    rw [← hw]
    decide +kernel
  obtain ⟨e, hwrites, hfeat⟩ := List.map_eq_singleton_iff.1 hfeats
  have hmem : e ∈ w.writes ⟨0, 0⟩ .claim := by simp [hwrites]
  obtain ⟨u, he, -, hlabelled, hparse, -⟩ := binding_reads_back_iff run e hmem
  have hkey : u.header.key = "/worker-1" := by
    rw [he, Event.feat?_ofClaim] at hfeat
    simpa using hfeat
  have hillegible : ¬ u.header.Legible := by
    rw [← hparse, hkey]
    intro h
    have herror : Binding.parse "/worker-1" = .error (.invalidBinding "/worker-1") := by
      decide +kernel
    cases herror.symm.trans h
  exact ⟨w, e, u, run, hmem, he, hlabelled, hkey, hillegible⟩

/-- A creation binds the claim and then asks for another try once the machine has a provider id; but
neither that nor a release can read the binding. -/
theorem binding_lost :
    ∃ s c u, (Provider.sample.create (Kind.claim.bump .sample)).alone 0 .nameless =
        (.error (.missingProviderId "/worker-1"), s) ∧
      s.lookup .claim Claim.sample.header.key = .ok c ∧ c.binding? = some u.header.key ∧
      s.machines.get? u.header.key = some u ∧ (u.header.space, u.header.name) = ("", "worker-1") ∧
      Binding.parse u.header.key ≠ .ok (u.header.space, u.header.name) ∧
      ∀ s', s' = s.put .machine (Kind.machine.bump { u with providerId := some "vm-1" }) →
        (Provider.sample.create c).alone 0 s' = (.error (.invalidBinding "/worker-1"), s') ∧
        (Provider.delete c).alone 0 s' = (.error (.invalidBinding "/worker-1"), s') := by
  refine ⟨((Provider.sample.create (Kind.claim.bump .sample)).alone 0 .nameless).2,
    Kind.claim.bump ((Kind.claim.bump .sample).bound "/worker-1"),
    Kind.machine.bump (Kind.machine.bump (.new "" "worker-1" "workers")).joined,
    by decide +kernel, by decide +kernel, by decide +kernel, by decide +kernel, by decide +kernel,
    by decide +kernel, ?_⟩
  rintro _ rfl
  exact ⟨by decide +kernel, by decide +kernel⟩

end MachineClaims
