import MachineClaims.Proofs.Alone
import MachineClaims.Proofs.Scaling
import MachineClaims.Proofs.Doings

/-!
# Counts at their limits

A creation that has chosen a group with the largest count there is fails and writes nothing, and so
does a release whose group counts no replica; whatever else is written meanwhile.
-/

namespace MachineClaims

/-- A client operates on the store, but leaves the tables of some kinds as they are. -/
inductive Scene.Beside (kinds : List Kind) : Scene → Scene → Prop where
  | mk {w : Scene} (client : Caller) (op : Store.Operation)
    (same : ∀ k ∈ kinds, (op.perform w.store).2.table k = w.store.table k) :
    Beside kinds w (w.operate client op)

theorem Claim.machine?_congr (claim : Claim) {s s' : Store} (machines : s'.machines = s.machines) :
    claim.machine? s' = claim.machine? s := by
  unfold machine?
  rw [machines]

theorem Store.replicas_congr {s s' : Store} (groups : s'.groups = s.groups) (key : String) :
    s'.replicas key = s.replicas key := by
  unfold replicas
  rw [groups]

namespace Refusing

/-- A caller works beside clients that leave the tables of some kinds as they are. -/
def terms (kinds : List Kind) (me : Caller) : Terms := .beside (Scene.Beside kinds) me

/-- Some tables are as they were, and the caller has changed nothing. -/
structure Still (kinds : List Kind) (s : Store) (me : Caller) (w : Scene) : Prop where
  same : ∀ k ∈ kinds, w.store.table k = s.table k
  nothing : w.Passive me

variable {kinds : List Kind} {s : Store} {me : Caller} {w : Scene}

theorem still_start : Still kinds s me (.start s) :=
  ⟨fun _ _ => rfl, fun _ he => absurd he List.not_mem_nil⟩

theorem lasting_still : (terms kinds me).Lasting (Still kinds s me) where
  stable w w' h step := by
    obtain ⟨client, op, same⟩ := step
    exact ⟨fun k hk => (same k hk).trans (h.same k hk), h.nothing.operate client op⟩
  quiet _ _ _ _ h := ⟨h.same, h.nothing.record _⟩

/-- A call has failed in a still scene. -/
def Final {α : Type} (kinds : List Kind) (s : Store) (me : Caller) (x : Except Failure α)
    (w : Scene) : Prop :=
  (∃ e, x = .error e) ∧ Still kinds s me w

/-- A creation whose group cannot grow never gets as far as a reservation. -/
def creation (me : Caller) {p : Provider} {claim : Claim} {τ : MachineType}
    (chosen : p.chosen? claim s s = some τ)
    (full : s.replicas (objectKey τ.groupSpace τ.groupName) = some maxReplicas) :
    CreateOutline (terms [.group, .capacityClass] me) p claim where
  chosen τ' := τ' = τ
  idle := Still [.group, .capacityClass] s me
  knowsGroup key g _ := s.replicas key = g.replicas
  knows _ _ _ := True
  reserved _ _ := False
  labelled _ _ := False
  undoing _ _ := False
  released _ _ := False
  final := Final [.group, .capacityClass] s me
  lasting_idle := lasting_still
  lasting_knowsGroup _ _ := .const _ _
  lasting_knows _ _ := .const _ _
  lasting_reserved _ := .const _ _
  lasting_labelled _ := .const _ _
  lasting_undoing _ := .const _ _
  lasting_released _ := .const _ _
  lasting_final _ := (Terms.Lasting.const _ _).and lasting_still
  choose τ' w₁ w₂ h₁ h₂ hτ := by
    have hsame := p.chosen?_congr claim (h₁.same .capacityClass (by decide))
      (h₂.same .group (by decide))
    exact Option.some.inj ((hτ.symm.trans hsame).trans chosen)
  stop e _ _ h := ⟨⟨e, rfl⟩, h⟩
  readGroup key g w h hg := by
    rw [← Store.replicas_congr (h.same .group (by decide)), Store.replicas, hg]
    rfl
  -- no request gets through: the group that was read has the largest count
  raise τ' g b w hτ _ hg hb hmax _ := by
    subst hτ
    have hfull : some b = some maxReplicas := hb.symm.trans (hg.symm.trans full)
    exact absurd (Option.some.inj hfull) hmax
  list _ _ _ h := h.elim
  label _ _ _ h := h.elim
  refuse _ _ _ _ _ h := h.elim
  bind _ _ _ _ h := h.elim
  giveUp _ _ h := h.elim
  abandon _ _ h := h
  reread _ _ _ _ h := h.elim
  empty _ _ h _ := h
  gone _ _ _ h _ _ := h
  clean _ _ _ _ h _ _ _ _ := h
  release _ _ _ _ _ h := h.elim
  stuck _ _ _ _ h := h.elim
  rereadGroup _ _ _ h := h.elim
  restore _ _ _ _ _ h := h.elim
  half _ _ _ _ h := h.elim

/-- A release whose group counts no replica never gets as far as a mark. -/
def release (me : Caller) {claim : Claim} {m : Machine} {owner : String}
    (resolved : claim.machine? s = some m) (staying : m.isDeleting = false)
    (owned : m.owner? = some owner)
    (empty : s.replicas (objectKey m.header.space owner) = some 0) :
    DeleteOutline (terms [.group, .machine] me) claim where
  idle := Still [.group, .machine] s me
  found m' w := m' = m ∧ Still [.group, .machine] s me w
  owned _ g w := g.replicas = some 0 ∧ Still [.group, .machine] s me w
  marked _ _ _ _ := False
  final := Final [.group, .machine] s me
  lasting_idle := lasting_still
  lasting_found _ := (Terms.Lasting.const _ _).and lasting_still
  lasting_owned _ _ := (Terms.Lasting.const _ _).and lasting_still
  lasting_marked _ _ _ := .const _ _
  lasting_final _ := (Terms.Lasting.const _ _).and lasting_still
  stop e _ _ h := ⟨⟨e, rfl⟩, h⟩
  find m' w hid h hfind := by
    have hsame := claim.machine?_congr (h.same .machine (by decide))
    rw [Claim.machine?_of_find hid hfind] at hsame
    exact ⟨Option.some.inj (hsame.trans resolved), h⟩
  get b space name m' w hid hb hparse h hm := by
    have hsame := claim.machine?_congr (h.same .machine (by decide))
    rw [Claim.machine?_of_get hid hb hparse hm] at hsame
    exact ⟨Option.some.inj (hsame.trans resolved), h⟩
  going m' w h hgoing := by
    rw [h.1, staying] at hgoing
    cases hgoing
  lost _ e _ _ h := ⟨⟨e, rfl⟩, h.2⟩
  own m' name g w h _ hname hg := by
    obtain ⟨rfl, h⟩ := h
    obtain rfl := Option.some.inj (owned.symm.trans hname)
    rw [← Store.replicas_congr (h.same .group (by decide)), Store.replicas, hg] at empty
    exact ⟨empty, h⟩
  keep _ _ e _ _ h := ⟨⟨e, rfl⟩, h.2⟩
  already _ _ _ _ h hn := nomatch h.1.symm.trans hn
  mark _ _ _ _ _ h hn := nomatch h.1.symm.trans hn
  lower _ _ _ _ _ h := h.elim
  leave _ _ _ _ _ h := h.elim
  unmark _ _ _ _ _ h := h.elim
  stuck _ _ _ _ _ h := h.elim

end Refusing

/-- Whatever calls fail and others write to machines and claims, a creation for a group with the
largest count fails and changes nothing. -/
theorem Provider.create_refused {p : Provider} {claim : Claim} {s : Store} {τ : MachineType}
    (unbound : claim.binding? = none) (chosen : p.chosen? claim s s = some τ)
    (full : s.replicas (objectKey τ.groupSpace τ.groupName) = some maxReplicas)
    {me : Caller} {x : Except Failure Claim} {w : Scene}
    (run : (p.create claim).Ends me (Scene.Beside [.group, .capacityClass]) (.start s) x w) :
    (∃ e, x = .error e) ∧ w.Passive me := by
  let o := Refusing.creation me chosen full
  have ensures : (p.create claim).Ensures (Refusing.terms [.group, .capacityClass] me)
      (Refusing.Final [.group, .capacityClass] s me) (.start s) :=
    o.ensures_create o.lasting_idle Refusing.still_start o.stop
      (fun _ h _ => ⟨trivial, h.same, h.nothing⟩) (fun bound _ _ _ => absurd unbound bound)
      fun _ _ h => ⟨trivial, h.1, h.2.same, h.2.nothing⟩
  obtain ⟨failed, still⟩ := ensures.of_ends run
  exact ⟨failed, still.nothing⟩

/-- Whatever calls fail and others write to claims and classes, a release of a machine that is to
stay fails and changes nothing if its group counts no replica. -/
theorem Provider.delete_refused {claim : Claim} {s : Store} {m : Machine} {owner : String}
    (resolved : claim.machine? s = some m) (staying : m.isDeleting = false)
    (owned : m.owner? = some owner)
    (empty : s.replicas (objectKey m.header.space owner) = some 0)
    {me : Caller} {x : Except Failure Unit} {w : Scene}
    (run : (delete claim).Ends me (Scene.Beside [.group, .machine]) (.start s) x w) :
    (∃ e, x = .error e) ∧ w.Passive me := by
  let o := Refusing.release me resolved staying owned empty
  have ensures : (delete claim).Ensures (Refusing.terms [.group, .machine] me)
      (Refusing.Final [.group, .machine] s me) (.start s) :=
    o.ensures_delete o.lasting_idle Refusing.still_start o.stop
      (fun _ h _ => ⟨trivial, h.same, h.nothing⟩) fun _ _ h => ⟨trivial, h.1, h.2.same, h.2.nothing⟩
  obtain ⟨failed, still⟩ := ensures.of_ends run
  exact ⟨failed, still.nothing⟩

end MachineClaims
