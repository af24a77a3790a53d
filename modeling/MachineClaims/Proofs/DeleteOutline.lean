import MachineClaims.Proofs.Labels
import MachineClaims.Proofs.CreateOutline
import MachineClaims.Provider.Delete

/-!
# Outlines of a release

The counterpart of an outline of a creation. The points are:

* `idle` until the machine has been resolved,
* `found` from then until its group is known,
* `owned` until the machine carries the mark,
* `marked` until the replica count is lowered, or the mark that was set here is taken off again.
-/

namespace MachineClaims

/-- What holds at the points of a release. -/
structure DeleteOutline (t : Terms) (claim : Claim) where
  idle : Scene → Prop
  found : Machine → Scene → Prop
  owned : Machine → MachineGroup → Scene → Prop
  /-- The flag tells whether the mark was set here. -/
  marked : Machine → MachineGroup → Bool → Scene → Prop
  final : Except Failure Unit → Scene → Prop
  lasting_idle : t.Lasting idle
  lasting_found : ∀ m, t.Lasting (found m)
  lasting_owned : ∀ m g, t.Lasting (owned m g)
  lasting_marked : ∀ m g fresh, t.Lasting (marked m g fresh)
  lasting_final : ∀ x, t.Lasting (final x)
  stop : ∀ e w, e.plain → idle w → final (.error e) w
  find : ∀ m w, claim.providerId ≠ "" → idle w →
    w.store.machines.values.find? (·.providerId == some claim.providerId) = some m → found m w
  get : ∀ b space name m w, claim.providerId = "" → claim.binding? = some b →
    Binding.parse b = .ok (space, name) → idle w →
    w.store.machines.get? (objectKey space name) = some m → found m w
  going : ∀ m w, found m w → m.isDeleting = true → final (.ok ()) w
  lost : ∀ m e w, e.plain → found m w → final (.error e) w
  own : ∀ m name g w, found m w → m.isDeleting = false → m.owner? = some name →
    w.store.groups.get? (objectKey m.header.space name) = some g → owned m g w
  keep : ∀ m g e w, e.plain → owned m g w → final (.error e) w
  already : ∀ m g n w, owned m g w → g.replicas = some (n + 1) → m.isMarked = true →
    marked m g false w
  mark : ∀ m g n now w, owned m g w → g.replicas = some (n + 1) → m.isMarked = false →
    w.store.Current .machine m →
    t.guarantee w (w.writeMachine t.caller (m.marked (Text.decimal now))) ∧
      marked (Kind.machine.bump (m.marked (Text.decimal now))) g true
        (w.writeMachine t.caller (m.marked (Text.decimal now)))
  lower : ∀ m g n fresh w, marked m g fresh w → g.replicas = some (n + 1) →
    w.store.Current .group g →
    t.guarantee w (w.writeGroup t.caller (g.scaled n)) ∧
      final (.ok ()) (w.writeGroup t.caller (g.scaled n))
  leave : ∀ m g e w, e.plain → marked m g false w → final (.error e) w
  unmark : ∀ m g e w, e.plain → marked m g true w → w.store.Current .machine m →
    t.guarantee w (w.writeMachine t.caller m.unmarked) ∧
      final (.error e) (w.writeMachine t.caller m.unmarked)
  stuck : ∀ m g e cleanup w, marked m g true w → final (.error (.compensationFailed e cleanup)) w

namespace DeleteOutline

open MachineClaims.Action

variable {t : Terms} {claim : Claim} (o : DeleteOutline t claim) {w : Scene}

/-- What is known when the machine has been looked up. -/
def looked : Option Machine → Scene → Prop
  | none, w => o.idle w
  | some m, w => o.found m w

theorem lasting_looked (x : Option Machine) : t.Lasting (o.looked x) := by
  cases x with
  | none => exact o.lasting_idle
  | some m => exact o.lasting_found m

theorem ensures_resolveMachine (h : o.idle w) :
    (Provider.resolveMachine claim).Ensures t (Either o.found o.idle) w := by
  unfold Provider.resolveMachine
  dsimp only
  split
  · rename_i hid
    refine Ensures.bind (ensures_findMachine o.lasting_idle o.lasting_looked h fun w h => ?_)
      (fun x w h => ?_) fun e w he h => ⟨he, h⟩
    · cases hfind : w.store.machines.values.find? (·.providerId == some claim.providerId) with
      | none => exact h
      | some m => exact o.find m w hid h hfind
    · cases x with
      | none => exact ⟨rfl, h⟩
      | some m => exact h
  · rename_i hid
    cases hb : claim.binding? with
    | none => exact ⟨rfl, h⟩
    | some b =>
      dsimp only
      rw [Action.ensures_bind, Action.ensures_ofExcept]
      cases hparse : Binding.parse b with
      | error e => exact ⟨Binding.plain_of_parse_error hparse, h⟩
      | ok place =>
        obtain ⟨space, name⟩ := place
        refine Ensures.bind (ensures_getMachine o.lasting_idle o.lasting_looked h fun w h => ?_)
          (fun x w h => ?_) fun e w he h => ⟨he, h⟩
        · cases hget : w.store.machines.get? (objectKey space name) with
          | none => exact h
          | some m => exact o.get b space name m w (Decidable.of_not_not hid) hb hparse h hget
        · cases x with
          | none => exact ⟨rfl, h⟩
          | some m => exact h

theorem ensures_mark {m : Machine} {g : MachineGroup} {n : Nat} (hg : g.replicas = some (n + 1))
    (h : o.owned m g w) : (Provider.mark m).Ensures t
      (Either (fun x w => x.1.isMarked = true ∧ o.marked x.1 g x.2 w) (o.owned m g)) w := by
  unfold Provider.mark
  split
  · rename_i hmarked
    exact ⟨hmarked, o.already m g n w h hg hmarked⟩
  · rename_i hmarked
    rw [Bool.not_eq_true] at hmarked
    refine (Action.ensures_bind ..).2 (ensures_clock (o.lasting_owned m g) h fun now w h => ?_)
    refine Ensures.bind (ensures_updateMachine (o.lasting_owned m g) h
      (fun w h hcurrent => o.mark m g n now w h hg hmarked hcurrent)
      fun w activity error h => (o.lasting_owned m g).quiet w _ _ (.inr ⟨_, rfl⟩) h)
      (fun m' w h => ?_) fun e w he h => ⟨he, h⟩
    obtain ⟨rfl, h⟩ := h
    exact ⟨Machine.isMarked_marked m _, h⟩

theorem ensures_lower {m : Machine} {g : MachineGroup} {n : Nat} {fresh : Bool}
    (hg : g.replicas = some (n + 1)) (hmarked : m.isMarked = true) (h : o.marked m g fresh w) :
    (Provider.lower g (n + 1) m fresh).Ensures t o.final w := by
  unfold Provider.lower
  rw [Action.ensures_bind, Action.ensures_outcome]
  refine (ensures_updateGroup (o.lasting_marked m g fresh) h
    fun w h hcurrent => o.lower m g n fresh w h hg hcurrent).mono fun x w h => ?_
  cases x with
  | ok _ => exact h
  | error primary =>
    obtain ⟨he, h⟩ := h
    cases fresh with
    | false => exact o.leave m g primary w he h
    | true =>
      dsimp only [andThen]
      rw [if_pos rfl, Action.ensures_bind, Action.ensures_outcome, Provider.unmark, if_pos hmarked]
      rw [Action.ensures_bind]
      refine (ensures_updateMachine (o.lasting_marked m g true) h
        (fun w h hcurrent => o.unmark m g primary w he h hcurrent)
        fun w activity error h => (o.lasting_marked m g true).quiet w _ _ (.inr ⟨_, rfl⟩) h).mono
        fun x w h => ?_
      cases x with
      | ok _ => exact h.2
      | error cleanup => exact o.stuck m g primary cleanup w h.2

/-- A whole release, from before its turn until after it. -/
theorem ensures_delete {P : Scene → Prop} {post : Except Failure Unit → Scene → Prop}
    (hP : t.Lasting P) (h : P w) (missed : ∀ e w, e.plain → P w → post (.error e) w)
    (enter : ∀ w, P w → (∀ c ∈ w.holders, c.provider ≠ t.caller.provider) →
      t.guarantee w { w with holders := t.caller :: w.holders } ∧
        o.idle { w with holders := t.caller :: w.holders })
    (leave : ∀ x w, o.final x w →
      t.guarantee w { w with holders := w.holders.filter (· ≠ t.caller) } ∧
        post x { w with holders := w.holders.filter (· ≠ t.caller) }) :
    (Provider.delete claim).Ensures t post w := by
  unfold Provider.delete
  refine Provider.ensures_exclusively hP h (fun w h => missed _ w rfl h) o.lasting_final
    (fun w h hfree => ?_) leave
  obtain ⟨kept, h⟩ := enter w h hfree
  refine ⟨kept, (Action.ensures_bind ..).2 (ensures_cancelled o.lasting_idle h fun x w h => ?_)⟩
  cases x with
  | true => exact o.stop _ w rfl h
  | false =>
    refine Ensures.bind (o.ensures_resolveMachine h) (fun m w h => ?_) o.stop
    split
    · rename_i hgoing
      exact o.going m w h hgoing
    · rename_i hgoing
      rw [Bool.not_eq_true] at hgoing
      refine Ensures.bind (Provider.ensures_owningGroup (o.lasting_found m) (o.lasting_owned m) h
        fun name g w hname h hg => o.own m name g w h hgoing hname hg) (fun g w h => ?_)
        (o.lost m)
      cases hg : g.replicas with
      | none => exact o.keep m g _ w rfl h
      | some replicas =>
        cases replicas with
        | zero => exact o.keep m g _ w rfl h
        | succ n =>
          exact Ensures.bind (o.ensures_mark hg h) (fun x w h => o.ensures_lower hg h.1 h.2)
            (o.keep m g)

end DeleteOutline
end MachineClaims
