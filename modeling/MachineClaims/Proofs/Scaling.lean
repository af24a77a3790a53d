import MachineClaims.Proofs.CreateOutline
import MachineClaims.Proofs.Serve

/-!
# What a rollback writes over

The rollback of a creation reads the group again, so its write is based on the stored version; but
the count that it writes is the one remembered from before the request. Whatever others have made of
the count in between, it becomes one less than the request had made it
(`rollback_writes_remembered`). It is lowered by one just if it is still what the request had made
it.
-/

namespace MachineClaims

/-- A replica count that was written over another. -/
structure Scaling where
  key : String
  was : Option Nat
  now : Option Nat
deriving DecidableEq

/-- A count is lowered by one, and an absent count stays absent. -/
def Scaling.LowersByOne (x : Scaling) : Prop :=
  match x.was, x.now with
  | none, none => True
  | some was, some now => was = now + 1
  | _, _ => False

/-- The replica count of the group under a key. -/
def Store.replicas (s : Store) (key : String) : Option Nat := (s.groups.get? key).bind (·.replicas)

theorem Store.replicas_put_group (s : Store) (g : MachineGroup) (key : String) :
    (s.put .group g).replicas key = if key = g.header.key then g.replicas else s.replicas key := by
  have hput : (s.put .group g).groups.get? key = if key = g.header.key then some g else _ :=
    get?_table_put s .group g key
  rw [replicas, hput]
  split <;> rfl

/-- What a caller's call did to the replica count of a group. -/
def Event.scaling? (me : Caller) (e : Event) : Option Scaling :=
  match e.deed with
  | .call c (.updateGroup g) (.ok _) =>
    if c = me then
      some ⟨g.header.key, e.before.replicas g.header.key, e.after.replicas g.header.key⟩
    else none
  | _ => none

namespace Scene

/-- The replica counts that a caller has written, the last first. -/
def scalings (w : Scene) (me : Caller) : List Scaling := w.events.filterMap (·.scaling? me)

/-- How the replica count of the group under a key has changed, whoever did it, the last first. -/
def changes (w : Scene) (key : String) : List (Option Nat × Option Nat) :=
  (w.events.map fun e => (e.before.replicas key, e.after.replicas key)).filter fun x => x.1 ≠ x.2

/-- A client operates on the store. -/
inductive Operated : Scene → Scene → Prop where
  | mk {w : Scene} (client : Caller) (op : Store.Operation) : Operated w (w.operate client op)

variable {w w' : Scene} {me : Caller}

theorem scalings_quiet {c : Call} {x : Except Failure c.Result} (h : c.Quiet x) :
    (w.record (.call me c x) w.store).scalings me = w.scalings me := by
  have hnone : Event.scaling? me ⟨w.store, .call me c x, w.store⟩ = none := by
    obtain hreads | ⟨e, rfl⟩ := h
    · cases c <;> first | rfl | cases hreads
    · cases c <;> rfl
  simp [scalings, hnone]

theorem scalings_operated (h : w.Operated w') : w'.scalings me = w.scalings me := by
  obtain ⟨client, op⟩ := h
  rfl

theorem scalings_writeGroup (g : MachineGroup) : (w.writeGroup me g).scalings me =
    ⟨g.header.key, w.store.replicas g.header.key, g.replicas⟩ :: w.scalings me := by
  have hafter : (w.writeGroup me g).store.replicas g.header.key = g.replicas :=
    (Store.replicas_put_group ..).trans (if_pos rfl)
  rw [← hafter]
  simp [scalings, writeGroup, Event.scaling?]

end Scene

namespace Remembering

/-- A caller works while others operate on the store as they like. -/
def terms (me : Caller) : Terms where
  caller := me
  rely := Scene.Operated
  guarantee _ _ := True
  rests _ := trivial
  quiet _ _ _ _ := trivial

theorem lasting (me : Caller) (P : List Scaling → Prop) :
    (terms me).Lasting fun w => w.store.Keyed ∧ P (w.scalings me) where
  stable w w' h hw := by
    refine ⟨?_, Scene.scalings_operated hw ▸ h.2⟩
    obtain ⟨client, op⟩ := hw
    exact h.1.perform op
  quiet w c x hx h := by
    refine ⟨h.1, ?_⟩
    rw [terms, Scene.scalings_quiet hx]
    exact h.2

/-- The counts that a creation has written when it has undone itself. -/
def Undone (l : List Scaling) : Prop :=
  l = [] ∨ ∃ undo raise b, l = [undo, raise] ∧ undo.key = raise.key ∧ raise.now = some (b + 1) ∧
    undo.now = some b ∧ (undo.LowersByOne ↔ undo.was = raise.now)

theorem undone_of_remembered {key : String} {was was' : Option Nat} {b : Nat} :
    Undone [⟨key, was', some b⟩, ⟨key, was, some (b + 1)⟩] := by
  refine .inr ⟨_, _, b, rfl, rfl, rfl, rfl, ?_⟩
  cases was' with
  | none => simp [Scaling.LowersByOne]
  | some n => simp [Scaling.LowersByOne]

/-- The one count that was written is one more than the remembered one. -/
def Raised (r : Reservation) (l : List Scaling) : Prop :=
  ∃ was, l = [⟨r.key, was, some (r.baseline + 1)⟩]

def Final : Except Failure Claim → List Scaling → Prop
  | .ok _, _ => True
  | .error e, l => e.plain → Undone l

/-- A creation among other clients, by the replica counts that it writes. -/
def outline (me : Caller) (p : Provider) (claim : Claim) : CreateOutline (terms me) p claim where
  chosen _ := True
  idle w := w.store.Keyed ∧ w.scalings me = []
  knowsGroup key g _ := g.header.key = key
  knows _ _ _ := True
  reserved r w := w.store.Keyed ∧ Raised r (w.scalings me)
  labelled r w := w.store.Keyed ∧ Raised r (w.scalings me)
  undoing r w := w.store.Keyed ∧ Raised r (w.scalings me)
  released r w := w.store.Keyed ∧ Raised r (w.scalings me)
  final x w := w.store.Keyed ∧ Final x (w.scalings me)
  lasting_idle := lasting me (· = [])
  lasting_knowsGroup _ _ := .const _ _
  lasting_knows _ _ := .const _ _
  lasting_reserved r := lasting me (Raised r)
  lasting_labelled r := lasting me (Raised r)
  lasting_undoing r := lasting me (Raised r)
  lasting_released r := lasting me (Raised r)
  lasting_final x := lasting me (Final x)
  choose _ _ _ _ _ _ := trivial
  stop e w _ h := ⟨h.1, fun _ => .inl h.2⟩
  readGroup key g w h hg := h.1 .group key g hg
  raise τ g b w _ h hkey hb _ _ := by
    refine ⟨trivial, Scene.keyed_writeGroup h.1, w.store.replicas g.header.key, ?_⟩
    rw [terms, Scene.scalings_writeGroup, h.2]
    exact congrArg (fun key => [Scaling.mk key (w.store.replicas g.header.key) (some (b + 1))]) hkey
  list _ _ _ _ _ _ := trivial
  label r m w h _ _ _ := ⟨trivial, Scene.keyed_writeMachine h.1, h.2⟩
  refuse r m activity error w h _ _ := by
    refine ⟨h.1, ?_⟩
    rw [terms, Scene.scalings_quiet (.inr ⟨_, rfl⟩)]
    exact h.2
  bind r m τ w h _ _ _ := by
    refine ⟨trivial, Scene.keyed_writeClaim h.1, ?_⟩
    unfold Provider.populate
    split
    · exact nofun
    · trivial
  giveUp _ _ h _ := h
  abandon _ _ h := h
  reread _ _ _ _ _ _ _ := trivial
  empty _ _ h _ := h
  gone _ _ _ h _ _ := h
  clean _ _ _ _ h _ _ _ _ := h
  release r m known now w h _ _ _ _ := ⟨trivial, Scene.keyed_writeMachine h.1, h.2⟩
  stuck _ _ _ _ h := ⟨h.1, nofun⟩
  rereadGroup r g w h hg := h.1 .group r.key g hg
  restore r e g w _ h hkey _ := by
    obtain ⟨keyed, was, hraised⟩ := h
    refine ⟨trivial, Scene.keyed_writeGroup keyed, fun _ => ?_⟩
    rw [terms, Scene.scalings_writeGroup, hraised]
    show Undone [⟨g.header.key, _, some r.baseline⟩, _]
    rw [hkey]
    exact undone_of_remembered
  half _ _ _ _ h := ⟨h.1, nofun⟩

end Remembering

/-- A creation that fails and undoes itself has written no replica count, or two: one for the
request and, over whatever others have made of it, the one remembered from before. -/
theorem rollback_writes_remembered {p : Provider} {claim : Claim} {me : Caller} {w w' : Scene}
    {e : Failure} (keyed : w.store.Keyed) (fresh : w.scalings me = [])
    (run : (p.create claim).Ends me Scene.Operated w (.error e) w') (undone : e.plain) :
    w'.scalings me = [] ∨ ∃ undo raise b, w'.scalings me = [undo, raise] ∧ undo.key = raise.key ∧
      raise.now = some (b + 1) ∧ undo.now = some b ∧
      (undo.LowersByOne ↔ undo.was = raise.now) := by
  let o := Remembering.outline me p claim
  have idle : o.idle w := ⟨keyed, fresh⟩
  have ensures : (p.create claim).Ensures (Remembering.terms me)
      (fun x w' => w'.store.Keyed ∧ Remembering.Final x (w'.scalings me)) w := by
    refine o.ensures_create o.lasting_idle idle (fun e w' he h => o.stop e w' he h)
      (fun w' h _ => ⟨trivial, h⟩) (fun _ x w' h => ⟨h.1, ?_⟩) fun x w' h => ⟨trivial, h⟩
    cases x with
    | ok _ => trivial
    | error e => exact fun _ => .inl h.2
  exact (ensures.of_ends run).2 undone

/-- No machine turns up, and while the creation waits another client asks for five. -/
private theorem scaled_up_while_waiting :
    ∃ w', (Provider.sample.create .sample).Ends ⟨0, 0⟩ Scene.Operated (.start .small)
        (.error (.notDiscovered "ns/workers" 1000)) w' ∧
      w'.changes "ns/workers" = [(some 5, some 1), (some 2, some 5), (some 1, some 2)] ∧
      w'.scalings ⟨0, 0⟩ = [⟨"ns/workers", some 5, some 1⟩, ⟨"ns/workers", some 1, some 2⟩] := by
  let asked : MachineGroup := ⟨{ Header.new "ns" "workers" with version := 2 }, some 5, ∅⟩
  have run : (Provider.sample.create .sample).Ends ⟨0, 0⟩ Scene.Operated (.start .small)
      (.error (.notDiscovered "ns/workers" 1000)) _ :=
    Program.ends_interrupted ⟨0, 0⟩ Scene.Operated 0 8 20 (by decide +kernel)
      (.mk ⟨1, 0⟩ (.update .group asked)) (Program.eq_of_hasFailed (by decide +kernel))
  exact ⟨_, run, by decide +kernel, by decide +kernel⟩

theorem rollback_writes_remembered_over_five :
    ∃ w' undo raise b, (Provider.sample.create .sample).Ends ⟨0, 0⟩ Scene.Operated (.start .small)
        (.error (.notDiscovered "ns/workers" 1000)) w' ∧
      w'.scalings ⟨0, 0⟩ = [undo, raise] ∧ undo.was = some 5 ∧ raise.now = some (b + 1) ∧
      undo.now = some b := by
  obtain ⟨w', run, _, hscalings⟩ := scaled_up_while_waiting
  obtain hnone | ⟨undo, raise, b, hboth, _, hraise, hundo, _⟩ :=
    rollback_writes_remembered Store.keyed_small rfl run rfl
  · rw [hscalings] at hnone
    cases hnone
  · refine ⟨w', undo, raise, b, run, hboth, ?_, hraise, hundo⟩
    rw [hscalings] at hboth
    cases hboth
    rfl

/-- The count that the other client has asked for is lost. -/
theorem rollback_loses_scale_up :
    ∃ w', (Provider.sample.create .sample).Ends ⟨0, 0⟩ Scene.Operated (.start .small)
        (.error (.notDiscovered "ns/workers" 1000)) w' ∧
      w'.changes "ns/workers" = [(some 5, some 1), (some 2, some 5), (some 1, some 2)] ∧
      ∃ undo raise, w'.scalings ⟨0, 0⟩ = [undo, raise] ∧ ¬ undo.LowersByOne := by
  obtain ⟨w', run, hcounts, hscalings⟩ := scaled_up_while_waiting
  refine ⟨w', run, hcounts, _, _, hscalings, ?_⟩
  simp [Scaling.LowersByOne]

end MachineClaims
