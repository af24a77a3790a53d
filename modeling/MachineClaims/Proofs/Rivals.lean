import MachineClaims.Proofs.CreateOutline
import MachineClaims.Proofs.Fair
import MachineClaims.Proofs.Fleet

/-!
# Rivals for a machine

Providers that share a store do not take turns, so two creations may list the same machine. One of
them writes its label first; the label of the other is then refused, and its rollback releases the
machine all the same. That is the only way in which a creation spoils a machine that a claim of
another is or will be bound to (`spoils_iff_releases`), and it happens
(`rollback_spoils_bound_machine`).
-/

namespace MachineClaims
namespace Rivals

/-- What a creation may do among its rivals. -/
structure Plays (me : Caller) (w w' : Scene) : Prop where
  advances : w.Advances w'
  keyed : w.store.Keyed → w'.store.Keyed
  step : w'.store = w.store ∧ w'.events = w.events ∨
    ∃ e, w'.events = e :: w.events ∧ e.before = w.store ∧ w'.store = e.after ∧
      Legal me w.events e

/-- What a creation may expect of its rivals: that they do not act in its name. -/
structure Expects (me : Caller) (w w' : Scene) : Prop where
  advances : w.Advances w'
  keyed : w.store.Keyed → w'.store.Keyed
  feats : feats w'.events me = feats w.events me
  refused : ∀ key, Refused w.events me key → Refused w'.events me key

theorem feat?_quiet {call : Call} {x : Except Failure call.Result} (h : call.Quiet x)
    (me c : Caller) (s s' : Store) : Event.feat? c ⟨s, .call me call x, s'⟩ = none := by
  obtain hreads | ⟨e, rfl⟩ := h
  · cases call <;> first | rfl | cases hreads
  · cases call <;> rfl

def terms (me : Caller) : Terms where
  caller := me
  rely := Expects me
  guarantee := Plays me
  rests w := ⟨.with_holders w w.holders, id, .inl ⟨rfl, rfl⟩⟩
  quiet _ _ _ hx := ⟨.record_of_eq _ rfl, id,
    .inr ⟨_, rfl, rfl, rfl, .quiet rfl fun c => feat?_quiet hx me c _ _⟩⟩

variable {me : Caller} {w w' : Scene}

/-- A fact about what a caller has achieved. -/
theorem lasting {P : List (Feat × String) → (String → Prop) → Prop}
    (mono : ∀ l R R', (∀ key, R key → R' key) → P l R → P l R') :
    (terms me).Lasting fun w =>
      w.store.Keyed ∧ P (feats w.events me) (Refused w.events me) where
  stable w w' h hw := by
    refine ⟨hw.keyed h.1, ?_⟩
    rw [hw.feats]
    exact mono _ _ _ hw.refused h.2
  quiet w c x hx h := by
    refine ⟨h.1, ?_⟩
    rw [Scene.events_record, feats_cons_of_none (feat?_quiet hx _ _ _ _)]
    exact mono _ _ _ (fun _ hr => hr.cons _) h.2

theorem lasting_keyed : (terms me).Lasting fun w => w.store.Keyed where
  stable _ _ h hw := hw.keyed h
  quiet _ _ _ _ h := h

theorem lasting_copy (key : String) (m : Machine) :
    (terms me).Lasting fun w => m.header.key = key ∧ w.Copy m where
  stable _ _ h hw := ⟨h.1, h.2.advances hw.advances⟩
  quiet _ _ _ _ h := ⟨h.1, h.2.advances (.record_of_eq _ rfl)⟩

/-- Nothing has been achieved. -/
def None (w : Scene) (me : Caller) : Prop := w.store.Keyed ∧ feats w.events me = []

/-- The machine of a reservation, if there is one, has been labelled. -/
def Labelled (w : Scene) (me : Caller) (x : Option Machine) : Prop :=
  w.store.Keyed ∧ ∀ m ∈ x, feats w.events me = [(.label, m.header.key)]

/-- Nothing has been done but to try and label the machine of a reservation, if there is one. -/
def Trying (w : Scene) (me : Caller) (x : Option Machine) : Prop :=
  w.store.Keyed ∧ ∀ m ∈ x, Tried w.events me m.header.key

theorem plays_writeGroup (g : MachineGroup) : Plays me w (w.writeGroup me g) where
  advances := .record_of_eq _ rfl
  keyed := Scene.keyed_writeGroup
  step := .inr ⟨_, rfl, rfl, rfl, .quiet rfl fun _ => rfl⟩

/-- A creation among its rivals. -/
def outline (me : Caller) (p : Provider) (claim : Claim) : CreateOutline (terms me) p claim where
  chosen _ := True
  idle w := None w me
  knowsGroup _ _ _ := True
  knows key m w := m.header.key = key ∧ w.Copy m
  reserved _ w := None w me
  labelled r w := Labelled w me r.machine
  undoing r w := Trying w me r.machine
  released _ w := w.store.Keyed
  final _ _ := True
  lasting_idle := lasting (P := fun l _ => l = []) fun _ _ _ _ h => h
  lasting_knowsGroup _ _ := .const _ _
  lasting_knows := lasting_copy
  lasting_reserved _ := lasting (P := fun l _ => l = []) fun _ _ _ _ h => h
  lasting_labelled r := lasting (P := fun l _ => ∀ m ∈ r.machine, l = [(.label, m.header.key)])
    fun _ _ _ _ h => h
  lasting_undoing r := lasting (P := fun l R => ∀ m ∈ r.machine,
    l = [(.label, m.header.key)] ∨ l = [] ∧ R m.header.key)
    fun _ _ _ hR h m hm => (h m hm).imp_right fun hr => ⟨hr.1, hR _ hr.2⟩
  lasting_released _ := lasting_keyed
  lasting_final _ := .const _ _
  choose _ _ _ _ _ _ := trivial
  stop _ _ _ _ := trivial
  readGroup _ _ _ _ _ := trivial
  raise τ g b w _ h _ _ _ _ := by
    refine ⟨plays_writeGroup _, Scene.keyed_writeGroup h.1, ?_⟩
    rw [Scene.writeGroup, Scene.events_record, feats_cons_of_none rfl]
    exact h.2
  list r m w h _ hm := ⟨rfl, .of_stored ((h.1.mem_values_iff .machine m).1 hm)⟩
  label r m w h hfree hm current := by
    have hstored := hm.2.eq_of_current current
    refine ⟨⟨.record_put (m := m.joined) _ current, Scene.keyed_writeMachine,
      .inr ⟨_, rfl, rfl, rfl, .label hstored hfree.unlabelled h.2⟩⟩,
      Scene.keyed_writeMachine h.1, fun m' hm' => ?_⟩
    obtain rfl : Kind.machine.bump m.joined = m' := Option.some.inj hm'
    rw [Scene.writeMachine, Scene.events_record]
    rw [feats_cons_of_some (x := (.label, m.header.key)) (by simp [Event.feat?, terms])]
    exact congrArg _ h.2
  refuse r m activity error w h hfree hm := by
    refine ⟨h.1, fun m' hm' => .inr ⟨?_, ?_⟩⟩
    · rw [Scene.events_record, feats_cons_of_none rfl]
      exact h.2
    · obtain rfl : m.joined = m' := Option.some.inj hm'
      exact ⟨_, List.mem_cons_self, by simp [Event.refuses, terms]⟩
  bind r m τ w h hr _ _ := by
    have labelled := h.2 m hr
    exact ⟨⟨.record_of_eq _ rfl, Scene.keyed_writeClaim, .inr ⟨_, rfl, rfl, rfl,
      .bind (NameMap.get?_insert_self _ _ _) labelled⟩⟩, trivial⟩
  giveUp r w h hr := ⟨h.1, by simp [hr]⟩
  abandon r w h := ⟨h.1, fun m hm => .inl (h.2 m hm)⟩
  reread r m stored w h _ hstored := by
    have hkey : stored.header.key = m.header.key := h.1 .machine _ stored hstored
    exact ⟨hkey, .of_stored (hkey ▸ hstored)⟩
  empty _ _ h _ := h.1
  gone _ _ _ h _ _ := h.1
  clean _ _ _ _ h _ _ _ _ := h.1
  release r m stored now w h hr hm current needed := by
    have hkey : (stored.released now).header.key = m.header.key := by
      rw [Machine.key_released, hm.1]
    have current' : w.store.Current .machine (stored.released now) := by
      simpa [Store.Current, Kind.key, Kind.header] using current
    have hstored : w.store.machines.get? (stored.released now).header.key = some stored := by
      rw [Machine.key_released]
      exact hm.2.eq_of_current current
    refine ⟨⟨.record_put _ current', Scene.keyed_writeMachine, .inr ⟨_, rfl, rfl, rfl,
      .release hstored (Machine.isMember_released stored now) (Machine.isMarked_released stored now)
        needed ?_⟩⟩, Scene.keyed_writeMachine h.1⟩
    rw [hkey]
    exact h.2 m hr
  stuck _ _ _ _ _ := trivial
  rereadGroup _ _ _ _ _ := trivial
  restore _ _ _ _ _ _ _ _ := ⟨plays_writeGroup _, trivial⟩
  half _ _ _ _ _ := trivial

/-- Every caller makes a creation, each with a claim of its own. -/
def Job (providers : Nat → Provider) (c : Caller) (q : Program (Except Failure Claim)) : Prop :=
  ∃ claim, q = ((providers c.provider).create claim).run

theorem feats_eq_nil (h : w.Unknown me) : feats w.events me = [] := by
  refine List.filterMap_eq_nil_iff.2 fun e he => ?_
  cases hfeat : e.feat? me with
  | none => rfl
  | some x =>
    have hcaller := caller?_of_feat? hfeat
    have hidle := h.idle e he
    obtain ⟨before, deed, after⟩ := e
    cases deed with
    | operation => cases hcaller
    | foreign => cases hcaller
    | call c call answer =>
      cases hcaller
      exact absurd rfl (hidle call answer)

/-- Taking and giving back a turn changes nothing that matters. -/
theorem plays_holders (me : Caller) (w : Scene) (holders : List Caller) :
    Plays me w { w with holders } where
  advances := .with_holders w holders
  keyed := id
  step := .inl ⟨rfl, rfl⟩

theorem ensures_job (p : Provider) (claim : Claim) (hkeyed : w.store.Keyed) (h : w.Unknown me) :
    (p.create claim).run.Ensures (terms me) (fun _ _ => True) w := by
  refine (outline me p claim).ensures_create (lasting (P := fun l _ => l = []) fun _ _ _ _ h => h)
    ⟨hkeyed, feats_eq_nil h⟩ (fun _ _ _ _ => trivial) (fun w h _ => ?_) (fun _ _ _ _ => trivial)
    fun _ w _ => ⟨plays_holders me w _, trivial⟩
  exact ⟨plays_holders me w _, h⟩

theorem Plays.fair (h : Fair w) (hw : Plays me w w') : Fair w' := by
  obtain ⟨hstore, hevents⟩ | ⟨e, hevents, hbefore, hafter, legal⟩ := hw.step
  · exact h.of_eq hstore hevents
  · exact h.legal (hw.keyed h.keyed) legal hevents hbefore hafter

theorem Plays.expects {d : Caller} (hw : Plays me w w') (hne : d ≠ me) : Expects d w w' where
  advances := hw.advances
  keyed := hw.keyed
  feats := by
    obtain ⟨_, hevents⟩ | ⟨e, hevents, _, _, legal⟩ := hw.step
    · rw [hevents]
    · rw [hevents, feats_cons_of_none (legal.feat?_eq_none hne)]
  refused key hr := by
    obtain ⟨_, hevents⟩ | ⟨e, hevents, _, _, _⟩ := hw.step
    · rwa [hevents]
    · rw [hevents]
      exact hr.cons e

theorem fair_fleet (h : Fair w) (hw : w.Fleet w') : Fair w' := by
  have spares := hw.spares
  obtain ⟨⟨before, deed, after⟩, hevents, rfl : deed = .foreign⟩ := spares.events
  have faultless : Faultless w.events ⟨before, .foreign, after⟩ :=
    ⟨fun _ _ ha => (nomatch ha), fun _ _ hf => (nomatch hf), fun _ _ _ _ hf => (nomatch hf)⟩
  refine h.quiet hevents (spares.keyed h.keyed) hw.advances.used (fun _ => rfl) faultless
    fun key m' hused hmember hm' => ?_
  obtain ⟨m, hm, hlabels, _⟩ | ⟨_, hunused⟩ := spares.machines key m' hm'
  · have hlabelled := hmember m hm
    unfold Machine.isMember at hlabelled ⊢
    rw [hlabels]
    exact hlabelled
  · exact absurd hused hunused

theorem expects_fleet (me : Caller) (hw : w.Fleet w') : Expects me w w' where
  advances := hw.advances
  keyed := hw.spares.keyed
  feats := by
    obtain ⟨⟨_, deed, _⟩, hevents, rfl : deed = .foreign⟩ := hw.spares.events
    rw [hevents, feats_cons_of_none rfl]
  refused key hr := by
    obtain ⟨e, hevents, _⟩ := hw.spares.events
    rw [hevents]
    exact hr.cons e

/-- Creations of any providers can rely on each other. -/
def pact (providers : Nat → Provider) : Pact (Job providers) Scene.Fleet Fair where
  terms := terms
  caller _ := rfl
  moves _ _ _ h hw := ⟨hw.fair h, fun _ hne => hw.expects hne⟩
  others _ _ h hw :=
    ⟨fair_fleet h hw, fun _ hd => hw.spares.unknown hd, fun d => expects_fleet d hw⟩
  ensures c q w hjob h hc := by
    obtain ⟨claim, rfl⟩ := hjob
    exact ensures_job (providers c.provider) claim h.keyed hc

theorem fair_start {s : Store} (keyed : s.Keyed) : Fair (Scene.start s) where
  keyed := keyed
  exclusive _ _ _ h := nomatch h
  member _ _ _ h := nomatch h.1
  single _ _ _ _ h := nomatch h.1
  judged := trivial

end Rivals

/-- The steps of a creation that spoil a machine which was labelled for another, and to which the
other binds its claim, are those that release it. Somebody's label was then refused; and while
nobody has released the machine without having labelled it, that was the label of the one who
releases it. -/
theorem spoils_iff_releases {providers : Nat → Provider} {s : Store}
    {σ : Stage (Except Failure Claim)} (keyed : s.Keyed)
    (run : (Stage.start (Scene.start s)).Reaches (Rivals.Job providers) Scene.Fleet σ)
    {later earlier : List Event} {e : Event} (history : σ.scene.events = later ++ e :: earlier)
    {a b : Caller} {key : String} (rivals : a ≠ b) (mine : e.caller? = some a)
    (labelled : (.label, key) ∈ feats earlier b) (bound : (.bind, key) ∈ feats σ.scene.events b) :
    (e.spoils key = true ↔ e.feat? a = some (.release, key)) ∧
      (e.spoils key = true →
        (∃ c, Refused earlier c key) ∧ (¬ Wronged key earlier → Refused earlier a key)) := by
  have fair := ((Rivals.pact providers).reaches (Rivals.fair_start keyed) run).inv
  have judged : Judged (e :: earlier) := by
    have h := fair.judged
    rw [history] at h
    exact h.of_append
  have holds : Holds earlier b key := by
    refine ⟨labelled, fun hrelease => fair.exclusive b key key bound ?_⟩
    rw [history, feats, List.filterMap_append]
    exact List.mem_append_right _ (mem_feats_cons hrelease)
  have releases := judged.1.spoils a key mine
  refine ⟨releases, fun hspoils => ?_⟩
  have own : ¬ Wronged key earlier → Refused earlier a key :=
    judged.1.rivals a b key rivals (releases.1 hspoils) holds
  refine ⟨?_, own⟩
  by_cases hw : Wronged key earlier
  · exact judged.2.refused_of_wronged hw
  · exact ⟨a, own hw⟩

/-- One creation labels a machine and binds its claim to it while another, which has found the same
machine, is about to write its label. The other then rolls back. -/
private theorem rolled_back_after_conflict (others : Scene → Scene → Prop) :
    ∃ σ later e earlier, (Stage.start (Scene.start .claimed)).Reaches
        (Rivals.Job fun _ => .sample) others σ ∧
      σ.scene.events = later ++ e :: earlier ∧ e.caller? = some ⟨0, 0⟩ ∧
      (.label, "ns/worker-1") ∈ feats earlier ⟨1, 0⟩ ∧
      (.bind, "ns/worker-1") ∈ feats earlier ⟨1, 0⟩ ∧ e.spoils "ns/worker-1" = true ∧
      ∀ e' ∈ earlier, e'.caller?.all (fun c => e'.feat? c ≠ some (.release, "ns/worker-1")) := by
  let loser := (Provider.sample.create (Kind.claim.bump .sample)).run
  let winner := (Provider.sample.create (Kind.claim.bump .sample')).run
  obtain ⟨σ, run, hscene⟩ := Stage.reaches_overtaken (Rivals.Job fun _ => .sample) others
    (c := ⟨0, 0⟩) (d := ⟨1, 0⟩) (p := loser) (q := winner) (by decide) ⟨_, rfl⟩ ⟨_, rfl⟩ 0 10 14 14
    (.start .claimed)
  let found := loser.advance ⟨0, 0⟩ 0 10 (.start .claimed)
  let bound := winner.advance ⟨1, 0⟩ 0 14 found.2
  let undone := found.1.advance ⟨0, 0⟩ 0 14 bound.2
  have spoilt : undone.2.events[2]?.any
      (fun e => e.caller? = some ⟨0, 0⟩ ∧ e.spoils "ns/worker-1") = true := by decide +kernel
  obtain ⟨e, he, hspoils⟩ := (Option.any_eq_true ..).1 spoilt
  obtain ⟨long, rfl⟩ := List.getElem?_eq_some_iff.1 he
  have history : σ.scene.events =
      undone.2.events.take 2 ++ undone.2.events[2] :: undone.2.events.drop 3 := by
    rw [hscene, List.getElem_cons_drop, List.take_append_drop]
  obtain ⟨hcaller, hspoils⟩ := of_decide_eq_true hspoils
  exact ⟨σ, _, _, _, run, history, hcaller, by decide +kernel, by decide +kernel, hspoils,
    by decide +kernel⟩

theorem spoils_iff_releases_after_conflict :
    ∃ σ later e earlier, (Stage.start (Scene.start .claimed)).Reaches
        (Rivals.Job fun _ => .sample) Scene.Fleet σ ∧
      σ.scene.events = later ++ e :: earlier ∧
      (.label, "ns/worker-1") ∈ feats earlier ⟨1, 0⟩ ∧
      (.bind, "ns/worker-1") ∈ feats σ.scene.events ⟨1, 0⟩ ∧ ¬ Wronged "ns/worker-1" earlier ∧
      e.feat? ⟨0, 0⟩ = some (.release, "ns/worker-1") ∧
      Refused earlier ⟨0, 0⟩ "ns/worker-1" := by
  obtain ⟨σ, later, e, earlier, run, history, mine, labelled, bound, spoils, unreleased⟩ :=
    rolled_back_after_conflict Scene.Fleet
  have bound' : (.bind, "ns/worker-1") ∈ feats σ.scene.events ⟨1, 0⟩ := by
    rw [history, feats, List.filterMap_append]
    exact List.mem_append_right _ (mem_feats_cons bound)
  have unwronged : ¬ Wronged "ns/worker-1" earlier := by
    intro h
    obtain ⟨e', he', c, hc⟩ := exists_release_of_wronged h
    have := unreleased e' he'
    rw [caller?_of_feat? hc] at this
    exact of_decide_eq_true this hc
  obtain ⟨releases, refused⟩ :=
    spoils_iff_releases Store.keyed_claimed run history (by decide) mine labelled bound'
  exact ⟨σ, later, e, earlier, run, history, labelled, bound', unwronged, releases.1 spoils,
    (refused spoils).2 unwronged⟩

/-- The rollback takes the label off the machine that the other claim is bound to, and marks it. -/
theorem rollback_spoils_bound_machine :
    ∃ σ later e earlier, (Stage.start (Scene.start .claimed)).Reaches
        (Rivals.Job fun _ => .sample) (fun _ _ => False) σ ∧
      σ.scene.events = later ++ e :: earlier ∧ e.caller? = some ⟨0, 0⟩ ∧
      (.label, "ns/worker-1") ∈ feats earlier ⟨1, 0⟩ ∧
      (.bind, "ns/worker-1") ∈ feats earlier ⟨1, 0⟩ ∧ e.spoils "ns/worker-1" = true := by
  obtain ⟨σ, later, e, earlier, run, history, mine, labelled, bound, spoils, _⟩ :=
    rolled_back_after_conflict fun _ _ => False
  exact ⟨σ, later, e, earlier, run, history, mine, labelled, bound, spoils⟩

end MachineClaims
