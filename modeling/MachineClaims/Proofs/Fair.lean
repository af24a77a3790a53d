import MachineClaims.Proofs.Feats

/-!
# What legal steps keep

While nobody has released a machine without having labelled it, each machine has at most one holder,
and has the label as long as it has a holder (`Fair`). So a step of another caller spoils a held
machine just if it releases it, and its own label must then have been refused (`Faultless`).
-/

namespace MachineClaims

variable {me c : Caller} {past : List Event} {e : Event}

/-- What holds of a scene whose history is made of legal steps and the work of a fleet manager. -/
structure Fair (w : Scene) : Prop where
  keyed : w.store.Keyed
  exclusive : ∀ c key key', (.bind, key) ∈ feats w.events c → (.release, key') ∉ feats w.events c
  member : ∀ c key, ¬ Wronged key w.events → Holds w.events c key →
    w.Used key ∧ ∀ m, w.store.machines.get? key = some m → m.isMember = true
  single : ∀ c d key, ¬ Wronged key w.events → Holds w.events c key → Holds w.events d key → c = d
  judged : Judged w.events

namespace Fair

variable {w w' : Scene}

theorem of_eq (h : Fair w) (hstore : w'.store = w.store) (hevents : w'.events = w.events) :
    Fair w' := by
  obtain ⟨s, holders, events⟩ := w'
  subst hstore hevents
  exact ⟨h.keyed, h.exclusive, h.member, h.single, h.judged⟩

/-- A step by which nobody comes to hold a machine, and after which those that are held still have
the label. -/
private theorem step (h : Fair w) (hevents : w'.events = e :: w.events) (keyed : w'.store.Keyed)
    (used : ∀ key, w.Used key → w'.Used key)
    (exclusive : ∀ c key key', (.bind, key) ∈ feats (e :: w.events) c →
      (.release, key') ∉ feats (e :: w.events) c)
    (holds : ∀ c key, ¬ Wronged key (e :: w.events) → Holds (e :: w.events) c key →
      Holds w.events c key)
    (member : ∀ c key m', ¬ Wronged key (e :: w.events) → Holds (e :: w.events) c key →
      w.Used key → (∀ m, w.store.machines.get? key = some m → m.isMember = true) →
      w'.store.machines.get? key = some m' → m'.isMember = true)
    (faultless : Faultless w.events e) : Fair w' := by
  have unwronged : ∀ key, ¬ Wronged key (e :: w.events) → ¬ Wronged key w.events :=
    fun key hk hw => hk (.inr hw)
  constructor
  · exact keyed
  · rw [hevents]
    exact exclusive
  · rw [hevents]
    intro c key hk hh
    obtain ⟨hused, hmember⟩ := h.member c key (unwronged key hk) (holds c key hk hh)
    exact ⟨used key hused, fun m' hm' => member c key m' hk hh hused hmember hm'⟩
  · rw [hevents]
    intro c d key hk hc hd
    exact h.single c d key (unwronged key hk) (holds c key hk hc) (holds d key hk hd)
  · rw [hevents]
    exact ⟨faultless, h.judged⟩

/-- A step that is no feat, after which held machines still have the label. -/
theorem quiet (h : Fair w) (hevents : w'.events = e :: w.events) (keyed : w'.store.Keyed)
    (used : ∀ key, w.Used key → w'.Used key) (feat : ∀ c, e.feat? c = none)
    (faultless : Faultless w.events e)
    (member : ∀ key m', w.Used key → (∀ m, w.store.machines.get? key = some m → m.isMember = true) →
      w'.store.machines.get? key = some m' → m'.isMember = true) : Fair w' := by
  have hfeats : ∀ c, feats (e :: w.events) c = feats w.events c :=
    fun c => feats_cons_of_none (feat c)
  refine h.step hevents keyed used ?_ ?_ (fun _ key m' _ _ => member key m') faultless
  · simp only [hfeats]
    exact h.exclusive
  · intro c key _ hh
    simpa only [Holds, hfeats] using hh

/-- Nobody both binds and releases, if the caller of a legal step does not. -/
private theorem exclusive_cons (h : Fair w) (legal : Legal me w.events e)
    (mine : ∀ key key', (.bind, key) ∈ feats (e :: w.events) me →
      (.release, key') ∉ feats (e :: w.events) me) (c : Caller) (key key' : String) :
    (.bind, key) ∈ feats (e :: w.events) c → (.release, key') ∉ feats (e :: w.events) c := by
  by_cases hcm : c = me
  · rw [hcm]
    exact mine key key'
  · rw [feats_cons_of_none (legal.feat?_eq_none hcm)]
    exact h.exclusive c key key'

/-- Who holds a machine after it was labelled: the one who did, or whoever holds another one. -/
private theorem holds_of_labelled (h : Fair w) {m : Machine}
    (stored : w.store.machines.get? m.header.key = some m) (free : m.isMember = false)
    (first : feats w.events me = []) {key : String} (hk : ¬ Wronged key w.events)
    (hh : Holds (.ofMachine w.store me m.joined :: w.events) c key) :
    (c = me ∧ key = m.header.key) ∨ (Holds w.events c key ∧ key ≠ m.header.key) := by
  have legal : Legal me w.events (.ofMachine w.store me m.joined) := .label stored free first
  by_cases hcm : c = me
  · subst hcm
    have hlabel := hh.1
    rw [feats_ofMachine_self, first] at hlabel
    exact .inl ⟨rfl, by simpa using hlabel⟩
  · simp only [Holds, feats_cons_of_none (legal.feat?_eq_none hcm)] at hh
    refine .inr ⟨hh, ?_⟩
    -- A machine that is held has the label, and this one was free.
    rintro rfl
    have hmember := (h.member c _ hk hh).2 m stored
    rw [free] at hmember
    cases hmember

/-- Labelling a free machine. -/
theorem label (h : Fair w) {m : Machine}
    (stored : w.store.machines.get? m.header.key = some m) (free : m.isMember = false)
    (first : feats w.events me = []) : Fair (w.writeMachine me m.joined) := by
  have legal : Legal me w.events (.ofMachine w.store me m.joined) := .label stored free first
  have unwronged : ∀ key, ¬ Wronged key (.ofMachine w.store me m.joined :: w.events) →
      ¬ Wronged key w.events := fun key hk hw => hk (.inr hw)
  constructor
  · exact Scene.keyed_writeMachine h.keyed
  · have unbound : ∀ key, (.bind, key) ∉ feats (.ofMachine w.store me m.joined :: w.events) me := by
      simp [feats_ofMachine_self, first]
    exact h.exclusive_cons legal fun key _ hb => absurd hb (unbound key)
  · intro c key hk hh
    rw [Scene.machines_writeMachine, Machine.key_joined]
    obtain ⟨rfl, rfl⟩ | ⟨hh, hne⟩ := h.holds_of_labelled stored free first (unwronged key hk) hh
    · refine ⟨(Scene.used_of_stored stored).record _ _, fun m' hm' => ?_⟩
      rw [NameMap.get?_insert_self] at hm'
      cases hm'
      simp
    · obtain ⟨hused, hmember⟩ := h.member c key (unwronged key hk) hh
      refine ⟨hused.record _ _, fun m' hm' => hmember m' ?_⟩
      rwa [NameMap.get?_insert_of_ne _ _ hne] at hm'
  · intro c d key hk hc hd
    have hk' := unwronged key hk
    obtain ⟨hcm, hkey⟩ | ⟨hc, hne⟩ := h.holds_of_labelled stored free first hk' hc <;>
      obtain ⟨hdm, hkey'⟩ | ⟨hd, hne'⟩ := h.holds_of_labelled stored free first hk' hd
    · rw [hcm, hdm]
    · exact absurd hkey hne'
    · exact absurd hkey' hne
    · exact h.single c d key hk' hc hd
  · refine ⟨faultless_of_unspoilt (fun key => ?_) (fun c key => ?_), h.judged⟩
    · by_cases hkey : key = m.header.key
      · subst hkey
        simp [Event.spoils, stored, free]
      · exact Event.spoils_eq_false_of_eq (NameMap.get?_insert_of_ne _ _ hkey)
    · show (Event.ofMachine w.store me m.joined).feat? c ≠ _
      rw [Event.feat?_ofMachine]
      split <;> simp

section Release

variable {m known : Machine} (free : m.isMember = false) (tried : Tried w.events me m.header.key)

include free in
private theorem eq_of_release {s : Store} {key : String}
    (h : (Event.ofMachine s me m).feat? c = some (.release, key)) :
    c = me ∧ key = m.header.key := by
  rw [Event.feat?_ofMachine, free] at h
  split at h
  · rename_i hc
    exact ⟨hc.symm, by simpa using h.symm⟩
  · cases h

include free tried in
/-- Who still holds a machine after a release held it before, and it is another machine. -/
private theorem holds_of_released (h : Fair w) {key : String}
    (hk : ¬ Wronged key (.ofMachine w.store me m :: w.events))
    (hh : Holds (.ofMachine w.store me m :: w.events) c key) :
    Holds w.events c key ∧ key ≠ m.header.key := by
  have hme : (Event.ofMachine w.store me m).feat? me = some (.release, m.header.key) := by
    simp [Event.feat?_ofMachine, free]
  by_cases hcm : c = me
  · subst hcm
    obtain ⟨hlabel, hrelease⟩ := hh
    rw [feats_ofMachine_self, free] at hlabel hrelease
    obtain ⟨rfl, _⟩ := tried.of_label (by simpa using hlabel)
    exact absurd List.mem_cons_self hrelease
  · have hother : (Event.ofMachine w.store me m).feat? c = none := if_neg (Ne.symm hcm)
    simp only [Holds, feats_cons_of_none hother] at hh
    refine ⟨hh, ?_⟩
    rintro rfl
    have hlabelled : (.label, m.header.key) ∈ feats w.events me :=
      Classical.not_not.1 fun hnot => hk (.inl ⟨me, hme, hnot⟩)
    exact hcm (h.single c me _ (fun hw => hk (.inr hw)) hh (tried.of_label hlabelled).2)

include free tried in
private theorem faultless_release (h : Fair w)
    (stored : w.store.machines.get? m.header.key = some known) (marked : m.isMarked = true)
    (needed : known.isMember = true ∨ known.isMarked = false) :
    Faultless w.events (.ofMachine w.store me m) := by
  constructor
  · intro a key ha
    obtain rfl : me = a := Option.some.inj ha
    by_cases hkey : key = m.header.key
    · subst hkey
      have hspoils : (Event.ofMachine w.store me m).spoils m.header.key = true := by
        simp [Event.spoils, Event.ofMachine, stored, free, marked, needed]
      simp [hspoils, Event.feat?_ofMachine, free]
    · have hspoils : (Event.ofMachine w.store me m).spoils key = false :=
        Event.spoils_eq_false_of_eq (NameMap.get?_insert_of_ne _ _ hkey)
      rw [hspoils]
      exact ⟨nofun, fun hf => absurd (eq_of_release free hf).2 hkey⟩
  · intro a key ha
    obtain ⟨rfl, rfl⟩ := eq_of_release free ha
    obtain hl | ⟨_, hrefused⟩ := tried
    · left
      rw [hl]
      exact List.mem_cons_self
    · exact .inr hrefused
  · intro a b key hab ha hb hk
    obtain ⟨rfl, rfl⟩ := eq_of_release free ha
    obtain hl | ⟨_, hrefused⟩ := id tried
    · have hlabel : (Feat.label, m.header.key) ∈ feats w.events a := by
        rw [hl]
        exact List.mem_cons_self
      exact absurd (h.single a b _ hk (tried.of_label hlabel).2 hb) hab
    · exact hrefused

include free tried in
/-- Releasing a machine. -/
theorem release (h : Fair w) (stored : w.store.machines.get? m.header.key = some known)
    (marked : m.isMarked = true) (needed : known.isMember = true ∨ known.isMarked = false) :
    Fair (w.writeMachine me m) := by
  have legal : Legal me w.events (.ofMachine w.store me m) :=
    .release stored free marked needed tried
  refine h.step (e := .ofMachine w.store me m) rfl (Scene.keyed_writeMachine h.keyed)
    (fun _ hk => hk.record _ _)
    (h.exclusive_cons legal fun key key' hb => ?_)
    (fun c key hk hh => (h.holds_of_released free tried hk hh).1)
    (fun c key m' hk hh _ hmember hm' => hmember m' ?_)
    (h.faultless_release free tried stored marked needed)
  · rw [feats_ofMachine_self, free] at hb
    exact absurd (by simpa using hb) tried.not_bind
  · have hne := (h.holds_of_released free tried hk hh).2
    rwa [Scene.machines_writeMachine, NameMap.get?_insert_of_ne _ _ hne] at hm'

end Release

/-- Binding a claim to the machine that was labelled for it. -/
theorem bind (h : Fair w) {claim : Claim} {key : String} (binding : claim.binding? = some key)
    (labelled : feats w.events me = [(.label, key)]) : Fair (w.writeClaim me claim) := by
  have legal : Legal me w.events (.ofClaim w.store me claim) := .bind binding labelled
  have hme : (Event.ofClaim w.store me claim).feat? me = some (.bind, key) := by
    simp [Event.feat?_ofClaim, binding]
  have hfeats : ∀ c f key', f ≠ Feat.bind →
      ((f, key') ∈ feats (.ofClaim w.store me claim :: w.events) c ↔
        (f, key') ∈ feats w.events c) := by
    intro c f key' hf
    by_cases hcm : c = me
    · rw [hcm, feats_cons_of_some hme]
      simp [hf]
    · rw [feats_cons_of_none (legal.feat?_eq_none hcm)]
  refine h.step (e := .ofClaim w.store me claim) rfl (Scene.keyed_writeClaim h.keyed)
    (fun _ hk => hk.record _ _)
    (h.exclusive_cons legal fun key' key'' _ => ?_) (fun c key' _ hh => ?_)
    (fun _ _ m' _ _ _ hmember hm' => hmember m' hm')
    (faultless_of_unspoilt (fun _ => Event.spoils_eq_false_of_eq rfl) fun c key' => ?_)
  · rw [hfeats me .release key'' nofun, labelled]
    simp
  · obtain ⟨hlabel, hrelease⟩ := hh
    rw [hfeats c .label key' nofun] at hlabel
    rw [hfeats c .release key' nofun] at hrelease
    exact ⟨hlabel, hrelease⟩
  · show (Event.ofClaim w.store me claim).feat? c ≠ _
    rw [Event.feat?_ofClaim, binding]
    split <;> simp

/-- A legal step. -/
theorem legal (h : Fair w) (keyed : w'.store.Keyed) (hstep : Legal me w.events e)
    (hevents : w'.events = e :: w.events) (hbefore : e.before = w.store)
    (hafter : w'.store = e.after) : Fair w' := by
  cases hstep with
  | quiet machines feat =>
    refine h.quiet hevents keyed (fun key hk => hk.cons hevents hbefore) feat
      (faultless_of_unspoilt (fun key => ?_) fun c key => by simp [feat c])
      fun key m' _ hmember hm' => ?_
    · exact Event.spoils_eq_false_of_eq (by rw [machines])
    · rw [hafter, machines, hbefore] at hm'
      exact hmember m' hm'
  | label stored free first =>
    obtain rfl := hbefore
    exact (h.label stored free first).of_eq hafter hevents
  | release stored free marked needed tried =>
    obtain rfl := hbefore
    exact (h.release free tried stored marked needed).of_eq hafter hevents
  | bind binding labelled =>
    obtain rfl := hbefore
    exact (h.bind binding labelled).of_eq hafter hevents

end Fair
end MachineClaims
