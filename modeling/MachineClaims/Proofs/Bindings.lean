import MachineClaims.Proofs.DeleteOutline
import MachineClaims.Proofs.Fleet

/-!
# At most one claim for a machine

In a tidy store no two claims are bound to one machine, a machine that a claim is bound to has the
membership label, and a machine with the label belongs to a stored group. Creations and releases of
one provider take turns. Within a turn only the fleet manager may act beside the caller, and it
spares what matters; so each write keeps the store tidy, and every run does (`runs_keep_tidy`).
-/

namespace MachineClaims

namespace Store

/-- No stored claim is bound to the key. -/
def Unbound (s : Store) (key : String) : Prop :=
  ∀ k c, s.claims.get? k = some c → c.binding? ≠ some key

/-- What claims and machines must agree on. -/
structure Tidy (s : Store) : Prop where
  distinct : ∀ k₁ k₂ c₁ c₂ b, s.claims.get? k₁ = some c₁ → s.claims.get? k₂ = some c₂ →
    c₁.binding? = some b → c₂.binding? = some b → k₁ = k₂
  labelled : ∀ k c b m, s.claims.get? k = some c → c.binding? = some b →
    s.machines.get? b = some m → m.isMember = true
  owned : ∀ key m, s.machines.get? key = some m → m.isMember = true →
    ∃ name g, m.owner? = some name ∧ s.groups.get? (objectKey m.header.space name) = some g

namespace Tidy

variable {s : Store}

theorem unbound (h : s.Tidy) {key : String} {m : Machine} (hm : s.machines.get? key = some m)
    (hfree : m.isMember = false) : s.Unbound key := by
  intro k c hc hb
  have := h.labelled k c key m hc hb hm
  rw [hfree] at this
  cases this

/-- A store in which nothing has been taken. -/
theorem of_untaken (keyed : s.Keyed) (claims : ∀ c ∈ s.claims.values, c.binding? = none)
    (machines : ∀ m ∈ s.machines.values, m.isMember = false) : s.Tidy := by
  have unbound : ∀ k c, s.claims.get? k = some c → c.binding? = none := by
    intro k c hc
    obtain rfl : c.header.key = k := keyed .claim k c hc
    exact claims c ((keyed.mem_values_iff .claim c).2 hc)
  have unlabelled : ∀ key m, s.machines.get? key = some m → m.isMember = false := by
    intro key m hm
    obtain rfl : m.header.key = key := keyed .machine key m hm
    exact machines m ((keyed.mem_values_iff .machine m).2 hm)
  constructor
  · intro k₁ k₂ c₁ c₂ b h₁ _ hb _
    rw [unbound k₁ c₁ h₁] at hb
    cases hb
  · intro k c b m hc hb _
    rw [unbound k c hc] at hb
    cases hb
  · intro key m hm hmember
    rw [unlabelled key m hm] at hmember
    cases hmember

theorem put_group (h : s.Tidy) (g : MachineGroup) : (s.put .group g).Tidy where
  distinct := h.distinct
  labelled := h.labelled
  owned key m hm hmember := by
    obtain ⟨name, g', hname, hg'⟩ := h.owned key m hm hmember
    refine ⟨name, ?_⟩
    have hput := get?_table_put s .group g (objectKey m.header.space name)
    split at hput
    · exact ⟨g, hname, hput⟩
    · exact ⟨g', hname, hput.trans hg'⟩

theorem put_machine (h : s.Tidy) (m : Machine)
    (free : m.isMember = false → s.Unbound m.header.key)
    (member : m.isMember = true → ∃ name g, m.owner? = some name ∧
      s.groups.get? (objectKey m.header.space name) = some g) : (s.put .machine m).Tidy where
  distinct := h.distinct
  labelled k c b m' hc hb hm' := by
    rw [machines_put_machine, NameMap.get?_insert] at hm'
    split at hm'
    · rename_i hkey
      cases hm'
      refine Bool.of_not_eq_false fun hfree => free hfree k c hc (hkey ▸ hb)
    · exact h.labelled k c b m' hc hb hm'
  owned key m' hm' hmember := by
    rw [machines_put_machine, NameMap.get?_insert] at hm'
    split at hm'
    · cases hm'
      exact member hmember
    · exact h.owned key m' hm' hmember

/-- Writing a machine that differs from the stored one neither in its labels nor in its place. -/
theorem put_relabelled (h : s.Tidy) {m m' : Machine} (hm : s.machines.get? m.header.key = some m)
    (hkey : m'.header.key = m.header.key) (hmember : m'.isMember = m.isMember)
    (howner : m'.owner? = m.owner?) (hspace : m'.header.space = m.header.space) :
    (s.put .machine m').Tidy := by
  refine h.put_machine m' (fun hfree => ?_) fun htaken => ?_
  · rw [hkey]
    exact h.unbound hm (hmember ▸ hfree)
  · rw [howner, hspace]
    exact h.owned _ m hm (hmember ▸ htaken)

theorem put_claim (h : s.Tidy) {c : Claim} {b : String} (hb : c.binding? = some b)
    (unbound : s.Unbound b) (member : ∀ m, s.machines.get? b = some m → m.isMember = true) :
    (s.put .claim c).Tidy where
  distinct k₁ k₂ c₁ c₂ b' h₁ h₂ hb₁ hb₂ := by
    have hput₁ := get?_table_put s .claim c k₁
    have hput₂ := get?_table_put s .claim c k₂
    split at hput₁ <;> split at hput₂
    · rename_i hk₁ hk₂
      rw [hk₁, hk₂]
    · rename_i hk₁ hk₂
      obtain rfl : c = c₁ := Option.some.inj (hput₁.symm.trans h₁)
      obtain rfl : b = b' := Option.some.inj (hb.symm.trans hb₁)
      exact absurd hb₂ (unbound k₂ c₂ (hput₂.symm.trans h₂))
    · rename_i hk₁ hk₂
      obtain rfl : c = c₂ := Option.some.inj (hput₂.symm.trans h₂)
      obtain rfl : b = b' := Option.some.inj (hb.symm.trans hb₂)
      exact absurd hb₁ (unbound k₁ c₁ (hput₁.symm.trans h₁))
    · exact h.distinct k₁ k₂ c₁ c₂ b' (hput₁.symm.trans h₁) (hput₂.symm.trans h₂) hb₁ hb₂
  labelled k c' b' m hc' hb' hm := by
    have hput := get?_table_put s .claim c k
    split at hput
    · obtain rfl : c = c' := Option.some.inj (hput.symm.trans hc')
      obtain rfl : b = b' := Option.some.inj (hb.symm.trans hb')
      exact member m hm
    · exact h.labelled k c' b' m (hput.symm.trans hc') hb' hm
  owned := h.owned

end Tidy
end Store

theorem Scene.Spares.isMember_eq {m m' : Machine} (h : m'.header.labels = m.header.labels) :
    m'.isMember = m.isMember := by
  unfold Machine.isMember
  rw [h]

theorem Scene.Spares.tidy {w w' : Scene} (h : w.Spares w') (tidy : w.store.Tidy) :
    w'.store.Tidy where
  distinct k₁ k₂ c₁ c₂ b h₁ h₂ := by
    rw [h.claims] at h₁ h₂
    exact tidy.distinct k₁ k₂ c₁ c₂ b h₁ h₂
  labelled k c b m' hc hb hm' := by
    rw [h.claims] at hc
    obtain ⟨m, hm, hlabels, _⟩ | ⟨_, hnew⟩ := h.machines b m' hm'
    · rw [isMember_eq hlabels]
      exact tidy.labelled k c b m hc hb hm
    · exact absurd (Scene.used_of_bound hc hb) hnew
  owned key m' hm' hmember := by
    obtain ⟨m, hm, hlabels, hspace, _⟩ | ⟨hfree, _⟩ := h.machines key m' hm'
    · rw [isMember_eq hlabels] at hmember
      rw [h.groups, hspace, Machine.owner?, hlabels]
      exact tidy.owned key m hm hmember
    · rw [hfree] at hmember
      cases hmember

namespace Turns

/-- What holds of a scene on which the callers of one provider take turns. -/
structure Orderly (home : Nat) (w : Scene) : Prop where
  keyed : w.store.Keyed
  tidy : w.store.Tidy
  home : ∀ c ∈ w.holders, c.provider = home
  turn : ∀ c ∈ w.holders, ∀ d ∈ w.holders, c = d

/-- What a caller may do: nothing to the store out of its turn, and nothing disorderly in it. -/
structure Keeps (home : Nat) (c : Caller) (w w' : Scene) : Prop where
  advances : w.Advances w'
  orderly : Orderly home w → Orderly home w'
  others : ∀ d, d ≠ c → d ∈ w.holders → d ∈ w'.holders
  own : c ∈ w.holders ∨ w'.store = w.store

/-- What a caller may expect: in its turn only the fleet manager acts. -/
structure Leaves (home : Nat) (c : Caller) (w w' : Scene) : Prop where
  advances : w.Advances w'
  orderly : Orderly home w → Orderly home w'
  turn : c ∈ w.holders → c ∈ w'.holders ∧ (w'.store = w.store ∨ w.Spares w')

variable {home : Nat} {me : Caller} {w w' : Scene}

theorem Orderly.record (h : Orderly home w) (deed : Deed) {s : Store} (keyed : s.Keyed)
    (tidy : s.Tidy) : Orderly home (w.record deed s) := ⟨keyed, tidy, h.home, h.turn⟩

def terms (home : Nat) (me : Caller) : Terms where
  caller := me
  rely := Leaves home me
  guarantee := Keeps home me
  rests w := ⟨.with_holders w w.holders, id, fun _ _ h => h, .inr rfl⟩
  quiet _ _ _ _ :=
    ⟨.record_of_eq _ rfl, fun h => h.record _ h.keyed h.tidy, fun _ _ h => h, .inr rfl⟩

/-- A caller is in its turn. -/
def Inside (home : Nat) (me : Caller) (w : Scene) : Prop := Orderly home w ∧ me ∈ w.holders

/-- A fact about the store that lasts while it is the caller's turn. -/
theorem lasting_inside {P : Scene → Prop}
    (same : ∀ w w', w.Advances w' → w'.store = w.store → P w → P w')
    (spares : ∀ w w', w.Advances w' → w.Spares w' → P w → P w') :
    (terms home me).Lasting fun w => Inside home me w ∧ P w where
  stable w w' h hw := by
    obtain ⟨⟨orderly, mine⟩, hP⟩ := h
    obtain ⟨mine', hsame | hspares⟩ := hw.turn mine
    · exact ⟨⟨hw.orderly orderly, mine'⟩, same w w' hw.advances hsame hP⟩
    · exact ⟨⟨hw.orderly orderly, mine'⟩, spares w w' hw.advances hspares hP⟩
  quiet w c x _ h := by
    obtain ⟨⟨orderly, mine⟩, hP⟩ := h
    exact ⟨⟨orderly.record _ orderly.keyed orderly.tidy, mine⟩,
      same w _ (.record_of_eq _ rfl) rfl hP⟩

theorem lasting_turn : (terms home me).Lasting (Inside home me) where
  stable _ _ h hw := ⟨hw.orderly h.1, (hw.turn h.2).1⟩
  quiet _ _ _ _ h := ⟨h.1.record _ h.1.keyed h.1.tidy, h.2⟩

/-- No claim is bound to a key, and a machine that is stored under it has the label. -/
structure Ours (key : String) (w : Scene) : Prop where
  unbound : w.store.Unbound key
  used : w.Used key
  member : ∀ m, w.store.machines.get? key = some m → m.isMember = true

/-- What is known of a machine that was read under a key. -/
structure Read (key : String) (m : Machine) (w : Scene) : Prop where
  place : m.header.key = key
  copy : w.Copy m
  unbound : m.isMember = false → w.store.Unbound key

theorem unbound_congr {s s' : Store} (h : s'.claims = s.claims) {key : String}
    (hs : s.Unbound key) : s'.Unbound key := by
  unfold Store.Unbound
  rw [h]
  exact hs

theorem lasting_unbound (x : Option Machine) : (terms home me).Lasting fun w =>
    Inside home me w ∧ ∀ m ∈ x, w.store.Unbound m.header.key :=
  lasting_inside (fun _ _ _ hs h m hm => unbound_congr (hs ▸ rfl) (h m hm))
    fun _ _ _ hs h m hm => unbound_congr hs.claims (h m hm)

theorem lasting_read (key : String) (m : Machine) :
    (terms home me).Lasting fun w => Inside home me w ∧ Read key m w :=
  lasting_inside
    (fun _ _ ha hs h =>
      ⟨h.place, h.copy.advances ha, fun hm => unbound_congr (hs ▸ rfl) (h.unbound hm)⟩)
    fun _ _ ha hs h =>
      ⟨h.place, h.copy.advances ha, fun hm => unbound_congr hs.claims (h.unbound hm)⟩

theorem lasting_ours (x : Option Machine) : (terms home me).Lasting fun w =>
    Inside home me w ∧ ∀ m ∈ x, Ours m.header.key w := by
  refine lasting_inside (fun w w' ha hs h m hm => ?_) fun w w' ha hs h m hm => ?_
  · obtain ⟨unbound, used, member⟩ := h m hm
    exact ⟨unbound_congr (hs ▸ rfl) unbound, ha.used _ used, hs ▸ member⟩
  · obtain ⟨unbound, used, member⟩ := h m hm
    refine ⟨unbound_congr hs.claims unbound, ha.used _ used, fun m' hm' => ?_⟩
    obtain ⟨m₀, hm₀, hlabels, _⟩ | ⟨_, hnew⟩ := hs.machines _ m' hm'
    · rw [Scene.Spares.isMember_eq hlabels]
      exact member m₀ hm₀
    · exact absurd used hnew

theorem lasting_group (key : String) : (terms home me).Lasting fun w =>
    Inside home me w ∧ ∃ g, w.store.groups.get? key = some g :=
  lasting_inside (fun _ _ _ hs h => hs ▸ h) fun _ _ _ hs h => hs.groups ▸ h

/-! ### Writes within a turn -/

theorem inside_writeGroup {g : MachineGroup} (h : Inside home me w) :
    Keeps home me w (w.writeGroup me g) ∧ Inside home me (w.writeGroup me g) := by
  have orderly : Orderly home (w.writeGroup me g) :=
    h.1.record _ (h.1.keyed.put .group _) (h.1.tidy.put_group _)
  exact ⟨⟨.record_of_eq _ rfl, fun _ => orderly, fun _ _ hd => hd, .inl h.2⟩, orderly, h.2⟩

theorem inside_writeMachine {m : Machine} (h : Inside home me w)
    (current : w.store.Current .machine m)
    (tidy : (w.store.put .machine (Kind.machine.bump m)).Tidy) :
    Keeps home me w (w.writeMachine me m) ∧ Inside home me (w.writeMachine me m) := by
  have orderly : Orderly home (w.writeMachine me m) :=
    h.1.record _ (h.1.keyed.put .machine _) tidy
  exact ⟨⟨.record_put _ current, fun _ => orderly, fun _ _ hd => hd, .inl h.2⟩, orderly, h.2⟩

theorem keeps_writeClaim {c : Claim} (h : Inside home me w)
    (tidy : (w.store.put .claim (Kind.claim.bump c)).Tidy) :
    Keeps home me w (w.writeClaim me c) :=
  ⟨.record_of_eq _ rfl, fun _ => h.1.record _ (h.1.keyed.put .claim _) tidy,
    fun _ _ hd => hd, .inl h.2⟩

/-- A machine that was read in a turn. -/
theorem read_of_stored (h : Inside home me w) {key : String} {m : Machine}
    (hm : w.store.machines.get? key = some m) : Read key m w where
  place := h.1.keyed .machine key m hm
  copy := by
    have hkey : m.header.key = key := h.1.keyed .machine key m hm
    exact .of_stored (hkey ▸ hm)
  unbound hfree := h.1.tidy.unbound hm hfree

theorem inside_take {w : Scene} (h : Orderly me.provider w)
    (free : ∀ c ∈ w.holders, c.provider ≠ me.provider) :
    Keeps me.provider me w { w with holders := me :: w.holders } ∧
      Inside me.provider me { w with holders := me :: w.holders } := by
  have hnone : w.holders = [] :=
    List.eq_nil_iff_forall_not_mem.2 fun c hc => free c hc (h.home c hc)
  have orderly : Orderly me.provider { w with holders := me :: w.holders } := by
    refine ⟨h.keyed, h.tidy, ?_, ?_⟩ <;> simp [hnone]
  refine ⟨⟨.with_holders w _, fun _ => orderly, fun d _ hd => ?_, .inr rfl⟩, orderly, ?_⟩
  · exact List.mem_cons_of_mem me hd
  · exact List.mem_cons_self

theorem keeps_give (w : Scene) :
    Keeps home me w { w with holders := w.holders.filter (· ≠ me) } where
  advances := .with_holders w _
  orderly h := ⟨h.keyed, h.tidy, fun c hc => h.home c (List.mem_filter.1 hc).1,
    fun c hc d hd => h.turn c (List.mem_filter.1 hc).1 d (List.mem_filter.1 hd).1⟩
  others d hne hd := List.mem_filter.2 ⟨hd, by simpa using hne⟩
  own := .inr rfl

/-! ### The outlines -/

/-- A creation in its turn keeps the store tidy. -/
def creation (home : Nat) (me : Caller) (p : Provider) (claim : Claim) :
    CreateOutline (terms home me) p claim where
  chosen _ := True
  idle := Inside home me
  knowsGroup key g _ := g.header.key = key
  knows key m w := Inside home me w ∧ Read key m w
  reserved r w := Inside home me w ∧ ∃ g, w.store.groups.get? r.key = some g
  labelled r w := Inside home me w ∧ ∀ m ∈ r.machine, Ours m.header.key w
  undoing r w := Inside home me w ∧ ∀ m ∈ r.machine, w.store.Unbound m.header.key
  released _ := Inside home me
  final _ _ := True
  lasting_idle := lasting_turn
  lasting_knowsGroup _ _ := .const _ _
  lasting_knows := lasting_read
  lasting_reserved r := lasting_group r.key
  lasting_labelled r := lasting_ours r.machine
  lasting_undoing r := lasting_unbound r.machine
  lasting_released _ := lasting_turn
  lasting_final _ := .const _ _
  choose _ _ _ _ _ _ := trivial
  stop _ _ _ _ := trivial
  readGroup key g w h hg := h.1.keyed .group key g hg
  raise τ g b w _ h hkey _ _ _ := by
    obtain ⟨keeps, inside⟩ := inside_writeGroup h (g := g.scaled (b + 1))
    refine ⟨keeps, inside, Kind.group.bump (g.scaled (b + 1)), ?_⟩
    show (w.store.groups.insert g.header.key _).get? (objectKey τ.groupSpace τ.groupName) = _
    rw [hkey, NameMap.get?_insert_self]
  list r m w h _ hm :=
    ⟨h.1, read_of_stored h.1 ((h.1.1.keyed.mem_values_iff .machine m).1 hm)⟩
  label r m w h hfree hm current := by
    obtain ⟨inside, g, hg⟩ := h
    have tidy : (w.store.put .machine (Kind.machine.bump m.joined)).Tidy := by
      refine inside.1.tidy.put_machine _ (fun hnot => ?_) fun _ => ⟨r.group, g, ?_, ?_⟩
      · simp at hnot
      · simpa using hfree.owner
      · have hspace : (Kind.machine.bump m.joined).header.space = r.space := hfree.space
        rw [hspace]
        exact hg
    obtain ⟨keeps, inside'⟩ := inside_writeMachine (m := m.joined) inside current tidy
    refine ⟨keeps, inside', fun m' hm' => ?_⟩
    obtain rfl : Kind.machine.bump m.joined = m' := Option.some.inj hm'
    refine ⟨hm.2.unbound hfree.unlabelled, ?_, fun stored hstored => ?_⟩
    · exact (hm.2.copy.used).record _ _
    · rw [Scene.machines_writeMachine, Machine.key_bump, NameMap.get?_insert_self] at hstored
      cases hstored
      simp
  refuse r m _ _ w h hfree hm := by
    refine ⟨(lasting_turn.quiet w _ _ (.inr ⟨_, rfl⟩) h.1), fun m' hm' => ?_⟩
    obtain rfl : m.joined = m' := Option.some.inj hm'
    exact hm.2.unbound hfree.unlabelled
  bind r m τ w h hr _ _ := by
    obtain ⟨inside, ours⟩ := h
    obtain ⟨unbound, _, member⟩ := ours m hr
    refine ⟨keeps_writeClaim inside (inside.1.tidy.put_claim ?_ unbound member), trivial⟩
    exact NameMap.get?_insert_self _ _ _
  giveUp r w h hr := ⟨h.1, by simp [hr]⟩
  abandon r w h := ⟨h.1, fun m hm => (h.2 m hm).unbound⟩
  reread r m stored w h _ hstored := ⟨h.1, read_of_stored h.1 hstored⟩
  empty _ _ h _ := h.1
  gone _ _ _ h _ _ := h.1
  clean _ _ _ _ h _ _ _ _ := h.1
  release r m stored now w h hr hm current _ := by
    have tidy : (w.store.put .machine (Kind.machine.bump (stored.released now))).Tidy := by
      refine h.1.1.tidy.put_machine _ (fun _ => ?_) fun hmember => ?_
      · rw [Machine.key_bump, Machine.key_released, hm.2.place]
        exact h.2 m hr
      · simp at hmember
    refine inside_writeMachine h.1 ?_ tidy
    simpa [Store.Current, Kind.key, Kind.header] using current
  stuck _ _ _ _ _ := trivial
  rereadGroup r g w h hg := h.1.keyed .group r.key g hg
  restore r e g w _ h _ _ := ⟨(inside_writeGroup h).1, trivial⟩
  half _ _ _ _ _ := trivial

/-- A release in its turn keeps the store tidy. -/
def release (home : Nat) (me : Caller) (claim : Claim) : DeleteOutline (terms home me) claim where
  idle := Inside home me
  found m w := Inside home me w ∧ Read m.header.key m w
  owned m _ w := Inside home me w ∧ Read m.header.key m w
  marked m _ _ w := Inside home me w ∧ Read m.header.key m w
  final _ _ := True
  lasting_idle := lasting_turn
  lasting_found m := lasting_read m.header.key m
  lasting_owned m _ := lasting_read m.header.key m
  lasting_marked m _ _ := lasting_read m.header.key m
  lasting_final _ := .const _ _
  stop _ _ _ _ := trivial
  find m w _ h hm :=
    ⟨h, read_of_stored h ((h.1.keyed.mem_values_iff .machine m).1 (List.mem_of_find?_eq_some hm))⟩
  get b space name m w _ _ _ h hm := by
    have hkey : m.header.key = objectKey space name := h.1.keyed .machine _ m hm
    exact ⟨h, read_of_stored h (hkey ▸ hm)⟩
  going _ _ _ _ := trivial
  lost _ _ _ _ _ := trivial
  own _ _ _ _ h _ _ _ := h
  keep _ _ _ _ _ _ := trivial
  already _ _ _ _ h _ _ := h
  mark m g n now w h _ _ current := by
    have hstored := h.2.copy.eq_of_current current
    obtain ⟨keeps, inside⟩ := inside_writeMachine (m := m.marked (Text.decimal now)) h.1 current
      (h.1.1.tidy.put_relabelled hstored rfl rfl rfl rfl)
    refine ⟨keeps, inside, read_of_stored inside ?_⟩
    exact NameMap.get?_insert_self _ _ _
  lower _ _ _ _ _ h _ _ := ⟨(inside_writeGroup h.1).1, trivial⟩
  leave _ _ _ _ _ _ := trivial
  unmark m g e w _ h current := by
    have hstored := h.2.copy.eq_of_current current
    exact ⟨(inside_writeMachine (m := m.unmarked) h.1 current
      (h.1.1.tidy.put_relabelled hstored rfl rfl rfl rfl)).1, trivial⟩
  stuck _ _ _ _ _ _ := trivial

end Turns

/-- One call to a provider. -/
inductive Order where
  | create (claim : Claim)
  | delete (claim : Claim)

/-- The program of a call, whatever it answers. -/
def Order.program (p : Provider) : Order → Program Unit
  | .create claim => (p.create claim).run.bind fun _ => .done ()
  | .delete claim => (Provider.delete claim).run.bind fun _ => .done ()

/-- The callers of one provider make calls with any claims. -/
def Order.Job (p : Provider) (home : Nat) (c : Caller) (q : Program Unit) : Prop :=
  c.provider = home ∧ ∃ order : Order, q = order.program p

namespace Turns

theorem ensures_order (p : Provider) (me : Caller) (order : Order) {w : Scene}
    (h : Orderly me.provider w) :
    (order.program p).Ensures (terms me.provider me) (fun _ _ => True) w := by
  have lasting : (terms me.provider me).Lasting (Orderly me.provider) :=
    ⟨fun _ _ h hw => hw.orderly h, fun _ _ _ _ h => h.record _ h.keyed h.tidy⟩
  cases order with
  | create claim =>
    have ensures : (p.create claim).Ensures (terms me.provider me) (fun _ _ => True) w :=
      (creation me.provider me p claim).ensures_create lasting h (fun _ _ _ _ => trivial)
        (fun w h hfree => inside_take h hfree) (fun _ _ _ _ => trivial)
        fun x w _ => ⟨keeps_give w, trivial⟩
    rw [Order.program, Program.ensures_bind]
    exact ensures
  | delete claim =>
    have ensures : (Provider.delete claim).Ensures (terms me.provider me) (fun _ _ => True) w :=
      (release me.provider me claim).ensures_delete lasting h (fun _ _ _ _ => trivial)
        (fun w h hfree => inside_take h hfree) fun x w _ => ⟨keeps_give w, trivial⟩
    rw [Order.program, Program.ensures_bind]
    exact ensures

/-- Callers who take turns can rely on each other. -/
def pact (p : Provider) (home : Nat) : Pact (Order.Job p home) Scene.Fleet (Orderly home) where
  terms := terms home
  caller _ := rfl
  moves c w w' h hw := by
    refine ⟨hw.orderly h, fun d hne => ⟨hw.advances, hw.orderly, fun hd => ?_⟩⟩
    refine ⟨hw.others d hne hd, hw.own.elim (fun hc => ?_) .inl⟩
    exact absurd (h.turn d hd c hc) hne
  others w w' h hw := by
    have spares := hw.spares
    have orderly : Orderly home w' := by
      refine ⟨spares.keyed h.keyed, spares.tidy h.tidy, ?_, ?_⟩
      · rw [spares.holders]
        exact h.home
      · rw [spares.holders]
        exact h.turn
    refine ⟨orderly, fun _ hd => spares.unknown hd, fun d =>
      ⟨hw.advances, fun _ => orderly, fun hd => ⟨?_, .inr spares⟩⟩⟩
    rw [spares.holders]
    exact hd
  ensures c q w hjob h _ := by
    obtain ⟨rfl, order, rfl⟩ := hjob
    exact ensures_order p c order h

end Turns

/-- Whatever is called on a provider, and however the calls fare, a tidy store stays tidy. -/
theorem runs_keep_tidy {p : Provider} {home : Nat} {s : Store} {σ : Stage Unit} (keyed : s.Keyed)
    (tidy : s.Tidy)
    (run : (Stage.start (Scene.start s)).Reaches (Order.Job p home) Scene.Fleet σ) :
    σ.scene.store.Tidy := by
  have orderly : Turns.Orderly home (Scene.start s) := ⟨keyed, tidy, nofun, nofun⟩
  exact ((Turns.pact p home).reaches orderly run).inv.tidy

theorem runs_keep_tidy_after_create :
    ∃ σ, (Stage.start (Scene.start .claimed)).Reaches (Order.Job .sample 0) Scene.Fleet σ ∧
      Store.claimed.Tidy ∧
      ((σ.scene.store.claims.get? Claim.sample.header.key).bind (·.binding?)) =
        some "ns/worker-1" ∧
      σ.scene.store.Tidy := by
  let order := Order.create (Kind.claim.bump .sample)
  obtain ⟨σ, run, hscene⟩ := Stage.reaches_alone (Order.Job .sample 0) Scene.Fleet (c := ⟨0, 0⟩)
    (p := order.program .sample) ⟨rfl, order, rfl⟩ 0 14 (.start .claimed)
  have tidy : Store.claimed.Tidy :=
    .of_untaken Store.keyed_claimed (by decide +kernel) (by decide +kernel)
  refine ⟨σ, run, tidy, ?_, runs_keep_tidy Store.keyed_claimed tidy run⟩
  rw [hscene]
  decide +kernel

end MachineClaims
