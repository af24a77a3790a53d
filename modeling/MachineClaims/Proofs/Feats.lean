import MachineClaims.Proofs.Copies

/-!
# Who has labelled what

The history of a scene tells which machines each call of a creation has labelled and released, and
to which one it has bound its claim. A call is legal that labels only a free machine, and releases
only one that it has labelled or that refused its label.
-/

namespace MachineClaims

/-- What an accepted write of a creation amounts to. -/
inductive Feat where
  | label
  | release
  | bind
deriving DecidableEq

namespace Event

/-- The caller of a call. -/
def caller? (e : Event) : Option Caller :=
  match e.deed with
  | .call c _ _ => some c
  | _ => none

/-- What a caller has achieved, and the key of the machine. -/
def feat? (c : Caller) (e : Event) : Option (Feat × String) :=
  match e.deed with
  | .call c' (.updateMachine m) (.ok _) =>
    if c' = c then some (if m.isMember then .label else .release, m.header.key) else none
  | .call c' (.updateClaim claim) (.ok _) =>
    if c' = c then claim.binding?.map (.bind, ·) else none
  | _ => none

/-- A caller writes a machine. -/
def ofMachine (s : Store) (me : Caller) (m : Machine) : Event :=
  ⟨s, .call me (.updateMachine m) (.ok (Kind.machine.bump m)), s.put .machine (Kind.machine.bump m)⟩

/-- A caller writes a claim. -/
def ofClaim (s : Store) (me : Caller) (claim : Claim) : Event :=
  ⟨s, .call me (.updateClaim claim) (.ok (Kind.claim.bump claim)),
    s.put .claim (Kind.claim.bump claim)⟩

theorem feat?_ofMachine (s : Store) (me c : Caller) (m : Machine) : (ofMachine s me m).feat? c =
    if me = c then some (if m.isMember then .label else .release, m.header.key) else none := rfl

theorem feat?_ofClaim (s : Store) (me c : Caller) (claim : Claim) : (ofClaim s me claim).feat? c =
    if me = c then claim.binding?.map (.bind, ·) else none := rfl

/-- Whether a caller's label was refused by the machine under a key. -/
def refuses (c : Caller) (key : String) (e : Event) : Bool :=
  match e.deed with
  | .call c' (.updateMachine m) (.error _) => c' = c && m.isMember && m.header.key == key
  | _ => false

/-- Whether the machine under a key has lost its label or gained a mark. -/
def spoils (key : String) (e : Event) : Bool :=
  match e.before.machines.get? key, e.after.machines.get? key with
  | some m, some m' => (m.isMember && !m'.isMember) || (!m.isMarked && m'.isMarked)
  | _, _ => false

theorem spoils_eq_false_of_eq {key : String} {e : Event}
    (h : e.after.machines.get? key = e.before.machines.get? key) : e.spoils key = false := by
  unfold spoils
  rw [h]
  cases e.before.machines.get? key with
  | none => rfl
  | some m => simp

end Event

/-- All that a caller has achieved, the last first. -/
def feats (events : List Event) (c : Caller) : List (Feat × String) :=
  events.filterMap (·.feat? c)

/-- A caller's label was refused by the machine under a key. -/
def Refused (events : List Event) (c : Caller) (key : String) : Prop :=
  ∃ e ∈ events, e.refuses c key = true

/-- A caller has labelled the machine under a key and has not released it. -/
def Holds (events : List Event) (c : Caller) (key : String) : Prop :=
  (.label, key) ∈ feats events c ∧ (.release, key) ∉ feats events c

/-- All that a caller has done is to label the machine under a key, or to have its label refused. -/
def Tried (events : List Event) (c : Caller) (key : String) : Prop :=
  feats events c = [(.label, key)] ∨ feats events c = [] ∧ Refused events c key

/-- Somebody has released the machine under a key without having labelled it. -/
def Wronged (key : String) : List Event → Prop
  | [] => False
  | e :: past =>
    (∃ c, e.feat? c = some (.release, key) ∧ (.label, key) ∉ feats past c) ∨ Wronged key past

/-- What a step may do, given what came before it. -/
structure Faultless (past : List Event) (e : Event) : Prop where
  spoils : ∀ a key, e.caller? = some a →
    (e.spoils key = true ↔ e.feat? a = some (.release, key))
  /-- Who releases a machine has labelled it, or the label was refused. -/
  releases : ∀ a key, e.feat? a = some (.release, key) →
    (.label, key) ∈ feats past a ∨ Refused past a key
  /-- Who releases a machine that another caller holds has not labelled it. -/
  rivals : ∀ a b key, a ≠ b → e.feat? a = some (.release, key) → Holds past b key →
    ¬ Wronged key past → Refused past a key

/-- Every step of a history is faultless by what came before it. -/
def Judged : List Event → Prop
  | [] => True
  | e :: past => Faultless past e ∧ Judged past

/-- What a step of a caller may be, given what came before it. -/
inductive Legal (me : Caller) (past : List Event) : Event → Prop where
  | quiet {e : Event} (machines : e.after.machines = e.before.machines)
    (feat : ∀ c, e.feat? c = none) : Legal me past e
  | label {s : Store} {m : Machine} (stored : s.machines.get? m.header.key = some m)
    (free : m.isMember = false) (first : feats past me = []) :
    Legal me past (.ofMachine s me m.joined)
  | release {s : Store} {m known : Machine} (stored : s.machines.get? m.header.key = some known)
    (free : m.isMember = false) (marked : m.isMarked = true)
    (needed : known.isMember = true ∨ known.isMarked = false) (tried : Tried past me m.header.key) :
    Legal me past (.ofMachine s me m)
  | bind {s : Store} {claim : Claim} {key : String} (binding : claim.binding? = some key)
    (labelled : feats past me = [(.label, key)]) : Legal me past (.ofClaim s me claim)

variable {me c : Caller} {past : List Event} {e : Event}

theorem feats_cons_of_none (h : e.feat? c = none) : feats (e :: past) c = feats past c := by
  simp [feats, h]

theorem feats_cons_of_some {x : Feat × String} (h : e.feat? c = some x) :
    feats (e :: past) c = x :: feats past c := by
  simp [feats, h]

theorem feats_ofMachine_self (s : Store) (m : Machine) : feats (.ofMachine s c m :: past) c =
    (if m.isMember then .label else .release, m.header.key) :: feats past c :=
  feats_cons_of_some (by rw [Event.feat?_ofMachine, if_pos rfl])

theorem mem_feats_cons {x : Feat × String} (h : x ∈ feats past c) : x ∈ feats (e :: past) c := by
  unfold feats
  rw [List.filterMap_cons]
  split
  · exact h
  · exact List.mem_cons_of_mem _ h

theorem Refused.cons {key : String} (h : Refused past c key) (e : Event) :
    Refused (e :: past) c key := by
  obtain ⟨e', he', hr⟩ := h
  exact ⟨e', List.mem_cons_of_mem e he', hr⟩

theorem Tried.of_label {key key' : String} (h : Tried past c key)
    (hlabel : (.label, key') ∈ feats past c) : key' = key ∧ Holds past c key := by
  obtain hl | ⟨hnone, _⟩ := h
  · rw [hl] at hlabel
    refine ⟨by simpa using hlabel, ?_, ?_⟩
    · rw [hl]
      exact List.mem_cons_self
    · simp [hl]
  · rw [hnone] at hlabel
    cases hlabel

theorem Tried.not_bind {key key' : String} (h : Tried past c key) :
    (.bind, key') ∉ feats past c := by
  obtain hl | ⟨hnone, _⟩ := h
  · simp [hl]
  · simp [hnone]

theorem caller?_of_feat? {x : Feat × String} (h : e.feat? c = some x) : e.caller? = some c := by
  obtain ⟨before, deed, after⟩ := e
  cases deed with
  | operation => cases h
  | foreign => cases h
  | call c' call answer =>
    have hc : c' = c := by
      cases call <;> cases answer <;> simp_all [Event.feat?]
    rw [← hc]
    rfl

theorem exists_release_of_wronged {key : String} (h : Wronged key past) :
    ∃ e ∈ past, ∃ c, e.feat? c = some (.release, key) := by
  induction past with
  | nil => cases h
  | cons e past ih =>
    obtain ⟨c, hc, _⟩ | h := h
    · exact ⟨e, List.mem_cons_self, c, hc⟩
    · obtain ⟨e', he', hc⟩ := ih h
      exact ⟨e', List.mem_cons_of_mem e he', hc⟩

theorem faultless_of_unspoilt (spoils : ∀ key, e.spoils key = false)
    (h : ∀ c key, e.feat? c ≠ some (.release, key)) : Faultless past e where
  spoils a key _ := by
    rw [spoils key]
    exact ⟨nofun, fun hf => absurd hf (h a key)⟩
  releases a key hf := absurd hf (h a key)
  rivals a _ key _ hf := absurd hf (h a key)

namespace Judged

theorem of_append {later earlier : List Event} (h : Judged (later ++ earlier)) :
    Judged earlier := by
  induction later with
  | nil => exact h
  | cons _ later ih => exact ih h.2

/-- The label of somebody was refused by a machine that was released without having been labelled.
-/
theorem refused_of_wronged {key : String} (h : Judged past) (hw : Wronged key past) :
    ∃ c, Refused past c key := by
  induction past with
  | nil => cases hw
  | cons e past ih =>
    obtain ⟨c, hc, hnot⟩ | hw := hw
    · obtain hlabel | hrefused := h.1.releases c key hc
      · exact absurd hlabel hnot
      · exact ⟨c, hrefused.cons e⟩
    · obtain ⟨c, hc⟩ := ih h.2 hw
      exact ⟨c, hc.cons e⟩

end Judged

/-- A legal step is no feat of anybody else. -/
theorem Legal.feat?_eq_none (h : Legal me past e) (hne : c ≠ me) : e.feat? c = none := by
  cases h with
  | quiet _ feat => exact feat c
  | label => exact if_neg hne.symm
  | release => exact if_neg hne.symm
  | bind => exact if_neg hne.symm

end MachineClaims
