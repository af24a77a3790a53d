import MachineClaims.Proofs.DeleteOutline
import MachineClaims.Proofs.Doings
import MachineClaims.Proofs.Stage

/-!
# Callers who take turns

The calls to one provider take turns, and out of its turn a call changes nothing. A shift says what
all deeds keep, those of the callers and those of others; then a caller can count on it that in its
turn only those others act, and that what it has done itself stays its doing. Whatever is proved of
one turn on these terms holds of all runs (`Shift.pact`).
-/

namespace MachineClaims

/-- A caller changes nothing: it takes or gives back a turn, or makes a quiet call. -/
inductive Scene.Idles (c : Caller) : Scene → Scene → Prop where
  | turn {w : Scene} (holders : List Caller) : Idles c w { w with holders }
  | quiet {w : Scene} {call : Call} {x : Except Failure call.Result} (h : call.Quiet x) :
    Idles c w (w.record (.call c call x) w.store)

theorem Scene.Idles.store_eq {c : Caller} {w w' : Scene} (h : w.Idles c w') :
    w'.store = w.store := by
  cases h <;> rfl

theorem Scene.Idles.doings_eq {c d : Caller} {w w' : Scene} (h : w.Idles c w') (hne : c ≠ d) :
    w'.doings d = w.doings d := by
  cases h with
  | turn holders => rfl
  | quiet h => exact doings_record_of_ne (by simpa [Event.caller?] using hne)

/-- Somebody who does not call the provider has changed the store. -/
def Scene.Alien (w w' : Scene) : Prop :=
  ∃ deed s, w' = w.record deed s ∧ ∀ c call x, deed ≠ .call c call x

theorem Scene.Alien.doings_eq {w w' : Scene} (h : w.Alien w') (c : Caller) :
    w'.doings c = w.doings c := by
  obtain ⟨deed, s, rfl, hdeed⟩ := h
  refine doings_record_of_ne ?_
  cases deed with
  | call c call x => exact absurd rfl (hdeed c call x)
  | _ => exact nofun

/-- Who has not called has done nothing. -/
theorem Scene.Unknown.doings_eq_nil {w : Scene} {c : Caller} (h : w.Unknown c) :
    w.doings c = [] := by
  refine List.filter_eq_nil_iff.2 fun e he hcaller => ?_
  have hidle := h.idle e he
  unfold Event.caller? at hcaller
  split at hcaller
  · rename_i d call x hdeed
    obtain rfl : d = c := by simpa using hcaller
    exact hidle call x hdeed
  · simp at hcaller

/-- What is kept while the callers of one provider take turns: by what they do to the store, which
is for each use to prove, and by turns, quiet calls and the deeds of others. -/
structure Shift where
  home : Nat
  inv : Scene → Prop
  world : Scene → Scene → Prop
  idles : ∀ c w w', inv w → w.Idles c w' → inv w'
  spares : ∀ w w', inv w → world w w' → inv w'
  alien : ∀ w w', world w w' → w.Alien w'

namespace Shift

variable (h : Shift) (me : Caller)

/-- What holds of every scene. -/
structure Orderly (w : Scene) : Prop where
  inv : h.inv w
  home : ∀ c ∈ w.holders, c.provider = h.home
  turn : ∀ c ∈ w.holders, ∀ d ∈ w.holders, c = d

/-- What a caller may do: nothing to the store out of its turn, and nothing disorderly in it. -/
structure Keeps (w w' : Scene) : Prop where
  orderly : h.Orderly w → h.Orderly w'
  others : ∀ d, d ≠ me → d ∈ w.holders → d ∈ w'.holders
  met : ∀ P, w.Met P → w'.Met P
  doings : ∀ d, d ≠ me → w'.doings d = w.doings d
  own : me ∈ w.holders ∨ w.Idles me w'

/-- What a caller may expect: in its turn other callers are idle. -/
structure Leaves (w w' : Scene) : Prop where
  orderly : h.Orderly w → h.Orderly w'
  met : ∀ P, w.Met P → w'.Met P
  doings : w'.doings me = w.doings me
  turn : me ∈ w.holders → me ∈ w'.holders ∧ ((∃ d, w.Idles d w') ∨ h.world w w')

variable {h me} {w w' : Scene}

theorem Orderly.record (hw : h.Orderly w) {deed : Deed} {s : Store}
    (inv : h.inv (w.record deed s)) : h.Orderly (w.record deed s) := ⟨inv, hw.home, hw.turn⟩

theorem keeps_quiet {call : Call} {x : Except Failure call.Result} (hx : call.Quiet x) :
    Keeps h me w (w.record (.call me call x) w.store) where
  orderly hw := hw.record (h.idles me w _ hw.inv (.quiet hx))
  others _ _ hd := hd
  met _ hP := hP.record _ _
  doings _ hne := (Scene.Idles.quiet hx).doings_eq hne.symm
  own := .inr (.quiet hx)

/-- The terms of a caller. -/
def terms (h : Shift) (me : Caller) : Terms where
  caller := me
  rely := h.Leaves me
  guarantee := h.Keeps me
  rests w := ⟨id, fun _ _ hd => hd, fun _ hP => hP, fun _ _ => rfl, .inr (.turn w.holders)⟩
  quiet _ _ _ hx := keeps_quiet hx

/-- A caller is in its turn. -/
structure Inside (h : Shift) (me : Caller) (w : Scene) : Prop where
  orderly : h.Orderly w
  mine : me ∈ w.holders

theorem lasting_orderly : (h.terms me).Lasting h.Orderly where
  stable _ _ hw step := step.orderly hw
  quiet _ _ _ hx hw := (keeps_quiet hx).orderly hw

theorem lasting_met (P : Store → Prop) : (h.terms me).Lasting (·.Met P) where
  stable _ _ hw step := step.met P hw
  quiet _ _ _ _ hw := hw.record _ _

theorem personal : (h.terms me).Personal := fun _ _ step => step.doings

theorem lasting_writes (k : Kind) (l : List Event) :
    (h.terms me).Lasting fun w => w.writes me k = l := personal.lasting_writes k l

theorem lasting_passive : (h.terms me).Lasting (·.Passive me) := personal.lasting_passive

theorem lasting_turn : (h.terms me).Lasting (h.Inside me) where
  stable _ _ hw step := ⟨step.orderly hw.1, (step.turn hw.2).1⟩
  quiet _ _ _ hx hw := ⟨(keeps_quiet hx).orderly hw.1, hw.2⟩

/-- A fact that lasts while it is the caller's turn. -/
theorem lasting_inside {P : Scene → Prop} (idles : ∀ d w w', w.Idles d w' → P w → P w')
    (world : ∀ w w', h.inv w → h.world w w' → P w → P w') :
    (h.terms me).Lasting fun w => h.Inside me w ∧ P w where
  stable w w' hw step := by
    obtain ⟨inside, hP⟩ := hw
    refine ⟨lasting_turn.stable w w' inside step, ?_⟩
    obtain ⟨_, ⟨d, hidle⟩ | hworld⟩ := step.turn inside.2
    · exact idles d w w' hidle hP
    · exact world w w' inside.1.inv hworld hP
  quiet w c x hx hw :=
    ⟨lasting_turn.quiet w c x hx hw.1, idles me w _ (.quiet hx) hw.2⟩

/-- Taking a turn. -/
theorem take (home : me.provider = h.home) (hw : h.Orderly w)
    (free : ∀ c ∈ w.holders, c.provider ≠ me.provider) :
    Keeps h me w { w with holders := me :: w.holders } ∧
      h.Inside me { w with holders := me :: w.holders } := by
  -- all who may hold a lock hold the one that is free
  have hnone : w.holders = [] :=
    List.eq_nil_iff_forall_not_mem.2 fun c hc => free c hc ((hw.home c hc).trans home.symm)
  have orderly : h.Orderly { w with holders := me :: w.holders } := by
    refine ⟨h.idles me w _ hw.inv (.turn _), ?_, ?_⟩ <;> simp [hnone, home]
  refine ⟨⟨fun _ => orderly, fun d _ hd => ?_, fun _ hP => hP, fun _ _ => rfl, .inr (.turn _)⟩,
    orderly, ?_⟩
  · exact List.mem_cons_of_mem me hd
  · exact List.mem_cons_self

/-- Giving a turn back. -/
theorem give (w : Scene) : Keeps h me w { w with holders := w.holders.filter (· ≠ me) } where
  orderly hw := ⟨h.idles me w _ hw.inv (.turn _), fun c hc => hw.home c (List.mem_filter.1 hc).1,
    fun c hc d hd => hw.turn c (List.mem_filter.1 hc).1 d (List.mem_filter.1 hd).1⟩
  others d hne hd := List.mem_filter.2 ⟨hd, by simpa using hne⟩
  met _ hP := hP
  doings _ _ := rfl
  own := .inr (.turn _)

/-- Writing in one's turn. -/
theorem Inside.write (hw : h.Inside me w) {call : Call} {x : Except Failure call.Result} {s : Store}
    (inv : h.inv (w.record (.call me call x) s)) :
    Keeps h me w (w.record (.call me call x) s) ∧
      h.Inside me (w.record (.call me call x) s) where
  left := ⟨fun _ => hw.1.record inv, fun _ _ hd => hd, fun _ hP => hP.record _ _,
    fun d hne => Scene.doings_record_of_ne (by simpa [Event.caller?] using hne.symm), .inl hw.2⟩
  right := ⟨hw.1.record inv, hw.2⟩

variable (h)

/-- Callers who take turns can rely on each other. -/
def pact {α : Type} (job : Caller → Program α → Prop) (post : Caller → α → Scene → Prop)
    (stays : ∀ c a w w', post c a w → h.Leaves c w w' → post c a w')
    (ensures : ∀ c p w, job c p → h.Orderly w → w.Unknown c → p.Ensures (h.terms c) (post c) w) :
    Pact job h.world h.Orderly where
  terms := h.terms
  post := post
  caller _ := rfl
  stays := stays
  ensures := ensures
  moves c w w' hw step := by
    refine ⟨step.orderly hw, fun d hne => ⟨step.orderly, step.met, step.doings d hne, fun hd => ?_⟩⟩
    refine ⟨step.others d hne hd, .inl ⟨c, step.own.resolve_left fun hc => ?_⟩⟩
    exact hne (hw.turn d hd c hc)
  others w w' hw step := by
    have alien := h.alien w w' step
    obtain ⟨deed, s, rfl, hdeed⟩ := id alien
    have orderly : h.Orderly (w.record deed s) := hw.record (h.spares w _ hw.inv step)
    refine ⟨orderly, fun d hd => ⟨fun e he => ?_, hd.free⟩, fun d =>
      ⟨fun _ => orderly, fun _ hP => hP.record _ _, alien.doings_eq d,
        fun hd => ⟨hd, .inr step⟩⟩⟩
    obtain rfl | he := List.mem_cons.1 he
    · exact hdeed d
    · exact hd.idle e he

end Shift
end MachineClaims
