import MachineClaims.Proofs.Ensures
import MachineClaims.Proofs.Serve
import Mathlib.Logic.Function.Basic

/-!
# Many programs on one scene

On a stage any number of programs run, interleaved request by request; new ones start at any time,
and in between others change the scene. If everybody keeps to terms that the terms of all others
rely on, what the terms preserve holds on every stage that is reached (`Pact.reaches`).
-/

namespace MachineClaims

/-- A scene with the programs that have started. -/
structure Stage (α : Type) where
  scene : Scene
  programs : Caller → Option (Program α)

namespace Stage

variable {α : Type}

/-- A stage on which nothing has started. -/
def start (w : Scene) : Stage α := ⟨w, fun _ => none⟩

/-- The stage after a program has come to a point. -/
def set (σ : Stage α) (w : Scene) (c : Caller) (p : Program α) : Stage α :=
  ⟨w, Function.update σ.programs c (some p)⟩

/-- One move on a stage. A caller runs one program only. -/
inductive Step (job : Caller → Program α → Prop) (others : Scene → Scene → Prop) :
    Stage α → Stage α → Prop where
  | starts {σ : Stage α} {c : Caller} {p : Program α} (new : σ.programs c = none) (h : job c p) :
    Step job others σ (σ.set σ.scene c p)
  | moves {σ : Stage α} {c : Caller} {r : Request} {next : r.Answer → Program α} {x : r.Answer}
    {w : Scene} (asks : σ.programs c = some (.ask r next)) (h : σ.scene.Answers c r x w) :
    Step job others σ (σ.set w c (next x))
  | others {σ : Stage α} {w : Scene} (h : others σ.scene w) : Step job others σ ⟨w, σ.programs⟩

/-- A run from one stage to another. -/
def Reaches (job : Caller → Program α → Prop) (others : Scene → Scene → Prop) :
    Stage α → Stage α → Prop :=
  Relation.ReflTransGen (Step job others)

variable (job : Caller → Program α → Prop) (others : Scene → Scene → Prop) {σ : Stage α}

theorem set_self {c : Caller} {p : Program α} (h : σ.programs c = some p) :
    σ.set σ.scene c p = σ := by
  unfold set
  rw [← h, Function.update_eq_self]

theorem set_set (w w' : Scene) (c : Caller) (p p' : Program α) :
    (σ.set w c p).set w' c p' = σ.set w' c p' := by
  unfold set
  rw [Function.update_idem]

/-- A program on a stage can be served for so many requests. -/
theorem reaches_advance {c : Caller} {p : Program α} (now n : Nat) (h : σ.programs c = some p) :
    σ.Reaches job others (σ.set (p.advance c now n σ.scene).2 c (p.advance c now n σ.scene).1) := by
  induction n generalizing σ p with
  | zero =>
    rw [Program.advance, set_self h]
    exact .refl
  | succ n ih =>
    cases p with
    | done a =>
      rw [Program.advance, set_self h]
      · exact .refl
      · exact nofun
    | ask r next =>
      have served := @ih (σ.set (σ.scene.serve c now r).2 c (next (σ.scene.serve c now r).1))
        (next (σ.scene.serve c now r).1) (Function.update_self ..)
      rw [set_set] at served
      exact .head (.moves h (σ.scene.answers_serve c now r)) served

/-- The only program that starts. -/
theorem reaches_only {c : Caller} {p : Program α} (h : job c p) (now n : Nat) (w : Scene) :
    ∃ σ, (start w).Reaches job others σ ∧ σ.scene = (p.advance c now n w).2 ∧
      ∀ d q, σ.programs d = some q → q = (p.advance c now n w).1 := by
  have started : (start w).Reaches job others ((start w).set w c p) :=
    .single (.starts rfl h)
  refine ⟨_, started.trans (reaches_advance job others now n (Function.update_self ..)), rfl,
    fun d q hq => ?_⟩
  by_cases hd : d = c
  · subst hd
    exact Eq.symm (by simpa [set] using hq)
  · simp [set, start, hd] at hq

/-- A program that starts alone. -/
theorem reaches_alone {c : Caller} {p : Program α} (h : job c p) (now n : Nat) (w : Scene) :
    ∃ σ, (start w).Reaches job others σ ∧ σ.scene = (p.advance c now n w).2 := by
  obtain ⟨σ, run, hscene, _⟩ := reaches_only job others h now n w
  exact ⟨σ, run, hscene⟩

/-- A program that starts, is overtaken by another, and goes on. -/
theorem reaches_overtaken {c d : Caller} {p q : Program α} (hne : c ≠ d) (hp : job c p)
    (hq : job d q) (now n n' n'' : Nat) (w : Scene) :
    ∃ σ, (start w).Reaches job others σ ∧
      σ.scene = ((p.advance c now n w).1.advance c now n''
        (q.advance d now n' (p.advance c now n w).2).2).2 := by
  let σ₁ := ((start w).set w c p).set w d q
  let σ₂ := σ₁.set (p.advance c now n w).2 c (p.advance c now n w).1
  let σ₃ := σ₂.set (q.advance d now n' σ₂.scene).2 d (q.advance d now n' σ₂.scene).1
  have started : (start w).Reaches job others σ₁ := by
    refine (Relation.ReflTransGen.single (.starts rfl hp)).tail (.starts ?_ hq)
    exact Function.update_of_ne hne.symm _ _
  have first : σ₁.Reaches job others σ₂ := by
    refine reaches_advance job others now n ?_
    exact (Function.update_of_ne hne _ _).trans (Function.update_self ..)
  have second : σ₂.Reaches job others σ₃ := by
    refine reaches_advance job others now n' ?_
    exact (Function.update_of_ne hne.symm _ _).trans (Function.update_self ..)
  let r := (p.advance c now n w).1.advance c now n'' σ₃.scene
  have third : σ₃.Reaches job others (σ₃.set r.2 c r.1) := by
    refine reaches_advance job others now n'' ?_
    exact (Function.update_of_ne hne _ _).trans (Function.update_self ..)
  exact ⟨_, ((started.trans first).trans second).trans third, rfl⟩

end Stage

/-- A caller who has done nothing and holds nothing. -/
structure Scene.Unknown (w : Scene) (c : Caller) : Prop where
  idle : ∀ e ∈ w.events, ∀ call x, e.deed ≠ .call c call x
  free : c ∉ w.holders

theorem Scene.unknown_start (s : Store) (c : Caller) : (Scene.start s).Unknown c where
  idle _ he := absurd he List.not_mem_nil
  free := List.not_mem_nil

theorem Scene.Unknown.answers {w w' : Scene} {c d : Caller} {r : Request} {x : r.Answer}
    (h : w.Unknown d) (hne : c ≠ d) (hx : w.Answers c r x w') : w'.Unknown d := by
  have record : ∀ call (x : Except Failure call.Result) s,
      (w.record (.call c call x) s).Unknown d := by
    intro call x s
    refine ⟨fun e he => ?_, h.free⟩
    obtain rfl | he := List.mem_cons.1 he
    · intro call' x' heq
      cases heq
      exact hne rfl
    · exact h.idle e he
  cases r with
  | call call =>
    obtain ⟨_, rfl⟩ | ⟨_, _, _, rfl⟩ := hx
    · exact record call x _
    · exact record call x _
  | store op =>
    obtain ⟨_, rfl⟩ := hx
    refine ⟨fun e he => ?_, h.free⟩
    obtain rfl | he := List.mem_cons.1 he
    · exact nofun
    · exact h.idle e he
  | clock | instant past | deadline time | cancelled | pause ms =>
    obtain rfl : w' = w := hx
    exact h
  | lock =>
    cases x with
    | false =>
      obtain rfl : w' = w := hx
      exact h
    | true =>
      obtain ⟨_, rfl⟩ : _ ∧ w' = _ := hx
      exact ⟨h.idle, by simpa using ⟨hne.symm, h.free⟩⟩
  | unlock =>
    obtain rfl : w' = _ := hx
    exact ⟨h.idle, fun hmem => h.free (List.mem_filter.1 hmem).1⟩

/-- Terms for every caller such that all can rely on what all guarantee, and what a caller's program
leaves when it is over. -/
structure Pact {α : Type} (job : Caller → Program α → Prop) (others : Scene → Scene → Prop)
    (inv : Scene → Prop) where
  terms : Caller → Terms
  post : Caller → α → Scene → Prop := fun _ _ _ => True
  caller : ∀ c, (terms c).caller = c
  stays : ∀ c a w w', post c a w → (terms c).rely w w' → post c a w' := by
    exact fun _ _ _ _ h _ => h
  moves : ∀ c w w', inv w → (terms c).guarantee w w' →
    inv w' ∧ ∀ d, d ≠ c → (terms d).rely w w'
  others : ∀ w w', inv w → others w w' →
    inv w' ∧ (∀ d, w.Unknown d → w'.Unknown d) ∧ ∀ d, (terms d).rely w w'
  ensures : ∀ c p w, job c p → inv w → w.Unknown c → p.Ensures (terms c) (post c) w

namespace Pact

variable {α : Type} {job : Caller → Program α → Prop} {others : Scene → Scene → Prop}
  {inv : Scene → Prop}

/-- What holds on every stage: the invariant, and that every program still keeps its terms. -/
structure Kept (pact : Pact job others inv) (σ : Stage α) : Prop where
  inv : inv σ.scene
  unknown : ∀ c, σ.programs c = none → σ.scene.Unknown c
  ensures : ∀ c p, σ.programs c = some p → p.Ensures (pact.terms c) (pact.post c) σ.scene

theorem ensures_rely {t : Terms} {post : α → Scene → Prop} {p : Program α} {w w' : Scene}
    (hpost : ∀ a, post a w → post a w') (h : p.Ensures t post w) (hw : t.rely w w') :
    p.Ensures t post w' := by
  cases p with
  | done a => exact hpost a h
  | ask r next => exact h.others hw

theorem Kept.step (pact : Pact job others inv) {σ σ' : Stage α} (h : pact.Kept σ)
    (step : Stage.Step job others σ σ') : pact.Kept σ' := by
  cases step with
  | @starts c p new hjob =>
    refine ⟨h.inv, fun d hd => h.unknown d ?_, fun d q hq => ?_⟩
    · by_cases hdc : d = c
      · rw [hdc]
        exact new
      · simpa [Stage.set, hdc] using hd
    · by_cases hdc : d = c
      · subst hdc
        obtain rfl : p = q := by simpa [Stage.set] using hq
        exact pact.ensures d p σ.scene hjob h.inv (h.unknown d new)
      · exact h.ensures d q (by simpa [Stage.set, hdc] using hq)
  | @moves c r next x w asks hx =>
    have hanswer : σ.scene.Answers (pact.terms c).caller r x w := by rwa [pact.caller]
    obtain ⟨guaranteed, rest⟩ := Program.Ensures.answer (h.ensures c _ asks) hanswer
    obtain ⟨hinv, hrely⟩ := pact.moves c _ _ h.inv guaranteed
    refine ⟨hinv, fun d hd => ?_, fun d q hq => ?_⟩
    · by_cases hdc : d = c
      · simp [Stage.set, hdc] at hd
      · refine (h.unknown d ?_).answers (Ne.symm hdc) hx
        simpa [Stage.set, hdc] using hd
    · by_cases hdc : d = c
      · subst hdc
        obtain rfl : next x = q := by simpa [Stage.set] using hq
        exact rest
      · exact ensures_rely (fun _ h => pact.stays d _ _ _ h (hrely d hdc))
          (h.ensures d q (by simpa [Stage.set, hdc] using hq)) (hrely d hdc)
  | @others w hw =>
    obtain ⟨hinv, hunknown, hrely⟩ := pact.others _ _ h.inv hw
    exact ⟨hinv, fun d hd => hunknown d (h.unknown d hd),
      fun d q hq => ensures_rely (fun _ h => pact.stays d _ _ _ h (hrely d)) (h.ensures d q hq)
        (hrely d)⟩

/-- On every stage that is reached the pact is kept. -/
theorem reaches (pact : Pact job others inv) {s : Store} {σ : Stage α} (h : inv (Scene.start s))
    (run : (Stage.start (Scene.start s)).Reaches job others σ) : pact.Kept σ := by
  induction run with
  | refl => exact ⟨h, fun c _ => Scene.unknown_start s c, fun _ _ hp => nomatch hp⟩
  | tail _ step ih => exact ih.step pact step

end Pact
end MachineClaims
