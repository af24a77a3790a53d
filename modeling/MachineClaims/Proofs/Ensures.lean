import MachineClaims.Proofs.Scene

/-!
# What a program ensures

A program works on terms: what others may make of a scene while it is at a request, and what it may
make of a scene itself. `Ensures` folds these over the tree of the program, so every run on these
terms keeps them and ends as promised (`Ensures.of_ends`). There is one rule for each way to build
an action; a loop, a protocol or a whole call is then described by one lemma of its own.
-/

namespace MachineClaims

/-- Whether a call can only read. -/
def Call.reads : Call → Bool
  | .updateGroup _ => false
  | .updateMachine _ => false
  | .updateClaim _ => false
  | _ => true

/-- A call that reads, or that fails, leaves the store as it is. -/
def Call.Quiet (c : Call) (x : Except Failure c.Result) : Prop := c.reads = true ∨ ∃ e, x = .error e

/-- Whether a failure is neither one of undoing nor one that comes after a machine was bound. -/
def Failure.plain : Failure → Bool
  | .compensationFailed _ _ => false
  | .missingProviderId _ => false
  | _ => true

/-- The terms on which a caller works. What leaves the store as it is, is always granted. -/
structure Terms where
  caller : Caller
  rely : Scene → Scene → Prop
  guarantee : Scene → Scene → Prop
  rests : ∀ w, guarantee w w
  quiet : ∀ w (c : Call) x, c.Quiet x → guarantee w (w.record (.call caller c x) w.store)

/-- The terms of a caller who owes nothing to the others. -/
def Terms.beside (others : Scene → Scene → Prop) (me : Caller) : Terms where
  caller := me
  rely := others
  guarantee _ _ := True
  rests _ := trivial
  quiet _ _ _ _ := trivial

/-- What can happen between two writes of the caller: others act, or it makes a quiet call. -/
def Terms.Passes (t : Terms) (w w' : Scene) : Prop :=
  t.rely w w' ∨ ∃ (c : Call) (x : _), c.Quiet x ∧ w' = w.record (.call t.caller c x) w.store

/-- A fact that neither others nor the quiet calls of the caller can spoil. -/
structure Terms.Lasting (t : Terms) (P : Scene → Prop) : Prop where
  stable : ∀ w w', P w → t.rely w w' → P w'
  quiet : ∀ w (c : Call) x, c.Quiet x → P w → P (w.record (.call t.caller c x) w.store)

namespace Terms.Lasting

variable {t : Terms} {P Q : Scene → Prop}

theorem after (hP : t.Lasting P) {w w' : Scene} (h : P w)
    (hw : Relation.ReflTransGen t.rely w w') : P w' := by
  induction hw with
  | refl => exact h
  | tail _ step ih => exact hP.stable _ _ ih step

theorem passes (hP : t.Lasting P) {w w' : Scene} (hw : t.Passes w w') (h : P w) : P w' := by
  obtain hw | ⟨c, x, hx, rfl⟩ := hw
  · exact hP.stable w w' h hw
  · exact hP.quiet w c x hx h

theorem of_passes (h : ∀ w w', t.Passes w w' → P w → P w') : t.Lasting P where
  stable w w' hw step := h w w' (.inl step) hw
  quiet w c x hx hw := h w _ (.inr ⟨c, x, hx, rfl⟩) hw

theorem and (hP : t.Lasting P) (hQ : t.Lasting Q) : t.Lasting fun w => P w ∧ Q w where
  stable w w' h hw := ⟨hP.stable w w' h.1 hw, hQ.stable w w' h.2 hw⟩
  quiet w c x hx h := ⟨hP.quiet w c x hx h.1, hQ.quiet w c x hx h.2⟩

theorem all {ι : Sort*} {P : ι → Scene → Prop} (h : ∀ i, t.Lasting (P i)) :
    t.Lasting fun w => ∀ i, P i w where
  stable w w' hw step i := (h i).stable w w' (hw i) step
  quiet w c x hx hw i := (h i).quiet w c x hx (hw i)

theorem ex {ι : Sort*} {P : ι → Scene → Prop} (h : ∀ i, t.Lasting (P i)) :
    t.Lasting fun w => ∃ i, P i w :=
  .of_passes fun _ _ hw ⟨i, hi⟩ => ⟨i, (h i).passes hw hi⟩

theorem const (t : Terms) (p : Prop) : t.Lasting fun _ => p where
  stable _ _ h _ := h
  quiet _ _ _ _ h := h

end Terms.Lasting

namespace Program

variable {α β : Type} {t : Terms}

/-- Whatever others do, the program keeps its terms, and when it is over the result and the scene
are as promised. -/
def Ensures (t : Terms) (post : α → Scene → Prop) : Program α → Scene → Prop
  | .done a, w => post a w
  | .ask r next, w => ∀ w₁, Relation.ReflTransGen t.rely w w₁ →
      ∀ x w₂, w₁.Answers t.caller r x w₂ → t.guarantee w₁ w₂ ∧ Ensures t post (next x) w₂

theorem Ensures.mono {post post' : α → Scene → Prop} (hpost : ∀ a w, post a w → post' a w)
    {p : Program α} {w : Scene} (h : p.Ensures t post w) : p.Ensures t post' w := by
  induction p generalizing w with
  | done a => exact hpost a w h
  | ask r next ih =>
    intro w₁ hw₁ x w₂ hx
    obtain ⟨kept, rest⟩ := h w₁ hw₁ x w₂ hx
    exact ⟨kept, ih x rest⟩

theorem ensures_bind {post : β → Scene → Prop} (p : Program α) (f : α → Program β) (w : Scene) :
    (p.bind f).Ensures t post w ↔ p.Ensures t (fun a w' => (f a).Ensures t post w') w := by
  induction p generalizing w with
  | done a => exact Iff.rfl
  | ask r next ih => simp only [bind, Ensures, ih]

theorem ensures_seq {post : β → Scene → Prop} {p : Program α} {f : α → Program β} {w : Scene} :
    (p >>= f).Ensures t post w ↔ p.Ensures t (fun a w' => (f a).Ensures t post w') w :=
  ensures_bind p f w

@[simp] theorem ensures_pure {post : α → Scene → Prop} {a : α} {w : Scene} :
    (pure a : Program α).Ensures t post w ↔ post a w := Iff.rfl

/-- Others cannot spoil what a program at a request ensures. -/
theorem Ensures.others {post : α → Scene → Prop} {r : Request} {next : r.Answer → Program α}
    {w w' : Scene} (h : (Program.ask r next).Ensures t post w) (hw : t.rely w w') :
    (Program.ask r next).Ensures t post w' := fun w₁ hw₁ => h w₁ (.head hw hw₁)

theorem Ensures.answer {post : α → Scene → Prop} {r : Request} {next : r.Answer → Program α}
    {w w' : Scene} {x : r.Answer} (h : (Program.ask r next).Ensures t post w)
    (hx : w.Answers t.caller r x w') : t.guarantee w w' ∧ (next x).Ensures t post w' :=
  h w .refl x w' hx

/-- Every run on the terms of a program ends as the program promises. -/
theorem Ensures.of_ends {post : α → Scene → Prop} {p : Program α} {w w' : Scene} {a : α}
    (h : p.Ensures t post w) (run : p.Ends t.caller t.rely w a w') : post a w' := by
  have along : ∀ g : Program α × Scene, Relation.ReflTransGen (Step t.caller t.rely) (p, w) g →
      g.1.Ensures t post g.2 := by
    intro g hg
    induction hg with
    | refl => exact h
    | tail _ step ih =>
      cases step with
      | others hw => exact Ensures.others ih hw
      | answer hx => exact (Ensures.answer ih hx).2
  exact along _ run

end Program

namespace Action

variable {α β : Type} {t : Terms}

/-- What an action ensures of its result and of the scene afterwards. -/
def Ensures (t : Terms) (post : Except Failure α → Scene → Prop) (a : Action α) (w : Scene) :
    Prop :=
  Program.Ensures t post a.run w

theorem Ensures.mono {post post' : Except Failure α → Scene → Prop}
    (hpost : ∀ x w, post x w → post' x w) {a : Action α} {w : Scene} (h : a.Ensures t post w) :
    a.Ensures t post' w := Program.Ensures.mono hpost h

theorem Ensures.of_ends {post : Except Failure α → Scene → Prop} {a : Action α} {w w' : Scene}
    {x : Except Failure α} (h : a.Ensures t post w) (run : a.Ends t.caller t.rely w x w') :
    post x w' := Program.Ensures.of_ends h run

variable {post : Except Failure α → Scene → Prop} {w : Scene}

@[simp] theorem ensures_pure (a : α) : Action.Ensures t post (pure a) w ↔ post (.ok a) w :=
  Iff.rfl

@[simp] theorem ensures_throw (e : Failure) :
    Action.Ensures t post (throw e) w ↔ post (.error e) w := Iff.rfl

@[simp] theorem ensures_ofExcept (x : Except Failure α) :
    (ofExcept x).Ensures t post w ↔ post x w := Iff.rfl

@[simp] theorem ensures_outcome {post : Except Failure (Except Failure α) → Scene → Prop}
    (a : Action α) : a.outcome.Ensures t post w ↔ a.Ensures t (fun x => post (.ok x)) w :=
  Program.ensures_bind a.run _ w

@[simp] theorem ensures_lift (p : Program α) :
    Action.Ensures t post (ExceptT.lift p) w ↔ p.Ensures t (fun a => post (.ok a)) w :=
  Program.ensures_bind p _ w

/-- What an action ensures when something follows that runs only if the action succeeds. -/
def andThen (t : Terms) (f : α → Action β) (post : Except Failure β → Scene → Prop) :
    Except Failure α → Scene → Prop
  | .ok a, w => (f a).Ensures t post w
  | .error e, w => post (.error e) w

theorem ensures_bind {post : Except Failure β → Scene → Prop} (a : Action α) (f : α → Action β) :
    Action.Ensures t post (a >>= f) w ↔ a.Ensures t (andThen t f post) w := by
  show Program.Ensures t post (Program.bind a.run _) w ↔ _
  rw [Program.ensures_bind]
  constructor <;> refine Program.Ensures.mono fun x w' h => ?_
  all_goals cases x <;> exact h

/-- One fact about a result and the scene after it, and another about the scene after a plain
failure. -/
def Either (ok : α → Scene → Prop) (failed : Scene → Prop) : Except Failure α → Scene → Prop
  | .ok a, w => ok a w
  | .error e, w => e.plain ∧ failed w

variable {ok : α → Scene → Prop} {failed : Scene → Prop}

theorem Ensures.bind {post : Except Failure β → Scene → Prop} {a : Action α} {f : α → Action β}
    (h : a.Ensures t (Either ok failed) w) (next : ∀ a w, ok a w → (f a).Ensures t post w)
    (stop : ∀ e w, e.plain → failed w → post (.error e) w) :
    Action.Ensures t post (a >>= f) w := by
  rw [ensures_bind]
  refine h.mono fun x w' hx => ?_
  cases x with
  | ok a => exact next a w' hx
  | error e => exact stop e w' hx.1 hx.2

theorem ensures_call {c : Call} {P : Scene → Prop} (hP : t.Lasting P) (h : P w)
    {post : Except Failure c.Result → Scene → Prop}
    (answered : ∀ w₁ x w₂, P w₁ → w₁.Answers t.caller (.call c) x w₂ →
      t.guarantee w₁ w₂ ∧ post x w₂) : (call c).Ensures t post w :=
  fun w₁ hw₁ x w₂ hx => answered w₁ x w₂ (hP.after h hw₁) hx

theorem ensures_request {r : Request} {P : Scene → Prop} (hP : t.Lasting P) (h : P w)
    {post : Except Failure r.Answer → Scene → Prop}
    (answered : ∀ w₁ x w₂, P w₁ → w₁.Answers t.caller r x w₂ →
      t.guarantee w₁ w₂ ∧ post (.ok x) w₂) : (request r).Ensures t post w :=
  fun w₁ hw₁ x w₂ hx => answered w₁ x w₂ (hP.after h hw₁) hx

private theorem ensures_idle (r : Request) {P : Scene → Prop} (hP : t.Lasting P) (h : P w)
    (idle : ∀ (w : Scene) (x : r.Answer) w', w.Answers t.caller r x w' → w' = w)
    {post : Except Failure r.Answer → Scene → Prop} (next : ∀ x w, P w → post (.ok x) w) :
    (request r).Ensures t post w := by
  refine ensures_request hP h fun w₁ x w₂ h₁ hx => ?_
  rw [idle w₁ x w₂ hx]
  exact ⟨t.rests w₁, next x w₁ h₁⟩

theorem ensures_cancelled {P : Scene → Prop} (hP : t.Lasting P) (h : P w)
    {post : Except Failure Bool → Scene → Prop} (next : ∀ x w, P w → post (.ok x) w) :
    (request .cancelled).Ensures t post w := ensures_idle .cancelled hP h (fun _ _ _ hx => hx) next

theorem ensures_pause {ms : Nat} {P : Scene → Prop} (hP : t.Lasting P) (h : P w)
    {post : Except Failure Bool → Scene → Prop} (next : ∀ x w, P w → post (.ok x) w) :
    (request (.pause ms)).Ensures t post w :=
  ensures_idle (.pause ms) hP h (fun _ _ _ hx => hx) next

theorem ensures_clock {P : Scene → Prop} (hP : t.Lasting P) (h : P w)
    {post : Except Failure Nat → Scene → Prop} (next : ∀ x w, P w → post (.ok x) w) :
    (request .clock).Ensures t post w := ensures_idle .clock hP h (fun _ _ _ hx => hx) next

theorem ensures_instant {past : Nat} {P : Scene → Prop} (hP : t.Lasting P) (h : P w)
    {post : Except Failure { now : Nat // past ≤ now } → Scene → Prop}
    (next : ∀ x w, P w → post (.ok x) w) : (request (.instant past)).Ensures t post w :=
  ensures_idle (.instant past) hP h (fun _ _ _ hx => hx) next

theorem ensures_deadline {time : Nat} {P : Scene → Prop} (hP : t.Lasting P) (h : P w)
    {post : Except Failure Unit → Scene → Prop} (next : ∀ x w, P w → post (.ok x) w) :
    (request (.deadline time)).Ensures t post w :=
  ensures_idle (.deadline time) hP h (fun _ _ _ hx => hx) next

end Action
end MachineClaims
