import MachineClaims.Proofs.Keyed
import MachineClaims.Proofs.Ensures

/-!
# What calls answer

For each call, all that its answer may be and what it leaves behind. Reading leaves the store as it
is. Writing fails and leaves it too, or it is based on the stored version and puts the next one.
Each call has a rule for what it ensures: a lasting fact before the call, a lasting fact that what
was read or written adds, and the fact before it when the call fails.
-/

namespace MachineClaims

namespace Scene

variable {w w' : Scene} {me : Caller}

private theorem answers_reading {c : Call} {x : Except Failure c.Result}
    (same : (c.perform w.store).2 = w.store) (h : w.Answers me (.call c) x w') :
    w' = w.record (.call me c x) w.store ∧
      (x = (c.perform w.store).1 ∨ ∃ activity error, x = .error (.store activity error)) := by
  obtain ⟨hx, hw⟩ | ⟨activity, error, hx, hw⟩ := h
  · exact ⟨by rw [hw, same], .inl hx⟩
  · exact ⟨hw, .inr ⟨activity, error, hx⟩⟩

private theorem written_cases (activity : Activity) (s : Store) (k : Kind) (o : k.Object) :
    (∃ error, Call.written activity s (s.update k o) = (.error (.store activity error), s)) ∨
      s.Current k o ∧
        Call.written activity s (s.update k o) = (.ok (k.bump o), s.put k (k.bump o)) := by
  cases h : s.update k o with
  | error e => exact .inl ⟨e, rfl⟩
  | ok r =>
    obtain ⟨o', s'⟩ := r
    obtain ⟨hcurrent, rfl, rfl⟩ := Store.update_ok h
    exact .inr ⟨hcurrent, rfl⟩

private theorem answers_writing (c : Call) (activity : Activity) (k : Kind) (o : k.Object)
    (result : k.Object → Except Failure c.Result) {x : Except Failure c.Result}
    (fails : ∀ error, Call.written activity w.store (w.store.update k o) =
      (.error (.store activity error), w.store) →
      c.perform w.store = (.error (.store activity error), w.store))
    (succeeds : Call.written activity w.store (w.store.update k o) =
      (.ok (k.bump o), w.store.put k (k.bump o)) →
      c.perform w.store = (result (k.bump o), w.store.put k (k.bump o)))
    (h : w.Answers me (.call c) x w') :
    (∃ activity error, x = .error (.store activity error) ∧
      w' = w.record (.call me c x) w.store) ∨
    w.store.Current k o ∧ x = result (k.bump o) ∧
      w' = w.record (.call me c x) (w.store.put k (k.bump o)) := by
  obtain ⟨hx, hw⟩ | ⟨activity, error, hx, hw⟩ := h
  · obtain ⟨error, he⟩ | ⟨hcurrent, hok⟩ := written_cases activity w.store k o
    · rw [fails error he] at hx hw
      exact .inl ⟨activity, error, hx, hw⟩
    · rw [succeeds hok] at hx hw
      exact .inr ⟨hcurrent, hx, hw⟩
  · exact .inl ⟨activity, error, hx, hw⟩

theorem answers_getGroup {space name : String} {x : Except Failure MachineGroup}
    (h : w.Answers me (.call (.getGroup space name)) x w') :
    w' = w.record (.call me (.getGroup space name) x) w.store ∧
      ((∃ g, x = .ok g ∧ w.store.groups.get? (objectKey space name) = some g) ∨
        ∃ activity error, x = .error (.store activity error)) := by
  obtain ⟨hw, hx⟩ := answers_reading rfl h
  refine ⟨hw, hx.elim (fun hx => ?_) .inr⟩
  simp only [Call.perform, Store.get, Store.lookup, Store.table] at hx
  cases hget : w.store.groups.get? (objectKey space name) with
  | none =>
    rw [hget] at hx
    exact .inr ⟨_, _, hx⟩
  | some g =>
    rw [hget] at hx
    exact .inl ⟨g, hx, rfl⟩

theorem answers_getMachine {space name : String} {x : Except Failure (Option Machine)}
    (h : w.Answers me (.call (.getMachine space name)) x w') :
    w' = w.record (.call me (.getMachine space name) x) w.store ∧
      (x = .ok (w.store.machines.get? (objectKey space name)) ∨
        ∃ activity error, x = .error (.store activity error)) := by
  obtain ⟨hw, hx⟩ := answers_reading rfl h
  refine ⟨hw, hx.elim (fun hx => .inl ?_) .inr⟩
  rw [hx]
  simp only [Call.perform, Store.get, Store.lookup, Store.table]
  cases w.store.machines.get? (objectKey space name) with
  | none => rfl
  | some m => rfl

private theorem list_eq {k : Kind} (readable : ∀ o, Store.read k o = .ok o) (s : Store)
    (selector : Option Selector) :
    (∃ e, s.list k selector = .error e) ∨ s.list k selector =
      .ok ((s.table k).values.filter fun o => selector.all (·.accepts (k.header o).labels)) := by
  unfold Store.list
  rw [Store.mapM_read fun o _ => readable o]
  split
  · exact .inl ⟨_, rfl⟩
  · exact .inr rfl

theorem answers_listGroups {selector : Option Selector} {x : Except Failure (List MachineGroup)}
    (h : w.Answers me (.call (.listGroups selector)) x w') :
    w' = w.record (.call me (.listGroups selector) x) w.store ∧
      (x = .ok (w.store.groups.values.filter fun g => selector.all (·.accepts g.header.labels)) ∨
        ∃ activity error, x = .error (.store activity error)) := by
  obtain ⟨hw, hx⟩ := answers_reading rfl h
  refine ⟨hw, hx.elim (fun hx => ?_) .inr⟩
  simp only [Call.perform] at hx
  obtain ⟨e, he⟩ | hl := list_eq (k := .group) (fun _ => rfl) w.store selector
  · rw [he] at hx
    exact .inr ⟨_, e, hx⟩
  · rw [hl] at hx
    exact .inl hx

theorem answers_listMachines {selector : Option Selector} {x : Except Failure (List Machine)}
    (h : w.Answers me (.call (.listMachines selector)) x w') :
    w' = w.record (.call me (.listMachines selector) x) w.store ∧
      (x = .ok (w.store.machines.values.filter fun m => selector.all (·.accepts m.header.labels)) ∨
        ∃ activity error, x = .error (.store activity error)) := by
  obtain ⟨hw, hx⟩ := answers_reading rfl h
  refine ⟨hw, hx.elim (fun hx => ?_) .inr⟩
  simp only [Call.perform] at hx
  obtain ⟨e, he⟩ | hl := list_eq (k := .machine) (fun _ => rfl) w.store selector
  · rw [he] at hx
    exact .inr ⟨_, e, hx⟩
  · rw [hl] at hx
    exact .inl hx

theorem answers_findMachine {providerId : String} {x : Except Failure (Option Machine)}
    (h : w.Answers me (.call (.findMachine providerId)) x w') :
    w' = w.record (.call me (.findMachine providerId) x) w.store ∧
      (x = .ok (w.store.machines.values.find? (·.providerId == some providerId)) ∨
        ∃ activity error, x = .error (.store activity error)) := by
  obtain ⟨hw, hx⟩ := answers_reading rfl h
  refine ⟨hw, hx.elim (fun hx => ?_) .inr⟩
  simp only [Call.perform] at hx
  obtain ⟨e, he⟩ | hl := list_eq (k := .machine) (fun _ => rfl) w.store none
  · rw [he] at hx
    exact .inr ⟨_, e, hx⟩
  · have hall : (w.store.table .machine).values.filter (fun o => (none : Option Selector).all
        (·.accepts (Kind.machine.header o).labels)) = w.store.machines.values :=
      List.filter_eq_self.2 fun _ _ => rfl
    rw [hl, hall] at hx
    exact .inl hx

theorem answers_getClass {name : String} {x : Except Failure CapacityClass}
    (h : w.Answers me (.call (.getClass name)) x w') :
    w' = w.record (.call me (.getClass name) x) w.store ∧
      ((∃ c, x = .ok c ∧ w.store.classes.get? (objectKey "" name) = some c) ∨
        (∃ kind, x = .error (.notFound kind name)) ∨
        ∃ activity error, x = .error (.store activity error)) := by
  obtain ⟨hw, hx⟩ := answers_reading rfl h
  refine ⟨hw, hx.elim (fun hx => ?_) fun hx => .inr (.inr hx)⟩
  simp only [Call.perform, Store.get, Store.lookup, Store.table] at hx
  cases hget : w.store.classes.get? (objectKey "" name) with
  | none =>
    rw [hget] at hx
    exact .inr (.inl ⟨_, hx⟩)
  | some c =>
    rw [hget] at hx
    exact .inl ⟨c, hx, rfl⟩

theorem answers_updateGroup {g : MachineGroup} {x : Except Failure MachineGroup}
    (h : w.Answers me (.call (.updateGroup g)) x w') :
    (∃ activity error, x = .error (.store activity error) ∧
      w' = w.record (.call me (.updateGroup g) x) w.store) ∨
    w.store.Current .group g ∧ x = .ok (Kind.group.bump g) ∧ w' = w.writeGroup me g := by
  obtain hfailed | ⟨hcurrent, hx, hw⟩ := answers_writing (.updateGroup g)
    (.updatingGroup g.header.key) .group g .ok (fun _ he => he) (fun hok => hok) h
  · exact .inl hfailed
  · subst hx
    exact .inr ⟨hcurrent, rfl, hw⟩

theorem answers_updateMachine {m : Machine} {x : Except Failure Machine}
    (h : w.Answers me (.call (.updateMachine m)) x w') :
    (∃ activity error, x = .error (.store activity error) ∧
      w' = w.record (.call me (.updateMachine m) x) w.store) ∨
    w.store.Current .machine m ∧ x = .ok (Kind.machine.bump m) ∧ w' = w.writeMachine me m := by
  obtain hfailed | ⟨hcurrent, hx, hw⟩ := answers_writing (.updateMachine m)
    (.updatingMachine m.header.key) .machine m .ok (fun _ he => he) (fun hok => hok) h
  · exact .inl hfailed
  · subst hx
    exact .inr ⟨hcurrent, rfl, hw⟩

theorem answers_updateClaim {c : Claim} {x : Except Failure Claim}
    (h : w.Answers me (.call (.updateClaim c)) x w') :
    (∃ activity error, x = .error (.store activity error) ∧
      w' = w.record (.call me (.updateClaim c) x) w.store) ∨
    w.store.Current .claim c ∧ x = .ok (Kind.claim.bump c) ∧ w' = w.writeClaim me c := by
  obtain hfailed | ⟨hcurrent, hx, hw⟩ := answers_writing (.updateClaim c)
    (.updatingClaim c.header.name) .claim c .ok (fun _ he => he) (fun hok => hok) h
  · exact .inl hfailed
  · subst hx
    exact .inr ⟨hcurrent, rfl, hw⟩

end Scene

namespace Action

variable {t : Terms} {w : Scene} {P : Scene → Prop}

private theorem ensures_reading {c : Call} (hc : c.reads) {Q : c.Result → Scene → Prop}
    (hP : t.Lasting P) (hQ : ∀ a, t.Lasting (Q a)) (h : P w)
    (read : ∀ w₁ x w₂, P w₁ → w₁.Answers t.caller (.call c) x w₂ →
      w₂ = w₁.record (.call t.caller c x) w₁.store ∧
        ((∃ a, x = .ok a ∧ Q a w₁) ∨ ∃ e, x = .error e ∧ e.plain)) :
    (call c).Ensures t (Either Q P) w := by
  refine ensures_call hP h fun w₁ x w₂ h₁ hx => ?_
  obtain ⟨hw, hresult⟩ := read w₁ x w₂ h₁ hx
  rw [hw]
  refine ⟨t.quiet w₁ c x (.inl hc), ?_⟩
  obtain ⟨a, rfl, ha⟩ | ⟨e, rfl, he⟩ := hresult
  · exact (hQ a).quiet w₁ c _ (.inl hc) ha
  · exact ⟨he, hP.quiet w₁ c _ (.inl hc) h₁⟩

theorem ensures_getGroup {space name : String} {Q : MachineGroup → Scene → Prop}
    (hP : t.Lasting P) (hQ : ∀ g, t.Lasting (Q g)) (h : P w)
    (read : ∀ g w, P w → w.store.groups.get? (objectKey space name) = some g → Q g w) :
    (call (.getGroup space name)).Ensures t (Either Q P) w := by
  refine ensures_reading rfl hP hQ h fun w₁ x w₂ h₁ hx => ?_
  obtain ⟨hw, ⟨g, rfl, hg⟩ | ⟨activity, error, rfl⟩⟩ := Scene.answers_getGroup hx
  · exact ⟨hw, .inl ⟨g, rfl, read g w₁ h₁ hg⟩⟩
  · exact ⟨hw, .inr ⟨_, rfl, rfl⟩⟩

theorem ensures_getMachine {space name : String} {Q : Option Machine → Scene → Prop}
    (hP : t.Lasting P) (hQ : ∀ m, t.Lasting (Q m)) (h : P w)
    (read : ∀ w, P w → Q (w.store.machines.get? (objectKey space name)) w) :
    (call (.getMachine space name)).Ensures t (Either Q P) w := by
  refine ensures_reading rfl hP hQ h fun w₁ x w₂ h₁ hx => ?_
  obtain ⟨hw, rfl | ⟨activity, error, rfl⟩⟩ := Scene.answers_getMachine hx
  · exact ⟨hw, .inl ⟨_, rfl, read w₁ h₁⟩⟩
  · exact ⟨hw, .inr ⟨_, rfl, rfl⟩⟩

theorem ensures_listGroups {selector : Option Selector} {Q : List MachineGroup → Scene → Prop}
    (hP : t.Lasting P) (hQ : ∀ l, t.Lasting (Q l)) (h : P w)
    (read : ∀ w, P w →
      Q (w.store.groups.values.filter fun g => selector.all (·.accepts g.header.labels)) w) :
    (call (.listGroups selector)).Ensures t (Either Q P) w := by
  refine ensures_reading rfl hP hQ h fun w₁ x w₂ h₁ hx => ?_
  obtain ⟨hw, rfl | ⟨activity, error, rfl⟩⟩ := Scene.answers_listGroups hx
  · exact ⟨hw, .inl ⟨_, rfl, read w₁ h₁⟩⟩
  · exact ⟨hw, .inr ⟨_, rfl, rfl⟩⟩

theorem ensures_listMachines {selector : Option Selector} {Q : List Machine → Scene → Prop}
    (hP : t.Lasting P) (hQ : ∀ l, t.Lasting (Q l)) (h : P w)
    (read : ∀ w, P w →
      Q (w.store.machines.values.filter fun m => selector.all (·.accepts m.header.labels)) w) :
    (call (.listMachines selector)).Ensures t (Either Q P) w := by
  refine ensures_reading rfl hP hQ h fun w₁ x w₂ h₁ hx => ?_
  obtain ⟨hw, rfl | ⟨activity, error, rfl⟩⟩ := Scene.answers_listMachines hx
  · exact ⟨hw, .inl ⟨_, rfl, read w₁ h₁⟩⟩
  · exact ⟨hw, .inr ⟨_, rfl, rfl⟩⟩

theorem ensures_findMachine {providerId : String} {Q : Option Machine → Scene → Prop}
    (hP : t.Lasting P) (hQ : ∀ m, t.Lasting (Q m)) (h : P w)
    (read : ∀ w, P w → Q (w.store.machines.values.find? (·.providerId == some providerId)) w) :
    (call (.findMachine providerId)).Ensures t (Either Q P) w := by
  refine ensures_reading rfl hP hQ h fun w₁ x w₂ h₁ hx => ?_
  obtain ⟨hw, rfl | ⟨activity, error, rfl⟩⟩ := Scene.answers_findMachine hx
  · exact ⟨hw, .inl ⟨_, rfl, read w₁ h₁⟩⟩
  · exact ⟨hw, .inr ⟨_, rfl, rfl⟩⟩

theorem ensures_getClass {name : String} {Q : CapacityClass → Scene → Prop}
    (hP : t.Lasting P) (hQ : ∀ c, t.Lasting (Q c)) (h : P w)
    (read : ∀ c w, P w → w.store.classes.get? (objectKey "" name) = some c → Q c w) :
    (call (.getClass name)).Ensures t (Either Q P) w := by
  refine ensures_reading rfl hP hQ h fun w₁ x w₂ h₁ hx => ?_
  obtain ⟨hw, ⟨c, rfl, hc⟩ | ⟨kind, rfl⟩ | ⟨activity, error, rfl⟩⟩ := Scene.answers_getClass hx
  · exact ⟨hw, .inl ⟨c, rfl, read c w₁ h₁ hc⟩⟩
  · exact ⟨hw, .inr ⟨_, rfl, rfl⟩⟩
  · exact ⟨hw, .inr ⟨_, rfl, rfl⟩⟩

theorem ensures_updateGroup {g : MachineGroup} {Q : Scene → Prop} (hP : t.Lasting P) (h : P w)
    (write : ∀ w, P w → w.store.Current .group g →
      t.guarantee w (w.writeGroup t.caller g) ∧ Q (w.writeGroup t.caller g)) :
    (call (.updateGroup g)).Ensures t (Either (fun _ => Q) P) w := by
  refine ensures_call hP h fun w₁ x w₂ h₁ hx => ?_
  obtain ⟨activity, error, rfl, rfl⟩ | ⟨hcurrent, rfl, rfl⟩ := Scene.answers_updateGroup hx
  · exact ⟨t.quiet w₁ _ _ (.inr ⟨_, rfl⟩), rfl, hP.quiet w₁ _ _ (.inr ⟨_, rfl⟩) h₁⟩
  · exact write w₁ h₁ hcurrent

theorem ensures_updateMachine {m : Machine} {Q R : Scene → Prop} (hP : t.Lasting P) (h : P w)
    (write : ∀ w, P w → w.store.Current .machine m →
      t.guarantee w (w.writeMachine t.caller m) ∧ Q (w.writeMachine t.caller m))
    (refused : ∀ w activity error, P w → R (w.record
      (.call t.caller (.updateMachine m) (.error (.store activity error))) w.store)) :
    (call (.updateMachine m)).Ensures t
      (Either (fun m' w => m' = Kind.machine.bump m ∧ Q w) R) w := by
  refine ensures_call hP h fun w₁ x w₂ h₁ hx => ?_
  obtain ⟨activity, error, rfl, rfl⟩ | ⟨hcurrent, rfl, rfl⟩ := Scene.answers_updateMachine hx
  · exact ⟨t.quiet w₁ _ _ (.inr ⟨_, rfl⟩), rfl, refused w₁ activity error h₁⟩
  · obtain ⟨kept, hQ⟩ := write w₁ h₁ hcurrent
    exact ⟨kept, rfl, hQ⟩

theorem ensures_updateClaim {c : Claim} {Q : Scene → Prop} (hP : t.Lasting P) (h : P w)
    (write : ∀ w, P w → w.store.Current .claim c →
      t.guarantee w (w.writeClaim t.caller c) ∧ Q (w.writeClaim t.caller c)) :
    (call (.updateClaim c)).Ensures t (Either (fun c' w => c' = Kind.claim.bump c ∧ Q w) P) w := by
  refine ensures_call hP h fun w₁ x w₂ h₁ hx => ?_
  obtain ⟨activity, error, rfl, rfl⟩ | ⟨hcurrent, rfl, rfl⟩ := Scene.answers_updateClaim hx
  · exact ⟨t.quiet w₁ _ _ (.inr ⟨_, rfl⟩), rfl, hP.quiet w₁ _ _ (.inr ⟨_, rfl⟩) h₁⟩
  · obtain ⟨kept, hQ⟩ := write w₁ h₁ hcurrent
    exact ⟨kept, rfl, hQ⟩

end Action
end MachineClaims
