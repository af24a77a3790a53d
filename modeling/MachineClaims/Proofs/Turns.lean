import MachineClaims.Proofs.Calls
import MachineClaims.Provider

/-!
# Look-ups and turns

What the look-ups of a provider ensure, and what it means to act while holding the lock.
-/

namespace MachineClaims.Provider

open MachineClaims.Action

variable {t : Terms} {P : Scene → Prop} {w : Scene}

theorem ensures_resolveClass {classRef : Option String} {owner : Owner}
    {Q : CapacityClass → Scene → Prop} (hP : t.Lasting P) (hQ : ∀ c, t.Lasting (Q c)) (h : P w)
    (read : ∀ name c w, classRef = some name → P w →
      w.store.classes.get? (objectKey "" name) = some c → Q c w) :
    (resolveClass classRef owner).Ensures t (Either Q P) w := by
  unfold resolveClass
  cases classRef with
  | none => exact ⟨rfl, h⟩
  | some name =>
    dsimp only
    split
    · exact ⟨rfl, h⟩
    · refine (Action.ensures_bind ..).2 ((Action.ensures_outcome ..).2 ?_)
      refine (ensures_getClass hP hQ h fun c w h hc => read name c w rfl h hc).mono fun x w h => ?_
      cases x with
      | ok c => exact h
      | error e =>
        dsimp only [andThen]
        split
        · exact ⟨rfl, h.2⟩
        · exact h

theorem plain_of_machineType_error {p : Provider} {activity : Activity} {g : MachineGroup}
    {e : Failure} (h : p.machineType activity g = .error e) : e.plain = true := by
  unfold machineType at h
  split at h
  · cases h
  · cases h
    rfl

theorem plain_of_mapM_error {p : Provider} {groups : List MachineGroup} {e : Failure}
    (h : (groups.mapM fun g => p.machineType (.typingGroup g.header.key) g) = .error e) :
    e.plain = true := by
  induction groups with
  | nil => cases h
  | cons g groups ih =>
    rw [List.mapM_cons] at h
    cases hg : p.machineType (.typingGroup g.header.key) g with
    | error e' =>
      rw [hg] at h
      cases h
      exact plain_of_machineType_error hg
    | ok t =>
      rw [hg] at h
      cases hrest : groups.mapM fun g => p.machineType (.typingGroup g.header.key) g with
      | error e' =>
        rw [hrest] at h
        cases h
        exact ih hrest
      | ok ts =>
        rw [hrest] at h
        cases h

theorem ensures_machineTypes {p : Provider} {c : CapacityClass}
    {Q : List MachineType → Scene → Prop} (hP : t.Lasting P) (hQ : ∀ l, t.Lasting (Q l)) (h : P w)
    (read : ∀ w types, P w →
      (w.store.groups.values.filter fun g => c.selector.all (·.accepts g.header.labels)).mapM
        (fun g => p.machineType (.typingGroup g.header.key) g) = .ok types → Q types w) :
    (p.machineTypes c).Ensures t (Either Q P) w := by
  unfold machineTypes
  refine Ensures.bind (ensures_listGroups hP (fun l => hP.and (.all fun types => .all fun _ : l.mapM
    (fun g => p.machineType (.typingGroup g.header.key) g) = .ok types => hQ types)) h
    fun w h => ⟨h, fun types htypes => read w types h htypes⟩) (fun l w h => ?_)
    fun e w he h => ⟨he, h⟩
  rw [ensures_ofExcept]
  cases htypes : l.mapM fun g => p.machineType (.typingGroup g.header.key) g with
  | ok types => exact h.2 types htypes
  | error e => exact ⟨plain_of_mapM_error htypes, h.1⟩

theorem ensures_owningGroup {m : Machine} {Q : MachineGroup → Scene → Prop} (hP : t.Lasting P)
    (hQ : ∀ g, t.Lasting (Q g)) (h : P w)
    (read : ∀ name g w, m.owner? = some name → P w →
      w.store.groups.get? (objectKey m.header.space name) = some g → Q g w) :
    (owningGroup m).Ensures t (Either Q P) w := by
  unfold owningGroup
  cases hm : m.owner? with
  | none => exact ⟨rfl, h⟩
  | some name => exact ensures_getGroup hP hQ h fun g w h hg => read name g w hm h hg

/-- An action within a turn: others may have to wait for the turn, and the caller may cancel before
it comes. -/
theorem ensures_exclusively {α : Type} {waiting : Interrupted} {a : Action α}
    {post : Except Failure α → Scene → Prop} (hP : t.Lasting P) (h : P w)
    (missed : ∀ w, P w → post (.error (.cancelled waiting)) w)
    {Q : Except Failure α → Scene → Prop} (hQ : ∀ x, t.Lasting (Q x))
    (taken : ∀ w, P w → (∀ c ∈ w.holders, c.provider ≠ t.caller.provider) →
      t.guarantee w { w with holders := t.caller :: w.holders } ∧
        a.Ensures t Q { w with holders := t.caller :: w.holders })
    (given : ∀ x w, Q x w →
      t.guarantee w { w with holders := w.holders.filter (· ≠ t.caller) } ∧
        post x { w with holders := w.holders.filter (· ≠ t.caller) }) :
    (exclusively waiting a).Ensures t post w := by
  unfold exclusively
  refine (Action.ensures_bind ..).2 (ensures_request hP h fun w₁ x w₂ h₁ hx => ?_)
  cases x with
  | false =>
    obtain rfl : w₂ = w₁ := hx
    exact ⟨t.rests w₂, missed w₂ h₁⟩
  | true =>
    obtain ⟨hfree, rfl⟩ : (∀ c ∈ w₁.holders, c.provider ≠ t.caller.provider) ∧ _ := hx
    obtain ⟨kept, ha⟩ := taken w₁ h₁ hfree
    refine ⟨kept, ?_⟩
    refine (Action.ensures_bind ..).2 ((Action.ensures_outcome ..).2 (ha.mono fun x w h => ?_))
    refine (Action.ensures_bind ..).2 (ensures_request (hQ x) h fun w₁ _ w₂ h₁ hx => ?_)
    obtain rfl : w₂ = _ := hx
    exact given x w₁ h₁

end MachineClaims.Provider
