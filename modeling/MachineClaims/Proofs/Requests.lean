import MachineClaims.Program
import MachineClaims.Proofs.Changes

/-!
# What a program asks for

The requests that a program makes while it is alone with a store are those of its parts, one after
the other (`Program.requests_bind`, `Action.requests_bind`). A group whose key none of them names
stays as it is (`Program.groups_alone`), and a keyed store stays keyed (`Program.keyed_alone`).
-/

namespace MachineClaims

/-- The key of the group that a request is about, if it is about one group. -/
def Request.group? : Request → Option String
  | .call (.getGroup space name) => some (objectKey space name)
  | .call (.updateGroup group) => some group.header.key
  | .store (.get .group space name) => some (objectKey space name)
  | .store (.create .group group) => some (MachineGroup.header group).key
  | .store (.update .group group) => some (MachineGroup.header group).key
  | .store (.delete .group space name) => some (objectKey space name)
  | _ => none

/-- Those of some requests that are about one group are about the one with this key. -/
def OnGroup (key : String) (l : List Request) : Prop :=
  ∀ r ∈ l, ∀ key', r.group? = some key' → key' = key

section

variable {key : String} {l l' : List Request} {r : Request}

@[simp] theorem onGroup_nil : OnGroup key [] := nofun

@[simp] theorem onGroup_append : OnGroup key (l ++ l') ↔ OnGroup key l ∧ OnGroup key l' := by
  simp only [OnGroup, List.mem_append, or_imp, forall_and]

@[simp] theorem onGroup_cons :
    OnGroup key (r :: l) ↔ (∀ key', r.group? = some key' → key' = key) ∧ OnGroup key l := by
  simp only [OnGroup, List.mem_cons, forall_eq_or_imp]

end

namespace Program

variable {α β : Type}

/-- The requests that a program makes while it is alone, in their order. -/
def requests (clock : Nat) : Program α → Store → List Request
  | .done _, _ => []
  | .ask r next, s =>
    r :: (next (answerAlone clock s r).1).requests clock (answerAlone clock s r).2

theorem requests_bind (clock : Nat) (p : Program α) (f : α → Program β) (s : Store) :
    (p.bind f).requests clock s = p.requests clock s ++
      (f (p.alone clock s).1).requests clock (p.alone clock s).2 := by
  induction p generalizing s with
  | done a => rfl
  | ask r next ih => simp [bind, requests, alone, ih]

end Program

namespace Store

variable {s : Store} {key : String}

/-- An operation leaves the groups that it does not name. -/
theorem get?_groups_perform (op : Operation) (h : (Request.store op).group? ≠ some key) :
    (op.perform s).2.groups.get? key = s.groups.get? key := by
  have htarget : op.target? ≠ some (.group, key) := fun htarget => h (by
    cases op <;> cases htarget <;> rfl)
  exact op.entry_of_target_ne htarget

end Store

namespace Call

variable {s : Store} {key : String}

/-- What a call does to the store is what an update of its object does, if anything. -/
private theorem perform_cases (s : Store) (c : Call) :
    (c.perform s).2 = s ∨ ∃ k o, (k = .group → (Request.call c).group? = some (k.key o)) ∧
      (c.perform s).2 = ((Store.Operation.update k o).perform s).2 := by
  have update : ∀ (k : Kind) (o : k.Object) (activity : Activity),
      (written activity s (s.update k o)).2 = ((Store.Operation.update k o).perform s).2 := by
    intro k o activity
    simp only [Store.Operation.perform]
    cases s.update k o with
    | error e => rfl
    | ok r => rfl
  cases c with
  | updateGroup g => exact .inr ⟨.group, g, fun _ => rfl, update .group g _⟩
  | updateMachine m => exact .inr ⟨.machine, m, fun h => Kind.noConfusion h, update .machine m _⟩
  | updateClaim c => exact .inr ⟨.claim, c, fun h => Kind.noConfusion h, update .claim c _⟩
  | _ => exact .inl rfl

theorem get?_groups_perform (c : Call) (h : (Request.call c).group? ≠ some key) :
    (c.perform s).2.groups.get? key = s.groups.get? key := by
  obtain hsame | ⟨k, o, hgroup, hupdate⟩ := perform_cases s c
  · rw [hsame]
  · rw [hupdate]
    refine Store.get?_groups_perform _ fun heq => h ?_
    cases k with
    | group => exact (hgroup rfl).trans heq
    | machine => cases heq
    | claim => cases heq
    | capacityClass => cases heq

theorem keyed_perform (keyed : s.Keyed) (c : Call) : (c.perform s).2.Keyed := by
  obtain hsame | ⟨k, o, -, hupdate⟩ := perform_cases s c
  · rw [hsame]
    exact keyed
  · rw [hupdate]
    exact keyed.perform _

end Call

namespace Program

variable {α : Type} {key : String}

theorem onGroup_bind {β : Type} {clock : Nat} {p : Program α} {f : α → Program β} {s : Store}
    (hp : OnGroup key (p.requests clock s))
    (hf : OnGroup key ((f (p.alone clock s).1).requests clock (p.alone clock s).2)) :
    OnGroup key (Program.requests clock (p >>= f) s) := by
  show OnGroup key ((p.bind f).requests clock s)
  rw [requests_bind, onGroup_append]
  exact ⟨hp, hf⟩

theorem groups_alone (clock : Nat) (p : Program α) (s : Store)
    (h : ∀ r ∈ p.requests clock s, r.group? ≠ some key) :
    (p.alone clock s).2.groups.get? key = s.groups.get? key := by
  induction p generalizing s with
  | done a => rfl
  | ask r next ih =>
    obtain ⟨hr, hrest⟩ := List.forall_mem_cons.1 h
    refine (ih _ _ hrest).trans ?_
    cases r with
    | call c => exact c.get?_groups_perform hr
    | store op => exact Store.get?_groups_perform op hr
    | _ => rfl

theorem keyed_alone (clock : Nat) (p : Program α) {s : Store} (keyed : s.Keyed) :
    (p.alone clock s).2.Keyed := by
  induction p generalizing s with
  | done a => exact keyed
  | ask r next ih =>
    refine ih _ ?_
    cases r with
    | call c => exact Call.keyed_perform keyed c
    | store op => exact keyed.perform op
    | _ => exact keyed

end Program

namespace Action

variable {α β : Type}

/-- The requests that an action makes while it is alone, in their order. -/
def requests (clock : Nat) (a : Action α) (s : Store) : List Request :=
  Program.requests clock a.run s

variable (clock : Nat) (s : Store)

theorem requests_call (c : Call) : (call c).requests clock s = [.call c] := rfl

theorem requests_request (r : Request) : (request r).requests clock s = [r] := rfl

@[simp] theorem requests_outcome (a : Action α) :
    a.outcome.requests clock s = a.requests clock s := by
  show Program.requests clock (Program.bind a.run _) s = _
  rw [Program.requests_bind]
  exact List.append_nil _

@[simp] theorem requests_lift (p : Program α) :
    Action.requests clock (ExceptT.lift p) s = p.requests clock s := by
  show Program.requests clock (Program.bind p _) s = _
  rw [Program.requests_bind]
  exact List.append_nil _

/-- What follows an action asks for something only if the action succeeds. -/
theorem requests_bind (a : Action α) (f : α → Action β) :
    (a >>= f).requests clock s = a.requests clock s ++
      match (a.alone clock s).1 with
      | .ok x => (f x).requests clock (a.alone clock s).2
      | .error _ => [] := by
  show Program.requests clock (Program.bind a.run _) s = _
  rw [Program.requests_bind]
  show _ = _ ++ match (Program.alone clock a.run s).1 with | .ok _ => _ | .error _ => _
  cases (Program.alone clock a.run s).1 with
  | ok x => rfl
  | error e => rfl

variable {clock : Nat} {s : Store} {key : String}

theorem onGroup_call {c : Call} (h : ∀ key', (Request.call c).group? = some key' → key' = key) :
    OnGroup key ((call c).requests clock s) := onGroup_cons.2 ⟨h, onGroup_nil⟩

theorem onGroup_request {r : Request} (h : ∀ key', r.group? = some key' → key' = key) :
    OnGroup key ((request r).requests clock s) := onGroup_cons.2 ⟨h, onGroup_nil⟩

/-- The requests of an action and of what follows it if it succeeds. -/
theorem onGroup_bind {a : Action α} {f : α → Action β} :
    OnGroup key ((a >>= f).requests clock s) ↔ OnGroup key (a.requests clock s) ∧
      ∀ x, (a.alone clock s).1 = .ok x →
        OnGroup key ((f x).requests clock (a.alone clock s).2) := by
  rw [requests_bind, onGroup_append]
  cases (a.alone clock s).1 with
  | ok x => simp only [Except.ok.injEq, forall_eq']
  | error e => simp only [onGroup_nil, reduceCtorEq, false_implies, implies_true]

end Action
end MachineClaims
