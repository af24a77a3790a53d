import MachineClaims.MachineType
import MachineClaims.Store

/-!
# Amounts that are read back as they are

What was read from a text once is read back from the store unchanged, and so are the amounts that a
group declares. So a claim that was read from the store is stored and read without a change
(`Store.lookup_of_settled`), also after it has got the capacity of a group.
-/

namespace MachineClaims

namespace Resources

variable {l l' : Resources}

/-- Every amount is read back as it is. -/
def Settled (l : Resources) : Prop := ∀ key q, l.get? key = some q → q.reread = .ok q

theorem settled_empty : Settled ∅ := nofun

theorem settled_insert (h : l.Settled) {q : Quantity} (hq : q.reread = .ok q) (key : String) :
    Settled (l.insert key q) := by
  intro key' q' hget
  rw [NameMap.get?_insert] at hget
  split at hget
  · obtain rfl := Option.some.inj hget
    exact hq
  · exact h key' q' hget

/-- The first amount that cannot be read back. -/
private def spoilt? (q : Quantity) : Option Quantity.ParseError :=
  match q.reread with
  | .error e => some e
  | .ok _ => none

private theorem reread_eq (l : Resources) : l.reread = match l.values.findSome? spoilt? with
    | some e => .error e
    | none => .ok (l.mapValues fun _ q => match q.reread with | .ok q' => q' | .error _ => q) := rfl

theorem reread_of_settled (h : l.Settled) : l.reread = .ok l := by
  have hsound : l.values.findSome? spoilt? = none := by
    refine List.findSome?_eq_none_iff.2 fun q hq => ?_
    obtain ⟨⟨key, _⟩, hmem, rfl⟩ := List.mem_map.1 hq
    rw [spoilt?, h key _ (NameMap.mem_entries_iff.1 hmem)]
  rw [reread_eq, hsound]
  refine congrArg Except.ok (NameMap.ext_get? fun key => ?_)
  rw [NameMap.get?_mapValues]
  cases hget : l.get? key with
  | none => rfl
  | some q => simp [h key q hget]

theorem settled_of_reread (h : l.reread = .ok l') : l'.Settled := by
  rw [reread_eq] at h
  split at h
  · cases h
  · rename_i hsound
    obtain rfl := Except.ok.inj h
    intro key q hget
    rw [NameMap.get?_mapValues] at hget
    obtain ⟨q₀, hget₀, hq⟩ := Option.map_eq_some_iff.1 hget
    have hmem : q₀ ∈ l.values :=
      List.mem_map.2 ⟨(key, q₀), NameMap.mem_entries_iff.2 hget₀, rfl⟩
    have hread := List.findSome?_eq_none_iff.1 hsound q₀ hmem
    unfold spoilt? at hread
    cases hq₀ : q₀.reread with
    | error e => simp [hq₀] at hread
    | ok q₁ =>
      simp only [hq₀] at hq
      rw [← hq]
      exact Quantity.parse_text_of_parse hq₀

end Resources

theorem Capacity.settled_addSource {annotations : Labels} {l l' : Resources}
    {source : String × String} (h : l.Settled) (hadd : addSource annotations l source = .ok l') :
    l'.Settled := by
  unfold addSource at hadd
  split at hadd
  · exact Except.ok.inj hadd ▸ h
  · split at hadd
    · rename_i q hparse
      obtain rfl := Except.ok.inj hadd
      exact Resources.settled_insert h (Quantity.parse_text_of_parse hparse) source.2
    · cases hadd

private theorem Capacity.settled_foldlM {annotations : Labels} {rest : List (String × String)}
    {l l' : Resources} (h : l.Settled) (hfold : rest.foldlM (addSource annotations) l = .ok l') :
    l'.Settled := by
  induction rest generalizing l with
  | nil => exact Except.ok.inj hfold ▸ h
  | cons source rest ih =>
    rw [List.foldlM_cons] at hfold
    cases hadd : addSource annotations l source with
    | error e => simp [hadd, bind, Except.bind] at hfold
    | ok next =>
      simp only [hadd, bind, Except.bind] at hfold
      exact ih (settled_addSource h hadd) hfold

theorem Capacity.settled_declared {annotations : Labels} {l : Resources}
    (h : declared annotations = .ok l) : l.Settled :=
  settled_foldlM Resources.settled_empty h

theorem MachineType.ofGroup_ok {policy : Propagation} {g : MachineGroup} {τ : MachineType}
    (h : ofGroup policy g = .ok τ) :
    ∃ capacity, Capacity.declared g.header.annotations = .ok capacity ∧
      τ = { name := ((policy.nodeLabels g).get? instanceTypeLabel).getD ""
            constraints := .ofLabels (policy.nodeLabels g)
            variants := [.onDemandIn (((policy.nodeLabels g).get? zoneLabel).getD "")]
            capacity
            overhead := .none
            labels := policy.nodeLabels g
            groupName := g.header.name
            groupSpace := g.header.space } := by
  unfold ofGroup at h
  cases hcapacity : Capacity.declared g.header.annotations with
  | error e => simp [hcapacity, bind, Except.bind] at h
  | ok capacity =>
    simp only [hcapacity, bind, Except.bind] at h
    exact ⟨capacity, rfl, (Except.ok.inj h).symm⟩

/-- A group declares settled amounts, and nothing of them is held back. -/
theorem MachineType.settled_of_ofGroup {policy : Propagation} {g : MachineGroup} {τ : MachineType}
    (h : ofGroup policy g = .ok τ) : τ.capacity.Settled ∧ τ.allocatable = τ.capacity := by
  obtain ⟨capacity, hcapacity, rfl⟩ := ofGroup_ok h
  refine ⟨Capacity.settled_declared hcapacity, NameMap.ext_get? fun key => ?_⟩
  have hnone : Overhead.none.total.get? key = none := rfl
  simp only [allocatable, NameMap.get?_mapValues, hnone]
  exact Option.map_id'

/-- All amounts of a claim are read back as they are. -/
structure Claim.Settled (c : Claim) : Prop where
  requests : c.requests.Settled
  capacity : c.capacity.Settled
  allocatable : c.allocatable.Settled

theorem Claim.reread_of_settled {c : Claim} (h : c.Settled) : Kind.claim.reread c = .ok c := by
  simp [Kind.reread, Resources.reread_of_settled h.requests, Resources.reread_of_settled h.capacity,
    Resources.reread_of_settled h.allocatable, bind, Except.bind, pure, Except.pure]

theorem Claim.settled_of_reread {c c' : Claim} (h : Kind.claim.reread c = .ok c') : c'.Settled := by
  simp only [Kind.reread] at h
  cases hr : Resources.reread c.requests with
  | error e => simp [hr, bind, Except.bind] at h
  | ok requests =>
    cases hc : Resources.reread c.capacity with
    | error e => simp [hr, hc, bind, Except.bind] at h
    | ok capacity =>
      cases ha : Resources.reread c.allocatable with
      | error e => simp [hr, hc, ha, bind, Except.bind] at h
      | ok allocatable =>
        simp only [hr, hc, ha, bind, Except.bind] at h
        obtain rfl := Except.ok.inj h
        exact ⟨Resources.settled_of_reread hr, Resources.settled_of_reread hc,
          Resources.settled_of_reread ha⟩

namespace Store

variable {s : Store} {key : String} {c : Claim}

/-- A claim as it is read is settled. -/
theorem settled_of_lookup (h : s.lookup .claim key = .ok c) : c.Settled := by
  unfold lookup at h
  split at h
  · unfold read at h
    split at h
    · rename_i hread
      obtain rfl := Except.ok.inj h
      exact Claim.settled_of_reread hread
    · cases h
  · cases h

/-- A settled claim is read as it is stored. -/
theorem lookup_of_settled (h : s.claims.get? key = some c) (hc : c.Settled) :
    s.lookup .claim key = .ok c := by
  have hread : read .claim c = .ok c := by
    unfold read
    rw [Claim.reread_of_settled hc]
  unfold lookup
  rw [show (s.table .claim).get? key = some c from h]
  exact hread

end Store
end MachineClaims
