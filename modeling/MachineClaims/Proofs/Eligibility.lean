import MachineClaims.Proofs.Amounts
import MachineClaims.Proofs.Keyed
import MachineClaims.Proofs.Members

/-!
# Which claims a group is eligible for

A machine type has one value for each label of its machines, and its only variant has a zone and a way
of paying. So the constraints of a claim are met just if the sets that they keep for these labels take
these values, and requests fit just if each of them is at most what the group declares
(`admits_iff_eligible`).
-/

namespace MachineClaims

/-- No request is more than what there is of its resource. Of a resource that is not listed there is
nothing. -/
def Resources.Covers (available requests : Resources) : Prop :=
  ∀ resource q, requests.get? resource = some q →
    q.millis ≤ ((available.get? resource).map (·.millis)).getD 0

/-- Everything is requested that was requested before, and no less of it. -/
def Resources.Raises (requests' requests : Resources) : Prop :=
  ∀ resource q, requests.get? resource = some q →
    ∃ q', requests'.get? resource = some q' ∧ q.millis ≤ q'.millis

/-- A claim that asks for these labels and amounts can use machines with these labels and amounts. -/
structure Eligible (labels : Labels) (capacity : Resources) (constraints : Constraints)
    (requests : Resources) : Prop where
  /-- Labels of the machines satisfy what is asked of them. -/
  labelled : ∀ key r value, constraints.get? key = some r → labels.get? key = some value →
    r.Takes value
  /-- So does the zone, which is empty if it is not known. -/
  zoned : ∀ r, constraints.get? zoneLabel = some r → r.Takes ((labels.get? zoneLabel).getD "")
  /-- So does the only way of paying. -/
  paid : ∀ r, constraints.get? capacityTypeLabel = some r → r.Takes onDemand
  covered : capacity.Covers requests

variable {constraints : Constraints} {requests : Resources}

theorem Constraints.ofDemands_ok {demands : List Demand} (h : ofDemands demands = .ok constraints) :
    ∃ l, demands.mapM ValueSet.ofDemand = .ok l ∧ constraints = ofList l := by
  unfold ofDemands at h
  cases hl : demands.mapM ValueSet.ofDemand with
  | error e => simp [hl, bind, Except.bind] at h
  | ok l =>
    simp only [hl, bind, Except.bind] at h
    exact ⟨l, rfl, (Except.ok.inj h).symm⟩

theorem fits_iff {available : Resources} :
    fits requests available = true ↔ available.Covers requests := by
  unfold fits Resources.Covers
  rw [List.all_eq_true]
  simp only [Prod.forall, NameMap.mem_entries_iff, decide_eq_true_eq]

theorem Resources.Covers.of_raises {available requests' : Resources}
    (h : available.Covers requests') (raises : requests'.Raises requests) :
    available.Covers requests := by
  intro resource q hq
  obtain ⟨q', hq', hle⟩ := raises resource q hq
  exact Int.le_trans hle (h resource q' hq')

/-- The labels that a variant stands for. -/
def Variant.labelsIn (zone : String) : Labels :=
  ((∅ : Labels).insert zoneLabel zone).insert capacityTypeLabel onDemand

theorem Variant.get?_onDemandIn (zone key : String) : (onDemandIn zone).constraints.get? key =
    ((labelsIn zone).get? key).map fun value => .isIn key [value] := by
  have hne : capacityTypeLabel ≠ zoneLabel := by decide
  have hadd : (onDemandIn zone).constraints =
      (Constraints.add ∅ (.isIn zoneLabel [zone])).add (.isIn capacityTypeLabel [onDemand]) := rfl
  rw [hadd, (Constraints.keyed_empty.add _).get?_add, Constraints.keyed_empty.get?_add,
    NameMap.get?_empty, labelsIn, NameMap.get?_insert, NameMap.get?_insert, NameMap.get?_empty]
  by_cases hpaid : key = capacityTypeLabel
  · subst hpaid
    simp [ValueSet.isIn, hne]
  · by_cases hzone : key = zoneLabel
    · subst hzone
      simp [ValueSet.isIn, hne.symm]
    · simp [ValueSet.isIn, hpaid, hzone]

theorem Variant.compatible_onDemandIn_iff (zone : String) :
    constraints.compatible (Variant.onDemandIn zone).constraints = true ↔
      (∀ r, constraints.get? zoneLabel = some r → r.Takes zone) ∧
      ∀ r, constraints.get? capacityTypeLabel = some r → r.Takes onDemand := by
  have hne : capacityTypeLabel ≠ zoneLabel := by decide
  have hzone : (labelsIn zone).get? zoneLabel = some zone := by
    rw [labelsIn, NameMap.get?_insert_of_ne _ _ hne.symm, NameMap.get?_insert_self]
  have hpaid : (labelsIn zone).get? capacityTypeLabel = some onDemand := NameMap.get?_insert_self ..
  rw [Constraints.compatible_labels_iff (get?_onDemandIn zone)]
  constructor
  · intro h
    exact ⟨fun r hr => h _ r _ hr hzone, fun r hr => h _ r _ hr hpaid⟩
  · rintro ⟨hz, hp⟩ key r value hr hvalue
    rw [labelsIn, NameMap.get?_insert, NameMap.get?_insert] at hvalue
    split at hvalue
    · rename_i hkey
      subst hkey
      obtain rfl := Option.some.inj hvalue
      exact hp r hr
    · split at hvalue
      · rename_i hkey
        subst hkey
        obtain rfl := Option.some.inj hvalue
        exact hz r hr
      · cases hvalue

/-- More demands keep something for more keys, and take less of it. -/
theorem Constraints.takes_of_subset {demands demands' : List Demand} {R R' : Constraints}
    (h : ofDemands demands = .ok R) (h' : ofDemands demands' = .ok R') (more : demands ⊆ demands')
    {key : String} {r : ValueSet} (hr : R.get? key = some r) :
    ∃ r', R'.get? key = some r' ∧ ∀ value, r'.Takes value → r.Takes value := by
  obtain ⟨l, hl, rfl⟩ := ofDemands_ok h
  obtain ⟨l', hl', rfl⟩ := ofDemands_ok h'
  have hsub : l ⊆ l' := by
    intro s hs
    obtain ⟨d, hd, hset⟩ := (mem_iff_of_mapM hl s).1 hs
    exact (mem_iff_of_mapM hl' s).2 ⟨d, more hd, hset⟩
  have hkept : (ofList l').contains key = true := by
    obtain ⟨s, hs, hkey⟩ := contains_ofList_iff.1 (show (ofList l).contains key = true by
      rw [NameMap.contains, hr, Option.isSome_some])
    exact contains_ofList_iff.2 ⟨s, hsub hs, hkey⟩
  obtain ⟨r', hr'⟩ := Option.isSome_iff_exists.1 hkept
  refine ⟨r', hr', fun value htakes => ?_⟩
  have hall : ∀ s ∈ l', s.key = key → s.Takes value :=
    (forall_get?_ofList (ValueSet.takes_inter · · value) l' key).1 fun r'' hr'' =>
      Option.some.inj (hr'.symm.trans hr'') ▸ htakes
  exact (forall_get?_ofList (ValueSet.takes_inter · · value) l key).2
    (fun s hs => hall s (hsub hs)) r hr

/-- A claim that demands less and requests less is eligible for all that it was eligible for. -/
theorem Eligible.of_subset {labels : Labels} {capacity requests' : Resources}
    {demands demands' : List Demand} {R R' : Constraints} (eligible : Eligible labels capacity R' requests')
    (h : Constraints.ofDemands demands = .ok R) (h' : Constraints.ofDemands demands' = .ok R')
    (more : demands ⊆ demands') (raises : requests'.Raises requests) :
    Eligible labels capacity R requests where
  labelled key r value hr hvalue := by
    obtain ⟨r', hr', htakes⟩ := Constraints.takes_of_subset h h' more hr
    exact htakes value (eligible.labelled key r' value hr' hvalue)
  zoned r hr := by
    obtain ⟨r', hr', htakes⟩ := Constraints.takes_of_subset h h' more hr
    exact htakes _ (eligible.zoned r' hr')
  paid r hr := by
    obtain ⟨r', hr', htakes⟩ := Constraints.takes_of_subset h h' more hr
    exact htakes _ (eligible.paid r' hr')
  covered := eligible.covered.of_raises raises

theorem MachineType.admits_iff {policy : Propagation} {g : MachineGroup} {τ : MachineType}
    (h : ofGroup policy g = .ok τ) : τ.admits constraints requests = true ↔
      Eligible (policy.nodeLabels g) τ.capacity constraints requests := by
  have hallocatable := (settled_of_ofGroup h).2
  obtain ⟨capacity, hcapacity, rfl⟩ := ofGroup_ok h
  have hlabels (key : String) : (Constraints.ofLabels (policy.nodeLabels g)).get? key =
      ((policy.nodeLabels g).get? key).map fun value => .isIn key [value] := by
    rw [Constraints.ofLabels_eq, NameMap.get?_mapValues]
  have havailable (zone : String) : (Variant.onDemandIn zone).available = true := rfl
  rw [admits, hallocatable]
  simp only [Bool.and_eq_true, List.any_cons, List.any_nil, Bool.or_false, havailable, Bool.true_and,
    Constraints.compatible_labels_iff hlabels, Variant.compatible_onDemandIn_iff, fits_iff]
  exact ⟨fun ⟨⟨labelled, zoned, paid⟩, covered⟩ => ⟨labelled, zoned, paid, covered⟩,
    fun ⟨labelled, zoned, paid, covered⟩ => ⟨⟨labelled, zoned, paid⟩, covered⟩⟩

/-- A machine type that was read from a group constrains the labels of its machines and admits just the
claims that are eligible for them. So a claim that is turned away is still turned away when it demands
or requests more. -/
theorem admits_iff_eligible {policy : Propagation} {g : MachineGroup} {τ : MachineType}
    (h : MachineType.ofGroup policy g = .ok τ) :
    ∃ capacity, Capacity.declared g.header.annotations = .ok capacity ∧
      (∀ constraints requests, τ.admits constraints requests = true ↔
        Eligible (policy.nodeLabels g) capacity constraints requests) ∧
      τ.constraints.keys = (policy.nodeLabels g).keys ∧
      ∀ demands demands' R R' requests requests', Constraints.ofDemands demands = .ok R →
        Constraints.ofDemands demands' = .ok R' → demands ⊆ demands' → requests'.Raises requests →
          τ.admits R requests = false → τ.admits R' requests' = false := by
  obtain ⟨capacity, hcapacity, hτ⟩ := MachineType.ofGroup_ok h
  refine ⟨capacity, hcapacity, fun constraints requests => ?_, ?_, ?_⟩
  · rw [MachineType.admits_iff h, hτ]
  · rw [hτ, Constraints.ofLabels_eq]
    exact List.map_map ..
  · intro demands demands' R R' requests requests' hR hR' more raises
    contrapose
    rw [Bool.not_eq_false, Bool.not_eq_false, MachineType.admits_iff h, MachineType.admits_iff h]
    exact fun eligible => eligible.of_subset hR hR' more raises

/-- A group in zone `a` whose machines offer four processors. -/
def MachineGroup.zoned : MachineGroup :=
  { MachineGroup.new "capi" "md-1" (some 1) with
    header := ((Header.new "capi" "md-1").annotate Capacity.cpuKey "4").annotate labelsKey
      "topology.kubernetes.io/zone=a" }

/-- A claim is turned away for zone `b`, and still is when it also demands the zone to be known. -/
theorem admits_iff_eligible_elsewhere :
    let R := Constraints.ofList [.isIn zoneLabel ["b"]]
    let R' := Constraints.ofList [.present zoneLabel, .isIn zoneLabel ["b"]]
    Constraints.ofDemands [⟨zoneLabel, .isIn, ["b"], none⟩] = .ok R ∧
    Constraints.ofDemands [⟨zoneLabel, .present, [], none⟩, ⟨zoneLabel, .isIn, ["b"], none⟩] = .ok R' ∧
    ∃ τ, MachineType.ofGroup .standard .zoned = .ok τ ∧ τ.constraints.keys = [zoneLabel] ∧
      τ.admits R ∅ = false ∧ τ.admits R' ∅ = false := by
  intro R R'
  have hR : Constraints.ofDemands [⟨zoneLabel, .isIn, ["b"], none⟩] = .ok R := rfl
  have hR' : Constraints.ofDemands
      [⟨zoneLabel, .present, [], none⟩, ⟨zoneLabel, .isIn, ["b"], none⟩] = .ok R' := rfl
  obtain ⟨τ, hτ⟩ : ∃ τ, MachineType.ofGroup .standard .zoned = .ok τ := ⟨_, rfl⟩
  have hlabels : Propagation.standard.nodeLabels .zoned = (∅ : Labels).insert zoneLabel "a" := by
    decide +kernel
  obtain ⟨capacity, -, hadmits, hkeys, hmore⟩ := admits_iff_eligible hτ
  have hrejected : τ.admits R ∅ = false := by
    rw [← Bool.not_eq_true, hadmits]
    intro eligible
    have hvalue : (Propagation.standard.nodeLabels .zoned).get? zoneLabel = some "a" := by
      rw [hlabels, NameMap.get?_insert_self]
    have hkept : R.get? zoneLabel = some (.isIn zoneLabel ["b"]) := NameMap.get?_insert_self ..
    have htakes := (eligible.labelled zoneLabel _ "a" hkept hvalue).1
    simp at htakes
  refine ⟨hR, hR', τ, hτ, ?_, hrejected, ?_⟩
  · rw [hkeys, hlabels]
    rfl
  · exact hmore _ _ R R' ∅ ∅ hR hR' (by simp) nofun hrejected

end MachineClaims
