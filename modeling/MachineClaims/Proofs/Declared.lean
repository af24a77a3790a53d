import MachineClaims.Capacity

/-!
# What annotations declare and what is read back

Reading stops at the first annotation that is malformed (`Capacity.declared_eq_error_iff`) and otherwise
puts the amounts into one map, in the order in which they are read (`Capacity.declared_eq_ok_iff`). The
number of accelerators goes under a name that another annotation chooses. Where that is the name of an
amount with an annotation of its own, only one of the two is kept
(`Capacity.declared_reads_back_iff`).
-/

namespace MachineClaims

namespace Capacity

variable {annotations : Labels} {capacity capacity' : Resources} {name : String} {q : Quantity}

/-- The amount that an annotation says, if it is there and says one. -/
def amount? (annotations : Labels) (key : String) : Option Quantity :=
  (annotations.get? key).bind fun text => (Quantity.parse text).toOption

/-- An annotation is there and says no amount. -/
def Malformed (annotations : Labels) (key : String) : Prop :=
  ∃ text fault, annotations.get? key = some text ∧ Quantity.parse text = .error fault

/-- The annotations that stand for one resource each, and these resources. -/
def fixedSources : List (String × String) :=
  [(cpuKey, cpu), (memoryKey, memory), (diskKey, disk), (podsKey, pods)]

/-! ### Reading one annotation after the other -/

/-- The capacity with an amount of a resource, if there is one. -/
def withAmount (capacity : Resources) (name : String) (amount : Option Quantity) : Resources :=
  amount.elim capacity (capacity.insert name)

theorem get?_withAmount (capacity : Resources) (name key : String) (amount : Option Quantity) :
    (withAmount capacity name amount).get? key =
      if key = name then amount.or (capacity.get? key) else capacity.get? key := by
  cases amount with
  | none => simp [withAmount]
  | some q => simp [withAmount, NameMap.get?_insert]

/-- An annotation that is not malformed adds its amount. -/
private theorem addSource_eq_ok_iff {source : String × String} :
    addSource annotations capacity source = .ok capacity' ↔
      ¬ Malformed annotations source.1 ∧
        capacity' = withAmount capacity source.2 (amount? annotations source.1) := by
  unfold addSource amount? Malformed
  cases annotations.get? source.1 with
  | none => simp [withAmount, eq_comm]
  | some text =>
    cases hparse : Quantity.parse text with
    | error fault => simp [hparse]
    | ok q => simp [hparse, withAmount, Except.toOption, eq_comm]

private theorem addSource_eq_error_iff {source : String × String} {e : Capacity.Error} :
    addSource annotations capacity source = .error e ↔
      ∃ text fault, annotations.get? source.1 = some text ∧ Quantity.parse text = .error fault ∧
        e = .quantity source.1 fault := by
  unfold addSource
  cases annotations.get? source.1 with
  | none => simp
  | some text =>
    cases hparse : Quantity.parse text with
    | error fault => simp [hparse, eq_comm]
    | ok q => simp [hparse]

/-- The capacity with the amounts of several annotations, in turn. -/
def withSources (annotations : Labels) (capacity : Resources) (l : List (String × String)) : Resources :=
  l.foldl (fun capacity source => withAmount capacity source.2 (amount? annotations source.1)) capacity

private theorem foldlM_addSource_eq_ok_iff {l : List (String × String)} :
    l.foldlM (addSource annotations) capacity = .ok capacity' ↔
      (∀ source ∈ l, ¬ Malformed annotations source.1) ∧
        capacity' = withSources annotations capacity l := by
  induction l generalizing capacity with
  | nil => simp [withSources, pure, Except.pure, eq_comm]
  | cons source l ih =>
    rw [List.foldlM_cons, List.forall_mem_cons]
    cases hadd : addSource annotations capacity source with
    | error e =>
      obtain ⟨text, fault, htext, hparse, -⟩ := addSource_eq_error_iff.1 hadd
      have hmalformed : Malformed annotations source.1 := ⟨text, fault, htext, hparse⟩
      simp [bind, Except.bind, hmalformed]
    | ok next =>
      obtain ⟨hgood, rfl⟩ := addSource_eq_ok_iff.1 hadd
      simp only [bind, Except.bind, hgood, not_false_eq_true, true_and]
      exact ih

private theorem foldlM_addSource_eq_error {l : List (String × String)} {e : Capacity.Error}
    (h : l.foldlM (addSource annotations) capacity = .error e) :
    ∃ before source after text fault, l = before ++ source :: after ∧
      (∀ source' ∈ before, ¬ Malformed annotations source'.1) ∧
      annotations.get? source.1 = some text ∧ Quantity.parse text = .error fault ∧
      e = .quantity source.1 fault := by
  induction l generalizing capacity with
  | nil => cases h
  | cons source l ih =>
    rw [List.foldlM_cons] at h
    cases hadd : addSource annotations capacity source with
    | error e' =>
      obtain rfl : e' = e := by simpa [hadd, bind, Except.bind] using h
      obtain ⟨text, fault, htext, hparse, rfl⟩ := addSource_eq_error_iff.1 hadd
      exact ⟨[], source, l, text, fault, rfl, fun _ h => absurd h List.not_mem_nil, htext, hparse, rfl⟩
    | ok next =>
      simp only [hadd, bind, Except.bind] at h
      obtain ⟨before, source', after, text, fault, rfl, hbefore, hrest⟩ := ih h
      exact ⟨source :: before, source', after, text, fault, rfl,
        List.forall_mem_cons.2 ⟨(addSource_eq_ok_iff.1 hadd).1, hbefore⟩, hrest⟩

/-- A failure names the first annotation that is malformed. -/
theorem declared_eq_error {e : Capacity.Error} (h : declared annotations = .error e) :
    ∃ before source after text fault, sources annotations = before ++ source :: after ∧
      (∀ source' ∈ before, ¬ Malformed annotations source'.1) ∧
      annotations.get? source.1 = some text ∧ Quantity.parse text = .error fault ∧
      e = .quantity source.1 fault :=
  foldlM_addSource_eq_error h

theorem declared_eq_ok_iff : declared annotations = .ok capacity ↔
    (∀ source ∈ sources annotations, ¬ Malformed annotations source.1) ∧
      capacity = withSources annotations ∅ (sources annotations) :=
  foldlM_addSource_eq_ok_iff

/-- Reading fails exactly on a malformed annotation. The number of accelerators is read only if their
name is given. -/
theorem declared_fails_iff : (∃ e, declared annotations = .error e) ↔
    (∃ source ∈ fixedSources, Malformed annotations source.1) ∨
      (∃ name, annotations.get? gpuTypeKey = some name) ∧ Malformed annotations gpuCountKey := by
  have hread : (∃ e, declared annotations = .error e) ↔
      ∃ source ∈ sources annotations, Malformed annotations source.1 := by
    cases h : declared annotations with
    | error e =>
      obtain ⟨before, source, after, text, fault, hsplit, -, htext, hparse, -⟩ := declared_eq_error h
      exact iff_of_true ⟨e, rfl⟩ ⟨source, by simp [hsplit], text, fault, htext, hparse⟩
    | ok capacity =>
      refine iff_of_false (fun ⟨e, he⟩ => by cases he) fun ⟨source, hmem, hmalformed⟩ => ?_
      exact (declared_eq_ok_iff.1 h).1 source hmem hmalformed
  rw [hread]
  cases hname : annotations.get? gpuTypeKey with
  | none => simp [sources, fixedSources, hname]
  | some name =>
    simp only [sources, fixedSources, hname, Option.toList_some, List.map_cons, List.map_nil,
      List.mem_append, List.mem_cons, List.not_mem_nil, or_false, or_assoc, exists_eq_or_imp,
      exists_eq_left]
    simp only [Option.some.injEq, exists_eq', true_and]
    refine or_congr_right (or_congr_right ?_)
    rw [or_comm, or_assoc]

/-! ### What is read back -/

/-- The amount of a resource that has an annotation of its own. -/
def own (annotations : Labels) (name : String) : Option Quantity :=
  (fixedSources.find? fun source => source.2 == name).bind fun source => amount? annotations source.1

/-- The number of accelerators, if they have this name. -/
def accelerators (annotations : Labels) (name : String) : Option Quantity :=
  if annotations.get? gpuTypeKey = some name then amount? annotations gpuCountKey else none

theorem own_of_mem {source : String × String} (h : source ∈ fixedSources) :
    own annotations source.2 = amount? annotations source.1 := by
  simp only [fixedSources, List.mem_cons, List.not_mem_nil, or_false] at h
  rcases h with rfl | rfl | rfl | rfl <;> rfl

theorem accelerators_eq_some_iff : accelerators annotations name = some q ↔
    annotations.get? gpuTypeKey = some name ∧ amount? annotations gpuCountKey = some q := by
  simp [accelerators]

theorem own_of_forall_ne (h : ∀ source ∈ fixedSources, source.2 ≠ name) :
    own annotations name = none := by
  have hnone : fixedSources.find? (fun source => source.2 == name) = none :=
    List.find?_eq_none.2 fun source hmem => by simpa using h source hmem
  rw [own, hnone, Option.bind_none]

/-- The accelerators replace what is there under their name. -/
private theorem get?_withAccelerators (annotations : Labels) (capacity : Resources) (name : String) :
    (withSources annotations capacity
      ((annotations.get? gpuTypeKey).toList.map (gpuCountKey, ·))).get? name =
      (accelerators annotations name).or (capacity.get? name) := by
  unfold accelerators
  cases annotations.get? gpuTypeKey with
  | none => simp [withSources]
  | some accelerator =>
    simp only [withSources, Option.toList_some, List.map_cons, List.map_nil, List.foldl_cons,
      List.foldl_nil, get?_withAmount, Option.some.injEq]
    by_cases h : name = accelerator
    · rw [if_pos h, if_pos h.symm]
    · rw [if_neg h, if_neg (Ne.symm h), Option.none_or]

/-- What is read under a name: disk and pods replace accelerators of their name, which themselves
replace all that was read before them. -/
theorem get?_of_declared (h : declared annotations = .ok capacity) (name : String) :
    capacity.get? name =
      if name = disk ∨ name = pods then (own annotations name).or (accelerators annotations name)
      else (accelerators annotations name).or (own annotations name) := by
  have hsources : capacity = withAmount (withAmount
      (withSources annotations
        (withAmount (withAmount ∅ cpu (amount? annotations cpuKey)) memory
          (amount? annotations memoryKey))
        ((annotations.get? gpuTypeKey).toList.map (gpuCountKey, ·)))
      disk (amount? annotations diskKey)) pods (amount? annotations podsKey) := by
    rw [(declared_eq_ok_iff.1 h).2, sources, withSources, List.foldl_append, List.foldl_append]
    rfl
  have hnames : cpu ≠ memory ∧ cpu ≠ disk ∧ cpu ≠ pods ∧ memory ≠ disk ∧ memory ≠ pods ∧
      disk ≠ pods := by decide
  obtain ⟨hcm, hcd, hcp, hmd, hmp, hdp⟩ := hnames
  rw [hsources]
  simp only [get?_withAmount, get?_withAccelerators, NameMap.get?_empty, Option.or_none]
  by_cases hfixed : ∃ source ∈ fixedSources, source.2 = name
  · obtain ⟨source, hmem, rfl⟩ := hfixed
    rw [own_of_mem hmem]
    simp only [fixedSources, List.mem_cons, List.not_mem_nil, or_false] at hmem
    rcases hmem with rfl | rfl | rfl | rfl
    · simp [hcm, hcd, hcp]
    · simp [hcm.symm, hmd, hmp]
    · simp [hcd.symm, hmd.symm, hdp]
    · simp [hcp.symm, hmp.symm, hdp.symm]
  · have hne : ∀ source ∈ fixedSources, source.2 ≠ name := fun source hmem heq =>
      hfixed ⟨source, hmem, heq⟩
    have hne' := hne
    simp only [fixedSources, List.forall_mem_cons] at hne'
    simp [own_of_forall_ne hne, hne'.1.symm, hne'.2.1.symm, hne'.2.2.1.symm, hne'.2.2.2.1.symm]

/-- Each resource with an annotation of its own has the amount of that annotation, the accelerators have
theirs, and there is nothing else. -/
structure ReadsBack (annotations : Labels) (capacity : Resources) : Prop where
  fixed : ∀ source ∈ fixedSources, capacity.get? source.2 = amount? annotations source.1
  accelerators : ∀ name q, annotations.get? gpuTypeKey = some name →
    amount? annotations gpuCountKey = some q → capacity.get? name = some q
  nothing_else : ∀ name q, capacity.get? name = some q →
    (∃ source ∈ fixedSources, source.2 = name) ∨
      annotations.get? gpuTypeKey = some name ∧ amount? annotations gpuCountKey = some q

/-- The accelerators have the name of a resource with an annotation of its own, which does not say their
number. -/
def Clash (annotations : Labels) : Prop :=
  ∃ source ∈ fixedSources, annotations.get? gpuTypeKey = some source.2 ∧
    ∃ q, amount? annotations gpuCountKey = some q ∧ amount? annotations source.1 ≠ some q

theorem readsBack_iff (h : declared annotations = .ok capacity) :
    ReadsBack annotations capacity ↔ ¬ Clash annotations := by
  constructor
  · rintro hreads ⟨source, hmem, hname, q, hcount, hne⟩
    exact hne (by rw [← hreads.fixed source hmem, hreads.accelerators _ q hname hcount])
  · intro hclash
    have hagree : ∀ source ∈ fixedSources, ∀ q, accelerators annotations source.2 = some q →
        amount? annotations source.1 = some q := fun source hmem q hq => by
      obtain ⟨hname, hcount⟩ := accelerators_eq_some_iff.1 hq
      exact Classical.byContradiction fun hne => hclash ⟨source, hmem, hname, q, hcount, hne⟩
    have hfixed : ∀ source ∈ fixedSources, capacity.get? source.2 = amount? annotations source.1 := by
      intro source hmem
      rw [get?_of_declared h, own_of_mem hmem]
      cases hq : accelerators annotations source.2 with
      | none => simp
      | some q => simp [hagree source hmem q hq]
    have hother : ∀ name, (∀ source ∈ fixedSources, source.2 ≠ name) →
        capacity.get? name = accelerators annotations name := fun name hne => by
      simp [get?_of_declared h, own_of_forall_ne hne]
    refine ⟨hfixed, fun name q hname hcount => ?_, fun name q hget => ?_⟩
    · have hq := accelerators_eq_some_iff.2 ⟨hname, hcount⟩
      by_cases hmem : ∃ source ∈ fixedSources, source.2 = name
      · obtain ⟨source, hmem, rfl⟩ := hmem
        rw [hfixed source hmem, hagree source hmem q hq]
      · rw [hother name fun source hsource heq => hmem ⟨source, hsource, heq⟩, hq]
    · by_cases hmem : ∃ source ∈ fixedSources, source.2 = name
      · exact .inl hmem
      · rw [hother name fun source hsource heq => hmem ⟨source, hsource, heq⟩] at hget
        exact .inr (accelerators_eq_some_iff.1 hget)

/-- Reading fails exactly on a malformed annotation. Otherwise all amounts are read back unless the
accelerators have the name of another amount; then the one that is read later is there, disk and pods
rather than accelerators, and accelerators rather than processors and memory. -/
theorem declared_reads_back_iff (annotations : Labels) :
    ((∃ e, declared annotations = .error e) ↔
      (∃ source ∈ fixedSources, Malformed annotations source.1) ∨
        (∃ name, annotations.get? gpuTypeKey = some name) ∧ Malformed annotations gpuCountKey) ∧
    ∀ capacity, declared annotations = .ok capacity →
      (ReadsBack annotations capacity ↔ ¬ Clash annotations) ∧
      ∀ name, capacity.get? name =
        if name = disk ∨ name = pods then (own annotations name).or (accelerators annotations name)
        else (accelerators annotations name).or (own annotations name) := by
  exact ⟨declared_fails_iff, fun capacity h => ⟨readsBack_iff h, get?_of_declared h⟩⟩

/-- The annotations of four processors, with one accelerator of the given name. -/
def fourProcessors (accelerator : String) : Labels :=
  .ofList [(cpuKey, "4"), (gpuTypeKey, accelerator), (gpuCountKey, "1")]

/-- Accelerators with a name of their own leave the other amounts as they are. -/
theorem readsBack_beside_accelerator :
    ∃ capacity, declared (fourProcessors "nvidia.com/gpu") = .ok capacity ∧
      ReadsBack (fourProcessors "nvidia.com/gpu") capacity := by
  refine ⟨.ofList [(cpu, ⟨4000, "4"⟩), ("nvidia.com/gpu", ⟨1000, "1"⟩)], rfl, ?_⟩
  refine (((declared_reads_back_iff _).2 _ rfl).1).2 ?_
  rintro ⟨source, hmem, hname, -⟩
  have hne : ∀ source ∈ fixedSources,
      (fourProcessors "nvidia.com/gpu").get? gpuTypeKey ≠ some source.2 := by decide
  exact hne source hmem hname

/-- Accelerators that are called like the processors replace them. -/
theorem processors_replaced :
    ∃ capacity, declared (fourProcessors cpu) = .ok capacity ∧
      amount? (fourProcessors cpu) cpuKey = some ⟨4000, "4"⟩ ∧ capacity.get? cpu = some ⟨1000, "1"⟩ ∧
      ¬ ReadsBack (fourProcessors cpu) capacity := by
  refine ⟨.ofList [(cpu, ⟨1000, "1"⟩)], rfl, by decide, by decide, fun hreads => ?_⟩
  have hcpu := hreads.fixed (cpuKey, cpu) (by decide)
  revert hcpu
  decide

end Capacity
end MachineClaims
