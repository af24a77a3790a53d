import MachineClaims.Proofs.Eligibility
import MachineClaims.Proofs.Intersections
import MachineClaims.Proofs.Literals
import Mathlib.Data.List.Perm.Basic

/-!
# What a list of demands allows

A demand either is malformed or accepts certain values (`ValueSet.ofDemand_eq_error_iff`,
`ValueSet.of_ofDemand`). A list of demands stands for all of them at once: for each key it allows what
every demand on this key accepts, and it does not matter in which order they are listed, because
intersecting sets of one key is commutative and associative (`ValueSet.inter_comm`,
`ValueSet.inter_right_comm`). The main statement is `demands_conjoined`.
-/

namespace MachineClaims

namespace Demand

/-- A demand that says nothing about the values of a label. -/
inductive Malformed (d : Demand) : Prop where
  | unnamed (h : d.key = "")
  | unlisted (h : d.operator = .isIn) (empty : d.values = [])
  | unbounded (h : d.operator = .above ∨ d.operator = .below)
    (no : ¬ ∃ text bound, d.values = [text] ∧ Text.WritesInteger text bound)

/-- The value is one that the demand asks for. -/
def Accepts (d : Demand) (value : String) : Prop :=
  match d.operator with
  | .isIn => value ∈ d.values
  | .notIn => value ∉ d.values
  | .present => True
  | .absent => False
  | .above => ∃ text bound n, d.values = [text] ∧ Text.WritesInteger text bound ∧
      Text.WritesInteger value n ∧ bound < n
  | .below => ∃ text bound n, d.values = [text] ∧ Text.WritesInteger text bound ∧
      Text.WritesInteger value n ∧ n < bound

end Demand

namespace ValueSet

/-! ### The set of one demand -/

theorem bound?_eq_ok_iff {d : Demand} {bound : Int} :
    bound? d = .ok bound ↔ ∃ text, d.values = [text] ∧ Text.WritesInteger text bound := by
  unfold bound?
  split
  · rename_i text hvalues
    simp only [hvalues, List.cons.injEq, and_true, exists_eq_left', ← integer?_eq_some_iff]
    cases integer? text <;> simp
  · rename_i hvalues
    constructor
    · exact nofun
    · rintro ⟨text, htext, -⟩
      exact absurd htext (hvalues text)

@[simp] theorem has_notIn (key : String) (values : List String) (value : String) :
    (notIn key values).has value = !values.contains value := by
  simp [has, notIn, inBounds]

theorem has_greater_iff {key value : String} {bound : Int} :
    (greater key bound).has value = true ↔ ∃ n, Text.WritesInteger value n ∧ bound < n := by
  have hempty : (greater key bound).values.contains value = false := rfl
  have hcomplement : (greater key bound).complement = true := rfl
  have habove : (greater key bound).above = some bound := rfl
  have hbelow : (greater key bound).below = none := rfl
  simp [has, inBounds_eq, hempty, hcomplement, habove, hbelow, Option.any_eq_true,
    integer?_eq_some_iff]

theorem has_less_iff {key value : String} {bound : Int} :
    (less key bound).has value = true ↔ ∃ n, Text.WritesInteger value n ∧ n < bound := by
  have hempty : (less key bound).values.contains value = false := rfl
  have hcomplement : (less key bound).complement = true := rfl
  have habove : (less key bound).above = none := rfl
  have hbelow : (less key bound).below = some bound := rfl
  simp [has, inBounds_eq, hempty, hcomplement, habove, hbelow, Option.any_eq_true,
    integer?_eq_some_iff]

@[simp] theorem has_withMinValues (r : ValueSet) (min : Option Nat) (value : String) :
    (r.withMinValues min).has value = r.has value := rfl

/-- What is wrong with the values of a demand, or the set that they stand for. -/
private def ofOperator (d : Demand) : Except Capacity.Error ValueSet :=
  match d.operator with
  | .isIn =>
    if d.values = [] then .error (.invalidRequirement d.key .missingValues)
    else .ok (isIn d.key d.values)
  | .notIn => .ok (notIn d.key d.values)
  | .present => .ok (present d.key)
  | .absent => .ok (absent d.key)
  | .above => (bound? d).map (greater d.key)
  | .below => (bound? d).map (less d.key)

private theorem ofDemand_eq (d : Demand) : ofDemand d =
    if d.key = "" then .error (.invalidRequirement d.key .emptyKey)
    else (ofOperator d).map (·.withMinValues d.minValues) := by
  obtain ⟨key, operator, values, min⟩ := d
  unfold ofDemand ofOperator
  -- A missing key is reported for each operator alike, before anything else is.
  by_cases hkey : key = ""
  · subst hkey
    cases operator <;> rfl
  · simp only [hkey, if_false]
    cases operator with
    | isIn => by_cases hvalues : values = [] <;> simp [hvalues] <;> rfl
    | above => generalize bound? _ = bound; cases bound <;> rfl
    | below => generalize bound? _ = bound; cases bound <;> rfl
    | _ => rfl

/-- There is only one bound to compare with. -/
private theorem exists_bound_iff {R : Int → Int → Prop} {text value : String} {bound : Int}
    (htext : Text.WritesInteger text bound) :
    (∃ text' bound' n, [text] = [text'] ∧ Text.WritesInteger text' bound' ∧
      Text.WritesInteger value n ∧ R bound' n) ↔ ∃ n, Text.WritesInteger value n ∧ R bound n := by
  constructor
  · rintro ⟨text', bound', n, htexts, htext', hn, hR⟩
    obtain rfl := List.singleton_inj.1 htexts
    obtain rfl := htext.unique htext'
    exact ⟨n, hn, hR⟩
  · rintro ⟨n, hn, hR⟩
    exact ⟨text, bound, n, rfl, htext, hn, hR⟩

private theorem of_ofOperator {d : Demand} {r : ValueSet} (h : ofOperator d = .ok r) :
    r.key = d.key ∧ ∀ value, r.has value = true ↔ d.Accepts value := by
  obtain ⟨key, operator, values, min⟩ := d
  cases operator with
  | isIn =>
    by_cases hvalues : values = []
    · simp [ofOperator, hvalues] at h
    · obtain rfl : isIn key values = r := by simpa [ofOperator, hvalues] using h
      exact ⟨rfl, fun value => by simp [Demand.Accepts]⟩
  | notIn =>
    obtain rfl := Except.ok.inj h
    exact ⟨rfl, fun value => by simp [Demand.Accepts]⟩
  | present =>
    obtain rfl := Except.ok.inj h
    exact ⟨rfl, fun value => by simp [Demand.Accepts, present]⟩
  | absent =>
    obtain rfl := Except.ok.inj h
    exact ⟨rfl, fun value => by simp [Demand.Accepts, absent]⟩
  | above =>
    cases hbound : bound? ⟨key, .above, values, min⟩ with
    | error e => simp [ofOperator, hbound, Except.map] at h
    | ok bound =>
      obtain rfl : greater key bound = r := by simpa [ofOperator, hbound, Except.map] using h
      obtain ⟨text, rfl, htext⟩ := bound?_eq_ok_iff.1 hbound
      exact ⟨rfl, fun value => has_greater_iff.trans (exists_bound_iff htext).symm⟩
  | below =>
    cases hbound : bound? ⟨key, .below, values, min⟩ with
    | error e => simp [ofOperator, hbound, Except.map] at h
    | ok bound =>
      obtain rfl : less key bound = r := by simpa [ofOperator, hbound, Except.map] using h
      obtain ⟨text, rfl, htext⟩ := bound?_eq_ok_iff.1 hbound
      exact ⟨rfl, fun value => has_less_iff.trans
        (exists_bound_iff (R := fun bound n => n < bound) htext).symm⟩

/-- A set has the values that its demand accepts. -/
theorem of_ofDemand {d : Demand} {r : ValueSet} (h : ofDemand d = .ok r) :
    r.key = d.key ∧ r.minValues = d.minValues ∧ ∀ value, r.has value = true ↔ d.Accepts value := by
  rw [ofDemand_eq] at h
  split at h
  · cases h
  · cases hset : ofOperator d with
    | error e => simp [hset, Except.map] at h
    | ok s =>
      obtain rfl : s.withMinValues d.minValues = r := by simpa [hset, Except.map] using h
      obtain ⟨hkey, hhas⟩ := of_ofOperator hset
      exact ⟨hkey, rfl, hhas⟩

private theorem exists_error_map {α β ε : Type} {x : Except ε α} {f : α → β} :
    (∃ e, x.map f = .error e) ↔ ∃ e, x = .error e := by
  cases x <;> simp [Except.map]

private theorem malformed_iff {d : Demand} (hkey : d.key ≠ "") : d.Malformed ↔
    d.operator = .isIn ∧ d.values = [] ∨ (d.operator = .above ∨ d.operator = .below) ∧
      ¬ ∃ text bound, d.values = [text] ∧ Text.WritesInteger text bound := by
  constructor
  · intro h
    cases h with
    | unnamed h => exact absurd h hkey
    | unlisted h empty => exact .inl ⟨h, empty⟩
    | unbounded h no => exact .inr ⟨h, no⟩
  · rintro (⟨h, empty⟩ | ⟨h, no⟩)
    · exact .unlisted h empty
    · exact .unbounded h no

/-- There is no set for a demand just if the demand is malformed. -/
theorem ofDemand_eq_error_iff {d : Demand} : (∃ e, ofDemand d = .error e) ↔ d.Malformed := by
  have hbound : (∃ e, bound? d = .error e) ↔
      ¬ ∃ text bound, d.values = [text] ∧ Text.WritesInteger text bound := by
    rw [exists_comm]
    simp only [← bound?_eq_ok_iff]
    cases bound? d <;> simp
  rw [ofDemand_eq]
  by_cases hkey : d.key = ""
  · simp [hkey, Demand.Malformed.unnamed hkey]
  rw [if_neg hkey, exists_error_map, malformed_iff hkey, ← hbound]
  unfold ofOperator
  cases d.operator with
  | isIn => by_cases hvalues : d.values = [] <;> simp [hvalues]
  | above => simp [exists_error_map]
  | below => simp [exists_error_map]
  | _ => simp

end ValueSet

namespace Constraints

open ValueSet

/-- Takes one more set into an intersection, if there is one yet. -/
private def narrow (r? : Option ValueSet) (r : ValueSet) : Option ValueSet :=
  some (r?.elim r (·.inter r))

private theorem meet?_eq_foldl (l : List ValueSet) : meet? l = l.foldl narrow none := by
  induction l using List.reverseRecOn with
  | nil => rfl
  | append_singleton l r ih => rw [meet?_concat, ih, List.foldl_append]; rfl

/-- The intersection of sets of one key does not depend on their order. -/
theorem meet?_perm {l l' : List ValueSet} (h : l.Perm l') {key : String}
    (hkey : ∀ r ∈ l, r.key = key) : meet? l = meet? l' := by
  rw [meet?_eq_foldl, meet?_eq_foldl]
  refine h.foldl_eq' (fun r hr s hs r? => ?_) none
  cases r? with
  | none =>
    have hcomm : r.inter s = s.inter r := inter_comm ((hkey r hr).trans (hkey s hs).symm)
    exact congrArg some hcomm
  | some t => exact congrArg some (inter_right_comm t r s)

theorem ofList_perm {l l' : List ValueSet} (h : l.Perm l') : ofList l = ofList l' := by
  apply NameMap.ext_get?
  intro key
  rw [get?_ofList, get?_ofList]
  exact meet?_perm (h.filter _) fun r hr => by simpa using (List.mem_filter.1 hr).2

/-- As many values have to remain as the set that asks for most wants. -/
theorem minValues_meet? {l : List ValueSet} {r : ValueSet} (h : meet? l = some r) :
    r.minValues = (l.filterMap (·.minValues)).max? := by
  have hfold : ∀ (l : List ValueSet) (r : ValueSet),
      (l.foldl .inter r).minValues = ((r :: l).filterMap (·.minValues)).max? := by
    intro l
    induction l with
    | nil => intro r; cases hr : r.minValues <;> simp [hr]
    | cons s l ih =>
      intro r
      rw [List.foldl_cons, ih]
      cases hr : r.minValues <;> cases hs : s.minValues <;>
        simp [hr, hs, larger?_eq_merge, List.max?_cons', -List.max?_cons]
  cases l with
  | nil => cases h
  | cons s l => exact Option.some.inj h ▸ hfold l s

/-! ### Lists of demands -/

/-- A list of demands stands for no constraints just if one of them is malformed. -/
theorem ofDemands_eq_error_iff {l : List Demand} :
    (∃ e, ofDemands l = .error e) ↔ ∃ d ∈ l, d.Malformed := by
  have hsets : (∃ e, ofDemands l = .error e) ↔ ∃ e, l.mapM ofDemand = .error e := by
    unfold ofDemands
    cases l.mapM ofDemand <;> simp [bind, Except.bind, pure, Except.pure]
  rw [hsets, exists_mapM_eq_error_iff]
  simp only [ofDemand_eq_error_iff]

/-- The order in which demands are listed does not matter. -/
theorem ofDemands_perm {l l' : List Demand} (h : l.Perm l') {cs : Constraints}
    (hl : ofDemands l = .ok cs) : ofDemands l' = .ok cs := by
  obtain ⟨rs, hrs, rfl⟩ := ofDemands_ok hl
  cases hl' : ofDemands l' with
  | error e =>
    obtain ⟨d, hd, hmalformed⟩ := ofDemands_eq_error_iff.1 ⟨e, hl'⟩
    obtain ⟨e', he'⟩ := ofDemands_eq_error_iff.2 ⟨d, h.mem_iff.2 hd, hmalformed⟩
    cases hl.symm.trans he'
  | ok cs =>
    obtain ⟨rs', hrs', rfl⟩ := ofDemands_ok hl'
    have hinj : Function.Injective (Except.ok : ValueSet → Except Capacity.Error ValueSet) :=
      fun _ _ => Except.ok.inj
    have hperm : (rs'.map Except.ok).Perm (rs.map (Except.ok : ValueSet → Except Capacity.Error _)) := by
      rw [← mapM_eq_ok_iff.1 hrs, ← mapM_eq_ok_iff.1 hrs']
      exact (h.map _).symm
    rw [ofList_perm ((List.map_perm_map_iff hinj).1 hperm)]

/-- Whatever the sets of a list of demands on one key all satisfy, the demands do, and conversely. -/
private theorem forall_set_iff {l : List Demand} {rs : List ValueSet} {key : String}
    (h : l.mapM ofDemand = .ok rs) {P : ValueSet → Prop} {Q : Demand → Prop}
    (hPQ : ∀ d r, ofDemand d = .ok r → (P r ↔ Q d)) :
    (∀ r ∈ rs, r.key = key → P r) ↔ ∀ d ∈ l, d.key = key → Q d := by
  constructor
  · intro hsets d hd hkey
    obtain ⟨r, hr, hset⟩ : ∃ r ∈ rs, ofDemand d = .ok r := by
      have hmem : ofDemand d ∈ rs.map Except.ok := mapM_eq_ok_iff.1 h ▸ List.mem_map_of_mem hd
      obtain ⟨r, hr, heq⟩ := List.mem_map.1 hmem
      exact ⟨r, hr, heq.symm⟩
    exact (hPQ d r hset).1 (hsets r hr ((of_ofDemand hset).1.trans hkey))
  · intro hdemands r hr hkey
    obtain ⟨d, hd, hset⟩ := (mem_iff_of_mapM h r).1 hr
    exact (hPQ d r hset).2 (hdemands d hd ((of_ofDemand hset).1.symm.trans hkey))

private theorem minValues_of_mapM {l : List Demand} {rs : List ValueSet}
    (h : l.mapM ofDemand = .ok rs) (key : String) :
    (rs.filter fun r => r.key = key).filterMap (·.minValues) =
      (l.filter fun d => d.key = key).filterMap (·.minValues) := by
  replace h := mapM_eq_ok_iff.1 h
  induction l generalizing rs with
  | nil =>
    obtain rfl : rs = [] := by simpa using h.symm
    rfl
  | cons d l ih =>
    cases rs with
    | nil => cases h
    | cons r rs =>
      obtain ⟨hset, hrest⟩ := List.cons.inj h
      obtain ⟨hkey, hmin, -⟩ := of_ofDemand hset
      by_cases hd : d.key = key <;> simp [hkey, hd, hmin, ih hrest, List.filterMap_cons]

end Constraints

/-- A list of demands cannot be met just if one of them is malformed. Otherwise there is a set for just
the keys that are listed; it has the values that all demands on its key accept, of which as many have to
remain as any of these demands wants; and none of this depends on the order of the list. -/
theorem demands_conjoined (l : List Demand) :
    ((∃ e, Constraints.ofDemands l = .error e) ↔ ∃ d ∈ l, d.Malformed) ∧
    ∀ constraints, Constraints.ofDemands l = .ok constraints →
      (∀ key, key ∈ constraints.keys ↔ ∃ d ∈ l, d.key = key) ∧
      (∀ key r, constraints.get? key = some r →
        (∀ value, r.has value = true ↔ ∀ d ∈ l, d.key = key → d.Accepts value) ∧
        r.minValues = ((l.filter fun d => d.key = key).filterMap (·.minValues)).max?) ∧
      ∀ l', l.Perm l' → Constraints.ofDemands l' = .ok constraints := by
  refine ⟨Constraints.ofDemands_eq_error_iff, fun constraints h => ?_⟩
  obtain ⟨rs, hrs, rfl⟩ := Constraints.ofDemands_ok h
  refine ⟨fun key => ?_, fun key r hr => ⟨fun value => ?_, ?_⟩, fun l' hl' =>
    Constraints.ofDemands_perm hl' h⟩
  · rw [NameMap.mem_keys_iff, Constraints.contains_ofList_iff]
    have hnone : (∀ r ∈ rs, r.key = key → False) ↔ ∀ d ∈ l, d.key = key → False :=
      Constraints.forall_set_iff hrs fun _ _ _ => Iff.rfl
    simpa using not_congr hnone
  · have hall := Constraints.forall_get?_ofList (P := fun r => r.has value = true)
      (fun r s => by rw [ValueSet.has_inter, Bool.and_eq_true]) rs key
    rw [Constraints.forall_set_iff hrs fun d r hset => (ValueSet.of_ofDemand hset).2.2 value,
      hr] at hall
    simpa using hall
  · rw [Constraints.get?_ofList] at hr
    rw [Constraints.minValues_meet? hr, Constraints.minValues_of_mapM hrs]

/-- Of three sizes only one is above four and not excluded, though two have to remain. -/
theorem demands_conjoined_sizes :
    ∃ constraints r,
      Constraints.ofDemands [⟨"size", .above, ["4"], none⟩,
        ⟨"size", .isIn, ["16", "2", "8"], some 1⟩, ⟨"size", .notIn, ["16"], some 2⟩] = .ok constraints ∧
      constraints.get? "size" = some r ∧ r.minValues = some 2 ∧
      ∀ value, r.has value = true ↔ value = "8" := by
  obtain ⟨constraints, hl⟩ : ∃ constraints, Constraints.ofDemands [⟨"size", .above, ["4"], none⟩,
      ⟨"size", .isIn, ["16", "2", "8"], some 1⟩, ⟨"size", .notIn, ["16"], some 2⟩] =
        .ok constraints := ⟨_, rfl⟩
  obtain ⟨hkeys, hsets, -⟩ := (demands_conjoined _).2 constraints hl
  have hkey : "size" ∈ constraints.keys := (hkeys "size").2 ⟨_, List.mem_cons_self, rfl⟩
  obtain ⟨r, hr⟩ := Option.isSome_iff_exists.1 (NameMap.mem_keys_iff.1 hkey)
  obtain ⟨hhas, hmin⟩ := hsets "size" r hr
  have hfour : ValueSet.integer? "4" = some 4 := by decide
  have htwo : ValueSet.integer? "2" = some 2 := by decide
  have height : ValueSet.integer? "8" = some 8 := by decide
  refine ⟨constraints, r, hl, hr, hmin, fun value => (hhas value).trans ?_⟩
  simp only [List.forall_mem_cons, forall_const, List.not_mem_nil, Demand.Accepts,
    ← ValueSet.integer?_eq_some_iff]
  constructor
  · rintro ⟨⟨text, bound, n, htext, hbound, hn, hlt⟩, hlisted, hexcluded, -⟩
    obtain rfl := List.singleton_inj.1 htext
    obtain rfl := Option.some.inj (hfour.symm.trans hbound)
    have hcases : value = "16" ∨ value = "2" ∨ value = "8" := by simpa using hlisted
    obtain rfl | rfl | rfl := hcases
    · exact absurd List.mem_cons_self hexcluded
    · obtain rfl := Option.some.inj (htwo.symm.trans hn)
      omega
    · rfl
  · rintro rfl
    exact ⟨⟨"4", 4, 8, rfl, hfour, height, by decide⟩, by decide, by decide, nofun⟩

end MachineClaims
