import MachineClaims.Proofs.Canonical
import MachineClaims.Proofs.Demands
import Mathlib.Data.Set.Card

/-!
# How many values a set allows

A set counts its values without looking for them. One that lists values counts those within its bounds,
one that excludes values has none if its bounds leave no integer between them and no end of them
otherwise. The count is never too small (`ValueSet.encard_allowed_le_size`), and it does not grow when
sets are intersected (`ValueSet.size_inter_le`). It is exact because an integer is written in infinitely
many ways, of which only finitely many can be excluded, except where a single bound is so far out that it
leaves no integer of 64 bits (`ValueSet.counted_iff_within_reach`).
-/

namespace MachineClaims

namespace Text

/-- An integer in decimal behind a number of spaces. -/
def indented (n : Int) (spaces : Nat) : String :=
  String.ofList (List.replicate spaces ' ' ++ (decimal n).toList)

theorem indented_injective (n : Int) : Function.Injective (indented n) := by
  intro j k h
  have hlength := congrArg (fun text => text.toList.length) h
  simpa [indented] using hlength

theorem trimChars_replicate_append (spaces : Nat) (cs : List Char) :
    trimChars (List.replicate spaces ' ' ++ cs) = trimChars cs := by
  have hblank : isBlank ' ' = true := by decide
  induction spaces with
  | zero => rfl
  | succ spaces ih =>
    rw [← ih, trimChars, List.replicate_succ, List.cons_append, List.dropWhile_cons_of_pos hblank,
      ← trimChars]

theorem trimChars_decimal (n : Int) : trimChars (decimal n).toList = (decimal n).toList := by
  refine trimChars_of_forall fun c hc => ?_
  rw [toList_decimal] at hc
  rcases List.mem_append.1 hc with hc | hc
  · split at hc
    · obtain rfl := List.mem_singleton.1 hc
      decide
    · cases hc
  · exact isBlank_of_isDigit (Nat.isDigit_of_mem_toDigits (by decide) (by decide) hc)

theorem fitsSigned_64_iff {n : Int} : fitsSigned 64 n = true ↔ -2 ^ 63 ≤ n ∧ n < 2 ^ 63 := by
  simp [fitsSigned]

end Text

namespace ValueSet

variable {r s : ValueSet} {value : String}

theorem integer?_indented {n : Int} (fits : Text.fitsSigned 64 n = true) (spaces : Nat) :
    integer? (Text.indented n spaces) = some n := by
  rw [integer?, Text.indented, String.toList_ofList, Text.trimChars_replicate_append,
    Text.trimChars_decimal, Text.signedBits?, Text.signed?_decimal]
  simp [fits]

/-! ### The count of a set -/

/-- The values that a set allows. -/
def allowed (r : ValueSet) : Set String := {value | r.has value = true}

/-- The count of a set as a number that may be infinite. -/
def size (r : ValueSet) : ℕ∞ := r.count?.elim ⊤ (↑)

theorem allowed_inter (r s : ValueSet) : (r.inter s).allowed = r.allowed ∩ s.allowed := by
  ext value
  simp [allowed, has_inter]

theorem inBounds_iff : r.inBounds value = true ↔ (r.above = none ∧ r.below = none) ∨
    ∃ n, integer? value = some n ∧ (∀ bound ∈ r.above, bound < n) ∧ ∀ bound ∈ r.below, n < bound := by
  unfold inBounds
  cases r.above <;> cases r.below <;> cases integer? value <;> simp

theorem boundsEmpty_iff : r.boundsEmpty = true ↔
    ∃ low ∈ r.above, ∃ high ∈ r.below, high ≤ low + 1 := by
  unfold boundsEmpty
  cases r.above <;> cases r.below <;> simp
  omega

/-- No value lies between bounds that leave no integer. -/
theorem inBounds_of_boundsEmpty (h : r.boundsEmpty = true) (value : String) :
    r.inBounds value = false := by
  obtain ⟨low, hlow, high, hhigh, hle⟩ := boundsEmpty_iff.1 h
  rw [← Bool.not_eq_true, inBounds_iff]
  rintro (⟨hnone, -⟩ | ⟨n, -, habove, hbelow⟩)
  · rw [hnone] at hlow
    cases hlow
  · have hlt := habove low hlow
    have hgt := hbelow high hhigh
    omega

theorem allowed_of_boundsEmpty (h : r.boundsEmpty = true) : r.allowed = ∅ := by
  ext value
  simp [allowed, has, inBounds_of_boundsEmpty h]

/-- A set that lists values has those of them that are within its bounds. -/
theorem size_of_finite (h : r.complement = false) : r.size = r.allowed.encard := by
  have hallowed : r.allowed = ↑(r.values.keys.filter r.inBounds).toFinset := by
    ext value
    simp [allowed, has, h, NameMap.mem_keys_iff, and_comm]
  have hnodup : (r.values.keys.filter r.inBounds).Nodup := r.values.nodup_keys.filter _
  rw [hallowed, Set.encard_coe_eq_coe_finsetCard, List.toFinset_card_of_nodup hnodup, size, count?, h,
    List.countP_eq_length_filter]
  rfl

theorem size_of_complement (h : r.complement = true) :
    r.size = if r.boundsEmpty then 0 else ⊤ := by
  rw [size, count?, if_pos h]
  split <;> rfl

theorem size_eq_encard_of_ne_top (h : r.size ≠ ⊤) : r.size = r.allowed.encard := by
  cases hcomplement : r.complement with
  | false => exact size_of_finite hcomplement
  | true =>
    rw [size_of_complement hcomplement] at h ⊢
    cases hempty : r.boundsEmpty with
    | false => simp [hempty] at h
    | true => simp [allowed_of_boundsEmpty hempty]

/-- The count is never too small. -/
theorem encard_allowed_le_size (r : ValueSet) : r.allowed.encard ≤ r.size := by
  by_cases h : r.size = ⊤
  · rw [h]
    exact le_top
  · exact (size_eq_encard_of_ne_top h).ge

/-- The larger of two values is no less than either. -/
theorem exists_le_larger? {α : Type} [LinearOrder α] {a : Option α} {x : α} (h : x ∈ a)
    (b : Option α) : ∃ y ∈ larger? a b, x ≤ y := by
  obtain rfl := Option.mem_def.1 h
  cases b with
  | none => exact ⟨x, rfl, le_rfl⟩
  | some y =>
    refine ⟨_, rfl, ?_⟩
    split
    · exact le_of_lt ‹_›
    · exact le_rfl

/-- The smaller of two values is no more than either. -/
theorem exists_smaller?_le {α : Type} [LinearOrder α] {a : Option α} {x : α} (h : x ∈ a)
    (b : Option α) : ∃ y ∈ smaller? a b, y ≤ x := by
  obtain rfl := Option.mem_def.1 h
  cases b with
  | none => exact ⟨x, rfl, le_rfl⟩
  | some y =>
    refine ⟨_, rfl, ?_⟩
    split
    · exact le_of_lt ‹_›
    · exact le_rfl

theorem boundsEmpty_inter (h : r.boundsEmpty = true) (s : ValueSet) :
    (r.inter s).boundsEmpty = true := by
  obtain ⟨low, hlow, high, hhigh, hle⟩ := boundsEmpty_iff.1 h
  obtain ⟨low', hlow', hlow_le⟩ := exists_le_larger? hlow s.above
  obtain ⟨high', hhigh', hhigh_le⟩ := exists_smaller?_le hhigh s.below
  rw [boundsEmpty_iff, above_inter, below_inter]
  exact ⟨low', hlow', high', hhigh', by omega⟩

/-- An intersection counts no more than what is intersected. -/
theorem size_inter_le (r s : ValueSet) : (r.inter s).size ≤ r.size := by
  cases hfinite : r.complement && s.complement with
  | false =>
    calc (r.inter s).size = (r.inter s).allowed.encard := size_of_finite (by simp [hfinite])
      _ ≤ r.allowed.encard := Set.encard_le_encard (by simp [allowed_inter])
      _ ≤ r.size := encard_allowed_le_size r
  | true =>
    have hr : r.complement = true := ((Bool.and_eq_true ..).mp hfinite).1
    rw [size_of_complement hr, size_of_complement (by simp [hfinite])]
    cases hempty : r.boundsEmpty with
    | false => exact le_top
    | true => simp [boundsEmpty_inter hempty]

/-! ### Sets that can be made -/

/-- The sets that lists and bounds of 64 bits stand for, and their intersections. -/
inductive Made : ValueSet → Prop where
  | isIn (key : String) (values : List String) : Made (isIn key values)
  | notIn (key : String) (values : List String) : Made (notIn key values)
  | greater (key : String) {bound : Int} (fits : Text.fitsSigned 64 bound = true) :
    Made (greater key bound)
  | less (key : String) {bound : Int} (fits : Text.fitsSigned 64 bound = true) :
    Made (less key bound)
  | withMinValues {r : ValueSet} (h : Made r) (min : Option Nat) : Made (r.withMinValues min)
  | inter {r s : ValueSet} (hr : Made r) (hs : Made s) : Made (r.inter s)

/-- Both bounds, as far as there are any, are integers of 64 bits. -/
def Bounded (r : ValueSet) : Prop :=
  r.above.all (Text.fitsSigned 64) = true ∧ r.below.all (Text.fitsSigned 64) = true

private theorem all_larger?_of_all {p : Int → Bool} {a b : Option Int} (ha : a.all p = true)
    (hb : b.all p = true) : (larger? a b).all p = true := by
  cases a <;> cases b <;> simp_all [larger?]
  split <;> assumption

private theorem all_smaller?_of_all {p : Int → Bool} {a b : Option Int} (ha : a.all p = true)
    (hb : b.all p = true) : (smaller? a b).all p = true := by
  cases a <;> cases b <;> simp_all [smaller?]
  split <;> assumption

theorem Made.bounded (h : r.Made) : r.Bounded := by
  induction h with
  | isIn => exact ⟨rfl, rfl⟩
  | notIn => exact ⟨rfl, rfl⟩
  | greater _ fits => exact ⟨fits, rfl⟩
  | less _ fits => exact ⟨rfl, fits⟩
  | withMinValues _ _ ih => exact ih
  | inter _ _ ihr ihs =>
    rw [Bounded, above_inter, below_inter]
    exact ⟨all_larger?_of_all ihr.1 ihs.1, all_smaller?_of_all ihr.2 ihs.2⟩

/-- The only bound lies at the end of the integers of 64 bits and leaves none of them. -/
def OutOfReach (r : ValueSet) : Prop :=
  r.complement = true ∧
    (r.above = some (2 ^ 63 - 1) ∧ r.below = none ∨ r.above = none ∧ r.below = some (-2 ^ 63))

theorem allowed_of_outOfReach (h : r.OutOfReach) : r.allowed = ∅ := by
  ext value
  suffices hout : r.inBounds value = false by simp [allowed, has, hout]
  rw [← Bool.not_eq_true, inBounds_iff]
  obtain ⟨-, ⟨habove, hbelow⟩ | ⟨habove, hbelow⟩⟩ := h
  · simp only [habove, hbelow, integer?_eq_some_iff]
    rintro (⟨hnone, -⟩ | ⟨n, hn, hlt, -⟩)
    · cases hnone
    · have hfits := hn.2.2
      have hlow := hlt _ rfl
      omega
  · simp only [habove, hbelow, integer?_eq_some_iff]
    rintro (⟨-, hnone⟩ | ⟨n, hn, -, hlt⟩)
    · cases hnone
    · have hfits := hn.2.1
      have hhigh := hlt _ rfl
      omega

theorem size_of_outOfReach (h : r.OutOfReach) : r.size = ⊤ := by
  have hempty : r.boundsEmpty = false := by
    unfold boundsEmpty
    obtain ⟨-, ⟨habove, hbelow⟩ | ⟨habove, hbelow⟩⟩ := h <;> simp [habove, hbelow]
  rw [size_of_complement h.1, hempty]
  rfl

/-- If there is room between the bounds, an integer of 64 bits lies there. -/
theorem exists_between (bounded : r.Bounded) (hcomplement : r.complement = true)
    (room : r.boundsEmpty = false) (reach : ¬ r.OutOfReach) :
    ∃ n, Text.fitsSigned 64 n = true ∧ (∀ bound ∈ r.above, bound < n) ∧
      ∀ bound ∈ r.below, n < bound := by
  obtain ⟨key, complement, values, above, below, min⟩ := r
  obtain ⟨habove, hbelow⟩ := bounded
  simp only [OutOfReach, boundsEmpty] at hcomplement room reach habove hbelow
  cases above with
  | none =>
    cases below with
    | none => exact ⟨0, by decide, nofun, nofun⟩
    | some high =>
      have hfits := Text.fitsSigned_64_iff.1 hbelow
      have hne : high ≠ -2 ^ 63 := fun heq => reach ⟨hcomplement, .inr ⟨rfl, congrArg some heq⟩⟩
      exact ⟨high - 1, Text.fitsSigned_64_iff.2 (by omega), nofun, by simp⟩
  | some low =>
    have hlow := Text.fitsSigned_64_iff.1 habove
    cases below with
    | none =>
      have hne : low ≠ 2 ^ 63 - 1 := fun heq => reach ⟨hcomplement, .inl ⟨congrArg some heq, rfl⟩⟩
      exact ⟨low + 1, Text.fitsSigned_64_iff.2 (by omega), by simp, nofun⟩
    | some high =>
      have hhigh := Text.fitsSigned_64_iff.1 hbelow
      have hroom : low + 1 < high := by
        rw [decide_eq_false_iff_not] at room
        omega
      exact ⟨low + 1, Text.fitsSigned_64_iff.2 (by omega), by simp, by simpa using hroom⟩

/-- One integer in reach is enough: it is written in more ways than can be excluded. -/
theorem infinite_allowed (bounded : r.Bounded) (hcomplement : r.complement = true)
    (room : r.boundsEmpty = false) (reach : ¬ r.OutOfReach) : r.allowed.Infinite := by
  obtain ⟨n, fits, habove, hbelow⟩ := exists_between bounded hcomplement room reach
  have hwritten : (Set.range (Text.indented n)).Infinite :=
    Set.infinite_range_of_injective (Text.indented_injective n)
  have hexcluded : {value | r.values.contains value = true}.Finite := by
    refine r.values.keys.toFinset.finite_toSet.subset fun value hvalue => ?_
    simpa [NameMap.mem_keys_iff] using hvalue
  refine (hwritten.sdiff hexcluded).mono ?_
  rintro _ ⟨⟨spaces, rfl⟩, hkept⟩
  have hbounds : r.inBounds (Text.indented n spaces) = true :=
    inBounds_iff.2 (.inr ⟨n, integer?_indented fits spaces, habove, hbelow⟩)
  simp [allowed, has, hbounds, hcomplement, Bool.not_eq_true _ ▸ hkept]

/-- The count is the number of values, unless a bound is out of reach. -/
theorem size_eq_encard_iff (h : r.Made) : r.size = r.allowed.encard ↔ ¬ r.OutOfReach := by
  constructor
  · intro hsize hout
    rw [size_of_outOfReach hout, allowed_of_outOfReach hout, Set.encard_empty] at hsize
    cases hsize
  · intro reach
    cases hcomplement : r.complement with
    | false => exact size_of_finite hcomplement
    | true =>
      rw [size_of_complement hcomplement]
      cases room : r.boundsEmpty with
      | true => simp [allowed_of_boundsEmpty room]
      | false =>
        rw [(infinite_allowed h.bounded hcomplement room reach).encard_eq]
        rfl

/-- What a set answers about the number of its values is right. -/
structure Counted (r : ValueSet) : Prop where
  finite : r.allowed.Finite → r.count? = some r.allowed.ncard
  infinite : r.allowed.Infinite → r.count? = none
  isEmpty_iff : r.isEmpty = true ↔ ∀ value, r.has value = false

theorem size_eq_natCast_iff {n : ℕ} : r.size = n ↔ r.count? = some n := by
  unfold size
  cases r.count? with
  | none => simp
  | some m => simp

theorem size_eq_top_iff : r.size = ⊤ ↔ r.count? = none := by
  unfold size
  cases r.count? with
  | none => simp
  | some m => simp

theorem allowed_eq_empty_iff : r.allowed = ∅ ↔ ∀ value, r.has value = false := by
  simp [Set.eq_empty_iff_forall_notMem, allowed]

theorem isEmpty_iff_size : r.isEmpty = true ↔ r.size = 0 := by
  rw [isEmpty, beq_iff_eq, ← size_eq_natCast_iff, Nat.cast_zero]

theorem counted_iff_size : r.Counted ↔ r.size = r.allowed.encard := by
  constructor
  · intro counted
    rcases r.allowed.finite_or_infinite with hfinite | hinfinite
    · rw [← hfinite.cast_ncard_eq, size_eq_natCast_iff]
      exact counted.finite hfinite
    · rw [hinfinite.encard_eq, size_eq_top_iff]
      exact counted.infinite hinfinite
  · intro hsize
    refine ⟨fun hfinite => ?_, fun hinfinite => ?_, ?_⟩
    · rw [← size_eq_natCast_iff, hsize, hfinite.cast_ncard_eq]
    · rw [← size_eq_top_iff, hsize, hinfinite.encard_eq]
    · rw [isEmpty_iff_size, hsize, Set.encard_eq_zero, allowed_eq_empty_iff]

end ValueSet

namespace Constraints

variable {key : String} {r s : ValueSet}

/-- A set that only excludes values and is not a complement forbids the label altogether. -/
theorem allowed_of_excludes (hr : excludes r = true) (finite : r.complement = false) :
    r.allowed = ∅ := by
  have hlisted : r.values.entries.isEmpty = true := by
    unfold excludes ValueSet.operator at hr
    rw [finite] at hr
    cases hempty : r.values.entries.isEmpty with
    | true => rfl
    | false =>
      rw [hempty] at hr
      cases hr
  refine ValueSet.allowed_eq_empty_iff.2 fun value => ?_
  have hkeys : r.values.keys = [] := by
    rw [NameMap.keys, List.isEmpty_iff.1 hlisted, List.map_nil]
  have hcontains : r.values.contains value = false := by
    rw [← Bool.not_eq_true, ← NameMap.mem_keys_iff, hkeys]
    exact List.not_mem_nil
  simp [ValueSet.has, hcontains, finite]

/-- Sets that only exclude values have no values in common, or no end of them. -/
theorem size_inter_of_excludes (hr : excludes r = true) (hs : excludes s = true) :
    (r.inter s).size = 0 ∨ (r.inter s).size = ⊤ := by
  cases hfinite : r.complement && s.complement with
  | true =>
    rw [ValueSet.size_of_complement (by simp [hfinite])]
    split
    · exact .inl rfl
    · exact .inr rfl
  | false =>
    left
    rw [ValueSet.size_of_finite (by simp [hfinite]), Set.encard_eq_zero, ValueSet.allowed_inter]
    rcases Bool.and_eq_false_iff.1 hfinite with h | h
    · rw [allowed_of_excludes hr h, Set.empty_inter]
    · rw [allowed_of_excludes hs h, Set.inter_empty]

/-- Nothing stands against two sets just if a missing label satisfies both, or if they have a value in
common and no fewer than have to remain, by their count. -/
theorem conflict?_eq_none_iff : conflict? key r s = none ↔
    (excludes r = true ∧ excludes s = true) ∨
      (r.inter s).size ≠ 0 ∧ ∀ min ∈ (r.inter s).minValues, (min : ℕ∞) ≤ (r.inter s).size := by
  have hexcludes : excludes r = true ∧ excludes s = true →
      (r.inter s).size = 0 ∨ (r.inter s).size = ⊤ := fun h => size_inter_of_excludes h.1 h.2
  cases hcount : (r.inter s).count? with
  | none =>
    have hsize := ValueSet.size_eq_top_iff.2 hcount
    simp [conflict?, hcount, hsize]
  | some count =>
    have hsize := ValueSet.size_eq_natCast_iff.2 hcount
    rw [hsize] at hexcludes ⊢
    cases count with
    | zero => simp [conflict?, hcount]
    | succ count =>
      have hboth : ¬ (excludes r = true ∧ excludes s = true) := fun h => by
        simpa using hexcludes h
      rw [or_iff_right hboth, and_iff_right (by simp)]
      simp only [conflict?, hcount]
      cases (r.inter s).minValues with
      | none => simp
      | some min =>
        simp only [Option.mem_some_iff, forall_eq', Nat.cast_le, ite_eq_right_iff, reduceCtorEq,
          imp_false, not_lt]

/-- Two sets without a common value are taken for a conflict unless a missing label satisfies both, or a
bound of their intersection is out of reach. -/
theorem conflict?_eq_none_iff_of_disjoint (hr : r.Made) (hs : s.Made)
    (disjoint : ∀ value, ¬ (r.has value = true ∧ s.has value = true)) :
    conflict? key r s = none ↔
      (excludes r = true ∧ excludes s = true) ∨ (r.inter s).OutOfReach := by
  have hallowed : (r.inter s).allowed = ∅ := by
    rw [ValueSet.allowed_inter, Set.eq_empty_iff_forall_notMem]
    exact disjoint
  have hexact := ValueSet.size_eq_encard_iff (hr.inter hs)
  rw [hallowed, Set.encard_empty] at hexact
  rw [conflict?_eq_none_iff]
  refine or_congr_right ⟨?_, fun hout => ?_⟩
  · rintro ⟨hsome, -⟩
    exact not_not.1 fun reach => hsome (hexact.2 reach)
  · simp [ValueSet.size_of_outOfReach hout]

end Constraints

namespace ValueSet

/-- A set that can be made answers rightly about the number of its values just if no bound of it is out of
reach. Otherwise it claims to have no end of values and has none. So two sets without a common value are
in conflict unless a missing label satisfies both or a bound of their intersection is out of reach. -/
theorem counted_iff_within_reach {r : ValueSet} (h : r.Made) :
    (r.Counted ↔ ¬ r.OutOfReach) ∧
    (r.OutOfReach → r.count? = none ∧ r.isEmpty = false ∧ ∀ value, r.has value = false) ∧
    ∀ s, s.Made → (∀ value, ¬ (r.has value = true ∧ s.has value = true)) → ∀ key,
      (Constraints.conflict? key r s = none ↔
        (Constraints.excludes r = true ∧ Constraints.excludes s = true) ∨ (r.inter s).OutOfReach) := by
  refine ⟨counted_iff_size.trans (size_eq_encard_iff h), fun hout => ⟨?_, ?_, ?_⟩,
    fun s hs disjoint key => Constraints.conflict?_eq_none_iff_of_disjoint h hs disjoint⟩
  · exact size_eq_top_iff.1 (size_of_outOfReach hout)
  · rw [← Bool.not_eq_true, isEmpty_iff_size, size_of_outOfReach hout]
    exact ENat.top_ne_zero
  · exact allowed_eq_empty_iff.1 (allowed_of_outOfReach hout)

/-- When only five lies between the bounds and the text `5` is excluded, there still is no end of ways to
write it. They all are in conflict with the text `5`. -/
theorem counted_iff_within_reach_five :
    let r := ((greater "cpu" 4).inter (less "cpu" 6)).inter (notIn "cpu" ["5"])
    r.Made ∧ ¬ r.OutOfReach ∧ r.Counted ∧ r.allowed.Infinite ∧
      Constraints.conflict? "cpu" r (isIn "cpu" ["5"]) ≠ none := by
  intro r
  have hmade : r.Made := .inter (.inter (.greater _ (by decide)) (.less _ (by decide))) (.notIn _ _)
  have habove : r.above = some 4 := by decide
  have hreach : ¬ r.OutOfReach := by
    rintro ⟨-, ⟨h, -⟩ | ⟨h, -⟩⟩ <;> rw [habove] at h <;> simp at h
  obtain ⟨hcounted, -, hconflict⟩ := counted_iff_within_reach hmade
  refine ⟨hmade, hreach, hcounted.2 hreach, fun hfinite => ?_, ?_⟩
  · have hcount : r.count? = none := by decide
    rw [(hcounted.2 hreach).finite hfinite] at hcount
    cases hcount
  · have hdisjoint : ∀ value, ¬ (r.has value = true ∧ (isIn "cpu" ["5"]).has value = true) := by
      intro value
      rw [has_inter, has_notIn, has_isIn]
      simp +contextual
    have hexcludes : Constraints.excludes (isIn "cpu" ["5"]) = false := by decide
    rw [Ne, hconflict _ (.isIn _ _) hdisjoint, hexcludes]
    rintro (⟨-, h⟩ | ⟨h, -⟩) <;> cases h

/-- No integer of 64 bits is above the largest one, but the set of those above it is not said to be empty,
and it is compatible with any value. -/
theorem largest_bound_uncounted :
    let r := greater "cpu" (2 ^ 63 - 1)
    r.Made ∧ (∀ value, r.has value = false) ∧ r.isEmpty = false ∧ r.count? = none ∧
      Constraints.compatible (.ofList [r]) (.ofList [present "cpu"]) = true := by
  intro r
  have hout : r.OutOfReach := ⟨rfl, .inl ⟨rfl, rfl⟩⟩
  refine ⟨.greater _ (by decide), ?_, by decide, by decide, by decide⟩
  exact allowed_eq_empty_iff.1 (allowed_of_outOfReach hout)

end ValueSet
end MachineClaims
