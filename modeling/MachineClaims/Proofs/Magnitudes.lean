import MachineClaims.Proofs.Numerals
import Mathlib.Data.Rat.Floor
import Mathlib.Tactic.FieldSimp
import Mathlib.Tactic.Linarith
import Mathlib.Tactic.Positivity
import Mathlib.Tactic.Ring

/-!
# What a written quantity is worth

The rational number that digits and a factor denote (`Quantity.Numeral.magnitude`), and that the
integer arithmetic of the reader rounds it up to thousandths without an error, as long as no
intermediate result is too large (`Quantity.Numeral.millis?_eq_some_iff`). What comes of a text is
given by the grammar and this number alone (`Quantity.Reading`), and rounding away from zero keeps the
order of the numbers.
-/

namespace MachineClaims.Quantity

/-- The number that a factor stands for. -/
def Scale.factor : Scale → ℚ
  | .binary e => 2 ^ e
  | .decimal e => 10 ^ e

theorem Scale.factor_eq (scale : Scale) : scale.factor = scale.up / scale.down := by
  cases scale with
  | binary e => simp [factor, up, down]
  | decimal e =>
    obtain ⟨k, rfl | rfl⟩ := e.eq_nat_or_neg
    · simp [factor, up, down]
    · simp [factor, up, down]

theorem Scale.down_pos (scale : Scale) : 0 < scale.down := by
  cases scale with
  | binary e => exact Nat.one_pos
  | decimal e => exact Nat.pow_pos (by decide)

namespace Numeral

variable {n : Numeral} {scale : Scale}

/-- The number that the digits around the point denote, times the factor. -/
def magnitude (n : Numeral) (scale : Scale) : ℚ :=
  (Nat.ofDigitChars 10 n.whole 0 + Nat.ofDigitChars 10 n.fraction 0 / 10 ^ n.fraction.length) *
    scale.factor

/-- The number that is denoted, with its sign. -/
def value (n : Numeral) (scale : Scale) : ℚ :=
  if n.negative then -n.magnitude scale else n.magnitude scale

theorem magnitude_nonneg (n : Numeral) (scale : Scale) : 0 ≤ n.magnitude scale := by
  rw [magnitude, scale.factor_eq]
  positivity

theorem mantissa_eq (n : Numeral) : n.mantissa =
    10 ^ n.fraction.length * Nat.ofDigitChars 10 n.whole 0 + Nat.ofDigitChars 10 n.fraction 0 := by
  rw [mantissa, Nat.ofDigitChars_append, Nat.ofDigitChars_eq_ofDigitChars_zero]

theorem denominator_pos (n : Numeral) (scale : Scale) : 0 < n.denominator scale :=
  Nat.mul_pos (Nat.pow_pos (by decide)) scale.down_pos

/-- The dividend and the divisor of the reader make the magnitude in thousandths. -/
theorem numerator_div_denominator (n : Numeral) (scale : Scale) :
    (n.numerator scale / n.denominator scale : ℚ) = 1000 * n.magnitude scale := by
  have hdown : (scale.down : ℚ) ≠ 0 := by exact_mod_cast scale.down_pos.ne'
  rw [magnitude, scale.factor_eq, numerator, denominator, mantissa_eq, Nat.pow_eq]
  push_cast
  field_simp

/-- A fraction is rounded up by an integer division. -/
private theorem ceil_natCast_div (a : Nat) {b : Nat} (hb : 0 < b) :
    ⌈(a / b : ℚ)⌉ = ((a + (b - 1)) / b : Nat) := by
  have hb' : (0 : ℚ) < b := by exact_mod_cast hb
  have hmod := Nat.div_add_mod (a + (b - 1)) b
  have hlt := Nat.mod_lt (a + (b - 1)) hb
  generalize (a + (b - 1)) / b = up at hmod
  have hlower : b * up < a + b := by omega
  have hupper : a ≤ b * up := by omega
  rw [Int.ceil_eq_iff, lt_div_iff₀ hb', div_le_iff₀ hb']
  push_cast
  have hlower' : (b * up : ℚ) < a + b := by exact_mod_cast hlower
  have hupper' : (a : ℚ) ≤ b * up := by exact_mod_cast hupper
  constructor <;> linarith

/-- No intermediate result is too large for a signed integer of 128 bits. -/
def Fits (n : Numeral) (scale : Scale) : Prop :=
  n.numerator scale + (n.denominator scale - 1) < 2 ^ 127 ∧ n.denominator scale < 2 ^ 127

theorem millis?_eq_some_iff {millis : Int} : n.millis? scale = some millis ↔ n.Fits scale ∧
    millis = if n.negative then -⌈1000 * n.magnitude scale⌉ else ⌈1000 * n.magnitude scale⌉ := by
  have hwide : n.denominator scale ≤ maxWide ∧
      n.numerator scale + (n.denominator scale - 1) ≤ maxWide ↔ n.Fits scale := by
    unfold Fits maxWide
    rw [Nat.pow_eq]
    omega
  rw [← numerator_div_denominator, ceil_natCast_div _ (n.denominator_pos scale)]
  unfold millis?
  dsimp only
  by_cases hfits : n.Fits scale
  · rw [if_pos (hwide.2 hfits), Option.some_inj, and_iff_right hfits, eq_comm]
  · rw [if_neg (mt hwide.1 hfits)]
    exact ⟨nofun, fun h => absurd h.1 hfits⟩

theorem millis?_eq_none_iff : n.millis? scale = none ↔ ¬ n.Fits scale := by
  rw [Option.eq_none_iff_forall_ne_some]
  simp [millis?_eq_some_iff]

end Numeral

/-- The number that a text denotes. -/
def Denotes (text : String) (x : ℚ) : Prop :=
  ∃ (n : Numeral) (scale : Scale), n.Spells text.toList ∧ Scale.Named n.suffix scale ∧
    n.value scale = x

/-- What comes of a text without blank characters around it. -/
inductive Reading (text : String) : Except ParseError Quantity → Prop where
  | empty (h : text = "") : Reading text (.error .empty)
  | invalid (h : text ≠ "") (no : ∀ n : Numeral, ¬ n.Spells text.toList) :
    Reading text (.error (.invalid text))
  | unknownSuffix {n : Numeral} (spells : n.Spells text.toList)
    (no : ∀ scale, ¬ Scale.Named n.suffix scale) :
    Reading text (.error (.unknownSuffix text (String.ofList n.suffix)))
  | outOfRange {n : Numeral} {scale : Scale} (spells : n.Spells text.toList)
    (named : Scale.Named n.suffix scale) (large : ¬ n.Fits scale) :
    Reading text (.error (.outOfRange text))
  | ok {n : Numeral} {scale : Scale} (spells : n.Spells text.toList)
    (named : Scale.Named n.suffix scale) (fits : n.Fits scale) :
    Reading text (.ok ⟨if n.negative then -⌈1000 * n.magnitude scale⌉
      else ⌈1000 * n.magnitude scale⌉, text⟩)

theorem exists_reading (text : String) : ∃ answer, Reading text answer := by
  by_cases hempty : text = ""
  · exact ⟨_, .empty hempty⟩
  by_cases hspells : ∃ n : Numeral, n.Spells text.toList
  · obtain ⟨n, hspells⟩ := hspells
    by_cases hnamed : ∃ scale, Scale.Named n.suffix scale
    · obtain ⟨scale, hnamed⟩ := hnamed
      by_cases hfits : n.Fits scale
      · exact ⟨_, .ok hspells hnamed hfits⟩
      · exact ⟨_, .outOfRange hspells hnamed hfits⟩
    · exact ⟨_, .unknownSuffix hspells (not_exists.1 hnamed)⟩
  · exact ⟨_, .invalid hempty (not_exists.1 hspells)⟩

private theorem ne_empty_of_spells {n : Numeral} {text : String} (h : n.Spells text.toList) :
    text ≠ "" := by
  rintro rfl
  have hwell := (Numeral.spells_iff.1 h).2
  obtain rfl := (Numeral.spells_iff.1 h).1
  revert hwell
  decide

/-- What comes of a text is what the reader answers. -/
theorem Reading.parse_eq {input : String} {answer : Except ParseError Quantity}
    (h : Reading (Text.trim input) answer) : parse input = answer := by
  unfold parse
  cases h with
  | empty hempty => rw [hempty]; rfl
  | invalid hne no =>
    have hbad : ¬ (Numeral.split (Text.trim input).toList).WellFormed := fun hwell =>
      no _ (Numeral.spells_iff.2 ⟨rfl, hwell⟩)
    simp only [hne, if_false, hbad]
  | unknownSuffix hspells no =>
    obtain ⟨rfl, hwell⟩ := Numeral.spells_iff.1 hspells
    have hnone := Option.eq_none_iff_forall_ne_some.2 fun scale h =>
      no scale (Scale.ofSuffix?_eq_some_iff.1 h)
    simp only [ne_empty_of_spells hspells, if_false, hwell, if_true, hnone]
  | outOfRange hspells hnamed hlarge =>
    obtain ⟨rfl, hwell⟩ := Numeral.spells_iff.1 hspells
    simp only [ne_empty_of_spells hspells, if_false, hwell, if_true,
      Scale.ofSuffix?_eq_some_iff.2 hnamed, Numeral.millis?_eq_none_iff.2 hlarge]
  | ok hspells hnamed hfits =>
    obtain ⟨rfl, hwell⟩ := Numeral.spells_iff.1 hspells
    simp only [ne_empty_of_spells hspells, if_false, hwell, if_true,
      Scale.ofSuffix?_eq_some_iff.2 hnamed, Numeral.millis?_eq_some_iff.2 ⟨hfits, rfl⟩]

theorem parse_eq_iff {input : String} {answer : Except ParseError Quantity} :
    parse input = answer ↔ Reading (Text.trim input) answer := by
  refine ⟨?_, Reading.parse_eq⟩
  rintro rfl
  obtain ⟨answer, hanswer⟩ := exists_reading (Text.trim input)
  exact hanswer.parse_eq ▸ hanswer

/-! ### The order of the numbers -/

/-- The integer next to a number that is not nearer to zero. -/
def awayFromZero (x : ℚ) : ℤ := if x < 0 then ⌊x⌋ else ⌈x⌉

theorem awayFromZero_le {x y : ℚ} (hxy : x ≤ y) : awayFromZero x ≤ awayFromZero y := by
  unfold awayFromZero
  split
  · rename_i hx
    split
    · exact Int.floor_mono hxy
    · rename_i hy
      have hfloor : ⌊x⌋ ≤ 0 := Int.floor_nonpos hx.le
      exact hfloor.trans (Int.ceil_nonneg (not_lt.1 hy))
  · rename_i hx
    rw [if_neg (not_lt.2 ((not_lt.1 hx).trans hxy))]
    exact Int.ceil_mono hxy

theorem Numeral.awayFromZero_value (n : Numeral) (scale : Scale) :
    awayFromZero (1000 * n.value scale) =
      if n.negative then -⌈1000 * n.magnitude scale⌉ else ⌈1000 * n.magnitude scale⌉ := by
  have hnonneg := n.magnitude_nonneg scale
  unfold awayFromZero value
  cases n.negative with
  | false =>
    have hpos : ¬ 1000 * n.magnitude scale < 0 := by linarith
    simp [hpos]
  | true =>
    -- With a sign the number is below zero, unless it is zero.
    simp only [if_true]
    split
    · rw [mul_neg, Int.floor_neg]
    · rename_i hneg
      have hzero : n.magnitude scale = 0 := by linarith
      simp [hzero]

theorem millis_of_denotes {input : String} {q : Quantity} {x : ℚ} (h : parse input = .ok q)
    (hx : Denotes (Text.trim input) x) : q.millis = awayFromZero (1000 * x) := by
  obtain ⟨n, scale, hspells, hnamed, rfl⟩ := hx
  rw [n.awayFromZero_value]
  cases parse_eq_iff.1 h with
  | ok hspells' hnamed' =>
    obtain rfl := hspells.unique hspells'
    obtain rfl := hnamed.unique hnamed'
    rfl

/-- What comes of a text with or without blank characters around it: nothing is left, or it does not
have the form of a number with a suffix, or the suffix is not known, or the number is too large to be
computed, or it is rounded up to thousandths, away from zero. So quantities compare as the numbers do
that their texts denote, as far as these differ after rounding. -/
theorem parse_exact (input : String) :
    (∀ answer, parse input = answer ↔ Reading (Text.trim input) answer) ∧
    ∀ other q r x y, parse input = .ok q → parse other = .ok r →
      Denotes (Text.trim input) x → Denotes (Text.trim other) y →
        (x = y → compare q r = .eq) ∧ (compare q r = .lt → x < y) ∧ (compare q r = .gt → y < x) := by
  refine ⟨fun answer => parse_eq_iff, fun other q r x y hq hr hx hy => ?_⟩
  have hcompare : compare q r = compare (awayFromZero (1000 * x)) (awayFromZero (1000 * y)) := by
    rw [← millis_of_denotes hq hx, ← millis_of_denotes hr hy]
    rfl
  have hmono : ∀ {x y : ℚ}, awayFromZero (1000 * x) < awayFromZero (1000 * y) → x < y := by
    intro x y hlt
    by_contra hnot
    exact absurd (awayFromZero_le (by linarith)) (not_le.2 hlt)
  rw [hcompare, compare_eq_iff_eq, compare_lt_iff_lt, compare_gt_iff_gt]
  exact ⟨fun heq => heq ▸ rfl, hmono, hmono⟩

/-- One and a half is the same in thousandths and with a point. -/
theorem parse_exact_halves : ∃ q r, parse " +1500m " = .ok q ∧ parse "1.5" = .ok r ∧
    q = ⟨1500, "+1500m"⟩ ∧ compare q r = .eq := by
  have hspells : (⟨false, ['1', '5', '0', '0'], [], ['m']⟩ : Numeral).Spells "+1500m".toList :=
    Numeral.spells_iff.2 ⟨by decide, by decide⟩
  have hspells' : (⟨false, ['1'], ['5'], []⟩ : Numeral).Spells "1.5".toList :=
    Numeral.spells_iff.2 ⟨by decide, by decide⟩
  have hx : Denotes "+1500m" (3 / 2) := by
    have hwhole : Nat.ofDigitChars 10 ['1', '5', '0', '0'] 0 = 1500 := rfl
    refine ⟨_, .decimal (-3), hspells, .name (by decide), ?_⟩
    norm_num [Numeral.value, Numeral.magnitude, Scale.factor, hwhole]
  have hy : Denotes "1.5" (3 / 2) := by
    have hwhole : Nat.ofDigitChars 10 ['1'] 0 = 1 := rfl
    have hfraction : Nat.ofDigitChars 10 ['5'] 0 = 5 := rfl
    refine ⟨_, .decimal 0, hspells', .name (by decide), ?_⟩
    norm_num [Numeral.value, Numeral.magnitude, Scale.factor, hwhole, hfraction]
  have hq : parse " +1500m " = .ok ⟨1500, "+1500m"⟩ := rfl
  have hr : parse "1.5" = .ok ⟨1500, "1.5"⟩ := rfl
  exact ⟨_, _, hq, hr, rfl, ((parse_exact " +1500m ").2 "1.5" _ _ _ _ hq hr hx hy).1 rfl⟩

end MachineClaims.Quantity
