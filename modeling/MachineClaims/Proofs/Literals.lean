import MachineClaims.ValueSet
import Mathlib.Algebra.Order.Ring.Int

/-!
# Written integers

What it is to write an integer, apart from how it is read: digits, and before them a sign if there is
one (`Text.Writes`). The readers accept just what writes an integer with a place among those of their
number of bits (`Text.signedBits?_eq_some_iff`), and the integer of a value is the one that it writes
when the blank characters around it are left out (`ValueSet.integer?_eq_some_iff`).
-/

namespace MachineClaims

namespace Text

/-- Nothing but digits, and at least one. -/
def IsDigits (cs : List Char) : Prop := cs ≠ [] ∧ ∀ c ∈ cs, c.isDigit = true

/-- The characters write an integer in decimal. -/
inductive Writes : List Char → Int → Prop where
  | plain {cs : List Char} (h : IsDigits cs) : Writes cs (Nat.ofDigitChars 10 cs 0)
  | plus {cs : List Char} (h : IsDigits cs) : Writes ('+' :: cs) (Nat.ofDigitChars 10 cs 0)
  | minus {cs : List Char} (h : IsDigits cs) : Writes ('-' :: cs) (-Nat.ofDigitChars 10 cs 0)

theorem digits?_eq_some_iff {cs : List Char} {n : Nat} :
    digits? cs = some n ↔ IsDigits cs ∧ Nat.ofDigitChars 10 cs 0 = n := by
  unfold digits? IsDigits
  have hall : (cs ≠ [] ∧ cs.all Char.isDigit = true) ↔ cs ≠ [] ∧ ∀ c ∈ cs, c.isDigit = true := by
    rw [List.all_eq_true]
  by_cases h : cs ≠ [] ∧ cs.all Char.isDigit = true
  · rw [if_pos h, Option.some_inj, and_iff_right (hall.1 h)]
  · rw [if_neg h]
    exact ⟨nofun, fun hdigits => absurd (hall.2 hdigits.1) h⟩

theorem IsDigits.not_cons {c : Char} {cs : List Char} (hc : c.isDigit = false) :
    ¬ IsDigits (c :: cs) := by
  intro h
  have hdigit := h.2 c List.mem_cons_self
  rw [hc] at hdigit
  cases hdigit

theorem signed?_eq_some_iff {cs : List Char} {n : Int} : signed? cs = some n ↔ Writes cs n := by
  have hplus : ∀ cs, ¬ IsDigits ('+' :: cs) := fun _ => IsDigits.not_cons (by decide)
  have hminus : ∀ cs, ¬ IsDigits ('-' :: cs) := fun _ => IsDigits.not_cons (by decide)
  constructor
  · intro h
    unfold signed? at h
    split at h
    · obtain ⟨m, hm, rfl⟩ := Option.map_eq_some_iff.1 h
      obtain ⟨hdigits, rfl⟩ := digits?_eq_some_iff.1 hm
      exact .plus hdigits
    · obtain ⟨m, hm, rfl⟩ := Option.map_eq_some_iff.1 h
      obtain ⟨hdigits, rfl⟩ := digits?_eq_some_iff.1 hm
      exact .minus hdigits
    · obtain ⟨m, hm, rfl⟩ := Option.map_eq_some_iff.1 h
      obtain ⟨hdigits, rfl⟩ := digits?_eq_some_iff.1 hm
      exact .plain hdigits
  · intro h
    cases h with
    | plus h => simp [signed?, digits?_eq_some_iff.2 ⟨h, rfl⟩]
    | minus h => simp [signed?, digits?_eq_some_iff.2 ⟨h, rfl⟩]
    | plain h =>
      unfold signed?
      split
      · exact absurd h (hplus _)
      · exact absurd h (hminus _)
      · simp [digits?_eq_some_iff.2 ⟨h, rfl⟩]

theorem signedBits?_eq_some_iff {bits : Nat} {cs : List Char} {n : Int} :
    signedBits? bits cs = some n ↔
      Writes cs n ∧ -(2 ^ (bits - 1) : Nat) ≤ n ∧ n < (2 ^ (bits - 1) : Nat) := by
  unfold signedBits?
  rw [Option.filter_eq_some_iff, signed?_eq_some_iff]
  simp [fitsSigned]

/-- A text has at most one sign, so it writes at most one integer. -/
theorem Writes.unique {cs : List Char} {m n : Int} (hm : Writes cs m) (hn : Writes cs n) : m = n :=
  Option.some.inj ((signed?_eq_some_iff.2 hm).symm.trans (signed?_eq_some_iff.2 hn))

/-- A value writes an integer of 64 bits, blank characters around it aside. -/
def WritesInteger (value : String) (n : Int) : Prop :=
  Writes (trimChars value.toList) n ∧ -2 ^ 63 ≤ n ∧ n < 2 ^ 63

theorem WritesInteger.unique {value : String} {m n : Int} (hm : WritesInteger value m)
    (hn : WritesInteger value n) : m = n := hm.1.unique hn.1

end Text

theorem ValueSet.integer?_eq_some_iff {value : String} {n : Int} :
    integer? value = some n ↔ Text.WritesInteger value n := by
  unfold integer? Text.WritesInteger
  rw [Text.signedBits?_eq_some_iff]
  have hhalf : ((2 ^ (64 - 1) : Nat) : Int) = 2 ^ 63 := by decide
  rw [hhalf]

end MachineClaims
