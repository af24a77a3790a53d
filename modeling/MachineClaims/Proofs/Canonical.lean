import MachineClaims.MachineType
import MachineClaims.Proofs.Magnitudes

/-!
# Whether the text of an amount reads back

The text of a computed amount shows an integer of any length (`Quantity.shown`), and a reader takes no
more than 24 digits. So a computed amount reads back just as long as its text stays within that
(`Quantity.parse_text_ofMillis`), while an amount that was read always does. The main statement is about
all amounts that can be had by reading and computing (`Quantity.reads_back_iff`).
-/

namespace MachineClaims

namespace Text

theorem trimChars_of_forall {cs : List Char} (h : ∀ c ∈ cs, isBlank c = false) :
    trimChars cs = cs := by
  have hkeep : ∀ l : List Char, (∀ c ∈ l, isBlank c = false) → l.dropWhile isBlank = l := by
    intro l hl
    cases l with
    | nil => rfl
    | cons c l => rw [List.dropWhile_cons_of_neg (by simp [hl c])]
  rw [trimChars, hkeep cs h, trimRight, hkeep cs.reverse (by simpa using h), List.reverse_reverse]

theorem isBlank_of_isDigit {c : Char} (h : c.isDigit = true) : isBlank c = false := by
  obtain ⟨hlower, hupper⟩ := Char.isDigit_iff_toNat.1 h
  have hzero : '0'.toNat = 48 := rfl
  have hnine : '9'.toNat = 57 := rfl
  simp only [isBlank, Bool.or_eq_false_iff, Bool.and_eq_false_iff, decide_eq_false_iff_not,
    beq_eq_false_iff_ne]
  omega

theorem toList_decimal (n : Int) : (decimal n).toList =
    (if n < 0 then ['-'] else []) ++ Nat.toDigits 10 n.natAbs := by
  unfold decimal
  split <;> simp [Nat.toList_repr]

end Text

namespace Quantity

/-- The integer that the text of a computed amount shows. -/
def shown (millis : Int) : Int := if millis % 1000 = 0 then millis / 1000 else millis

/-- The factor that the text of a computed amount names. -/
def unit (millis : Int) : Scale := if millis % 1000 = 0 then .decimal 0 else .decimal (-3)

/-- The parts of the text of a computed amount. -/
def canonical (millis : Int) : Numeral where
  negative := decide (shown millis < 0)
  whole := Nat.toDigits 10 (shown millis).natAbs
  fraction := []
  suffix := if millis % 1000 = 0 then [] else ['m']

theorem toList_text_ofMillis (m : Int) : (ofMillis m).text.toList =
    (if shown m < 0 then ['-'] else []) ++ ((canonical m).whole ++ (canonical m).suffix) := by
  unfold ofMillis canonical shown
  split <;> simp [Text.toList_decimal]

theorem isDigit_of_mem_canonical {m : Int} {c : Char} (h : c ∈ (canonical m).whole) :
    c.isDigit = true :=
  Nat.isDigit_of_mem_toDigits (by decide) (by decide) h

theorem eq_of_mem_suffix_canonical {m : Int} {c : Char} (h : c ∈ (canonical m).suffix) : c = 'm' := by
  unfold canonical at h
  dsimp only at h
  split at h
  · cases h
  · exact List.mem_singleton.1 h

theorem partsOf_canonical (m : Int) : (canonical m).PartsOf (ofMillis m).text.toList := by
  refine ⟨⟨if shown m < 0 then ['-'] else [], [], ?_, .inr ⟨rfl, rfl⟩, toList_text_ofMillis m⟩,
    fun c => isDigit_of_mem_canonical, nofun, ?_, fun c hc => ?_⟩
  · by_cases hneg : shown m < 0
    · simpa [canonical, hneg] using Sign.minus
    · simpa [canonical, hneg] using Sign.none
  · exact Nat.le_add_right_of_le Nat.length_toDigits_pos
  · obtain rfl := eq_of_mem_suffix_canonical (List.mem_of_head? hc)
    decide

theorem trim_text_ofMillis (m : Int) : Text.trim (ofMillis m).text = (ofMillis m).text := by
  suffices h : ∀ c ∈ (ofMillis m).text.toList, Text.isBlank c = false by
    rw [Text.trim, Text.trimChars_of_forall h, String.ofList_toList]
  rw [toList_text_ofMillis]
  intro c hc
  rcases List.mem_append.1 hc with hc | hc
  · split at hc
    · obtain rfl := List.mem_singleton.1 hc
      decide
    · cases hc
  rcases List.mem_append.1 hc with hc | hc
  · exact Text.isBlank_of_isDigit (isDigit_of_mem_canonical hc)
  · obtain rfl := eq_of_mem_suffix_canonical hc
    decide

theorem named_canonical (m : Int) : Scale.Named (canonical m).suffix (unit m) := by
  unfold canonical unit
  dsimp only
  split <;> exact .name (by decide)

theorem ofDigitChars_canonical (m : Int) :
    Nat.ofDigitChars 10 (canonical m).whole 0 = (shown m).natAbs := Nat.ofDigitChars_ten_toDigits

/-- The text of a computed amount denotes the amount. -/
theorem magnitude_canonical (m : Int) :
    1000 * (canonical m).magnitude (unit m) = (m.natAbs : ℚ) := by
  have hfraction : (canonical m).fraction = [] := rfl
  rw [Numeral.magnitude, ofDigitChars_canonical, hfraction]
  unfold shown unit
  split
  · rename_i hunits
    have hnat : m.natAbs = 1000 * (m / 1000).natAbs := by omega
    rw [hnat]
    simp [Scale.factor]
  · simp [Scale.factor]
    ring

theorem fits_canonical {m : Int} (h : (shown m).natAbs < 10 ^ 24) : (canonical m).Fits (unit m) := by
  have hmantissa : (canonical m).mantissa = (shown m).natAbs := by
    have hdigits : (canonical m).whole ++ (canonical m).fraction = (canonical m).whole :=
      List.append_nil _
    rw [Numeral.mantissa, hdigits, ofDigitChars_canonical]
  have hup : (unit m).up = 1 := by unfold unit; split <;> rfl
  have hdown : (unit m).down ≤ 1000 := by unfold unit; split <;> decide
  have hdenominator : (canonical m).denominator (unit m) = (unit m).down := Nat.one_mul _
  rw [Numeral.Fits, Numeral.numerator, hmantissa, hup, hdenominator]
  omega

/-- A computed amount reads back from its text as long as that has no more digits than are read. -/
theorem parse_text_ofMillis (m : Int) : parse (ofMillis m).text =
    if (shown m).natAbs < 10 ^ 24 then .ok (ofMillis m) else .error (.invalid (ofMillis m).text) := by
  have hparts := partsOf_canonical m
  have hshort : (canonical m).whole.length + (canonical m).fraction.length ≤ 24 ↔
      (shown m).natAbs < 10 ^ 24 := Nat.length_toDigits_le_iff (by decide) (by decide)
  rw [parse_eq_iff, trim_text_ofMillis]
  split
  · rename_i h
    have hreading := Reading.ok ⟨hparts, hshort.2 h⟩ (named_canonical m) (fits_canonical h)
    have hmillis : m = if (canonical m).negative then -⌈(m.natAbs : ℚ)⌉ else ⌈(m.natAbs : ℚ)⌉ := by
      have hsign : shown m < 0 ↔ m < 0 := by unfold shown; split <;> omega
      simp only [canonical, decide_eq_true_eq, hsign, Int.ceil_natCast]
      split <;> omega
    rw [magnitude_canonical, ← hmillis] at hreading
    exact hreading
  · rename_i h
    refine .invalid (fun hempty => ?_) fun n hspells => ?_
    · obtain ⟨sign, point, -, -, htext⟩ := hparts.parts
      rw [hempty] at htext
      have hdigits := hparts.digits
      simp_all
    · obtain rfl : canonical m = n := hparts.split_eq.symm.trans hspells.split_eq
      exact h (hshort.1 hspells.short)

/-! ### Reading and computing -/

/-- The amounts that can be had by reading and computing, where no sum or difference is too large for a
signed integer of 128 bits. -/
inductive Obtainable : Quantity → Prop where
  | read {input : String} {q : Quantity} (h : parse input = .ok q) : Obtainable q
  | units {n : Int} (fits : Text.fitsSigned 64 n = true) : Obtainable (ofUnits n)
  | millis {m : Int} (fits : Text.fitsSigned 128 m = true) : Obtainable (ofMillis m)
  | zero : Obtainable zero
  | minus {a b : Quantity} (ha : Obtainable a) (hb : Obtainable b)
    (fits : Text.fitsSigned 128 (a.millis - b.millis) = true) : Obtainable (a.minus b)
  | total {o : Overhead} {resource : String} {q : Quantity}
    (listed : ∀ l ∈ [o.kubeReserved, o.systemReserved, o.evictionThreshold],
      ∀ resource q, l.get? resource = some q → Obtainable q)
    (fits : ∀ sum ∈ [Overhead.amount o.kubeReserved resource + Overhead.amount o.systemReserved resource,
      Overhead.amount o.kubeReserved resource + Overhead.amount o.systemReserved resource +
        Overhead.amount o.evictionThreshold resource], Text.fitsSigned 128 sum = true)
    (h : o.total.get? resource = some q) : Obtainable q

/-- What is not read is computed, and then its text is that of its value. -/
theorem Obtainable.read_or_computed {q : Quantity} (h : Obtainable q) :
    (∃ input, parse input = .ok q) ∨ q = ofMillis q.millis := by
  induction h with
  | read h => exact .inl ⟨_, h⟩
  | units => exact .inr rfl
  | millis => exact .inr rfl
  | zero => exact .inr rfl
  | minus _ _ _ ih =>
    -- What zero is taken from stays as it is, with its text.
    unfold Quantity.minus
    split
    · exact ih
    · exact .inr rfl
  | total _ _ h =>
    unfold Overhead.total at h
    rw [NameMap.get?_mapValues] at h
    obtain ⟨_, _, rfl⟩ := Option.map_eq_some_iff.1 h
    exact .inr rfl

/-- The text is not that of a computed amount, or it shows no more digits than are read. -/
def Legible (q : Quantity) : Prop :=
  q.text = (ofMillis q.millis).text → (shown q.millis).natAbs < 10 ^ 24

/-- An amount that was read or computed reads back from its text unless the text is that of a computed
amount and shows an integer of more than 24 digits, which is no quantity then. -/
theorem reads_back_iff {q : Quantity} (h : Obtainable q) :
    ((∃ r, parse q.text = .ok r ∧ r.millis = q.millis) ↔ q.Legible) ∧
    (q.Legible → parse q.text = .ok q) ∧
    (¬ q.Legible → parse q.text = .error (.invalid q.text)) := by
  have hmain : (q.Legible ∧ parse q.text = .ok q) ∨
      ¬ q.Legible ∧ parse q.text = .error (.invalid q.text) := by
    rcases h.read_or_computed with ⟨input, hread⟩ | hcomputed
    · have hback := parse_text_of_parse hread
      refine .inl ⟨fun htext => ?_, hback⟩
      have hshort := parse_text_ofMillis q.millis
      rw [← htext, hback] at hshort
      split at hshort
      · assumption
      · cases hshort
    · have hback := parse_text_ofMillis q.millis
      have htext : q.text = (ofMillis q.millis).text := congrArg Quantity.text hcomputed
      rw [← htext, ← hcomputed] at hback
      by_cases hshort : (shown q.millis).natAbs < 10 ^ 24
      · rw [if_pos hshort] at hback
        exact .inl ⟨fun _ => hshort, hback⟩
      · rw [if_neg hshort] at hback
        exact .inr ⟨fun hlegible => hshort (hlegible htext), hback⟩
  rcases hmain with ⟨hlegible, hback⟩ | ⟨hlong, hfails⟩
  · exact ⟨⟨fun _ => hlegible, fun _ => ⟨q, hback, rfl⟩⟩, fun _ => hback, absurd hlegible⟩
  · refine ⟨⟨?_, fun h => absurd h hlong⟩, fun h => absurd h hlong, fun _ => hfails⟩
    rintro ⟨r, hr, -⟩
    cases hfails.symm.trans hr

/-- Half a unit less than one and a half Gi reads back, though no text was read for it. -/
theorem reads_back_iff_difference : ∃ a b, parse "1.5Gi" = .ok a ∧ parse "500m" = .ok b ∧
    (a.minus b).millis = 1610612735500 ∧ parse (a.minus b).text = .ok (a.minus b) := by
  obtain ⟨a, ha, hamillis⟩ : ∃ a, parse "1.5Gi" = .ok a ∧ a.millis = 1610612736000 := ⟨_, rfl, rfl⟩
  obtain ⟨b, hb, hbmillis⟩ : ∃ b, parse "500m" = .ok b ∧ b.millis = 500 := ⟨_, rfl, rfl⟩
  have hmillis : (a.minus b).millis = 1610612735500 := by simp [minus, hamillis, hbmillis]
  have hobtainable : Obtainable (a.minus b) :=
    .minus (.read ha) (.read hb) (by rw [hamillis, hbmillis]; decide)
  have hlegible : (a.minus b).Legible := fun _ => by rw [hmillis]; decide
  exact ⟨a, b, ha, hb, hmillis, (reads_back_iff hobtainable).2.1 hlegible⟩

/-- The difference of two amounts that were read is worth as much as one of them, and yet its text is
no quantity: it shows 25 digits. -/
theorem difference_unreadable : ∃ a b, parse "2000000E" = .ok a ∧ parse "1000000E" = .ok b ∧
    Obtainable (a.minus b) ∧ (a.minus b).millis = b.millis ∧
    parse (a.minus b).text = .error (.invalid (a.minus b).text) := by
  obtain ⟨a, ha, hamillis⟩ : ∃ a, parse "2000000E" = .ok a ∧ a.millis = 2 * 10 ^ 27 := ⟨_, rfl, rfl⟩
  obtain ⟨b, hb, hbmillis⟩ : ∃ b, parse "1000000E" = .ok b ∧ b.millis = 10 ^ 27 := ⟨_, rfl, rfl⟩
  have hminus : a.minus b = ofMillis (10 ^ 27) := by simp [minus, hamillis, hbmillis]
  have hobtainable : Obtainable (a.minus b) :=
    .minus (.read ha) (.read hb) (by rw [hamillis, hbmillis]; decide)
  refine ⟨a, b, ha, hb, hobtainable, by rw [hminus, hbmillis, millis_ofMillis], ?_⟩
  rw [hminus, parse_text_ofMillis, if_neg (by decide)]

end Quantity
end MachineClaims
