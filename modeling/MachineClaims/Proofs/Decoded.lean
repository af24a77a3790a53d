import MachineClaims.Manifest
import MachineClaims.Proofs.Amounts

/-!
# Objects that are read from JSON

A property of all that a decoder reads is put together from those of its parts (`Decoder.Yields`,
`FieldReader.Yields`). The amounts of a claim that is read from JSON are those that their texts say
(`Claim.yields_decode`), so every object that is read from JSON can be stored and read back without a
change (`Kind.reread_of_decode`).
-/

namespace MachineClaims

namespace Json.Decoder

variable {α β : Type} {P : α → Prop} {Q : β → Prop}

/-- Whatever a decoder reads has a property. -/
def Yields (d : Decoder α) (P : α → Prop) : Prop := ∀ j a, d j = some a → P a

/-- Whatever is read from fields has a property. -/
def FieldReader.Yields (r : FieldReader α) (P : α → Prop) : Prop :=
  ∀ fields a rest, r fields = some (a, rest) → P a

theorem FieldReader.yields_true (r : FieldReader α) : r.Yields fun _ => True :=
  fun _ _ _ _ => trivial

theorem FieldReader.yields_pure {a : α} (h : P a) : FieldReader.Yields (pure a) P := by
  intro fields a' rest heq
  obtain ⟨rfl, -⟩ := Prod.mk.inj (Option.some.inj heq)
  exact h

theorem FieldReader.Yields.bind {r : FieldReader α} {f : α → FieldReader β} (h : r.Yields P)
    (hf : ∀ a, P a → (f a).Yields Q) : FieldReader.Yields (r >>= f) Q := by
  intro fields b rest heq
  obtain ⟨⟨a, fields'⟩, hr, hb⟩ := Option.bind_eq_some_iff.1 heq
  exact hf a (h fields a fields' hr) fields' b rest hb

theorem Yields.defaulted {d : Decoder α} (h : d.Yields P) (key : String) {default : α}
    (hdefault : P default) : FieldReader.Yields (defaulted key d default) P := by
  intro fields a rest heq
  unfold Decoder.defaulted at heq
  obtain ⟨⟨value, fields'⟩, -, hvalue⟩ := Option.bind_eq_some_iff.1 heq
  cases value with
  | none =>
    obtain ⟨rfl, -⟩ := Prod.mk.inj (Option.some.inj hvalue)
    exact hdefault
  | some j =>
    obtain ⟨a', ha', heq'⟩ := Option.bind_eq_some_iff.1 hvalue
    obtain ⟨rfl, -⟩ := Prod.mk.inj (Option.some.inj heq')
    exact h j a' ha'

theorem FieldReader.Yields.record {r : FieldReader α} (h : r.Yields P) :
    Decoder.Yields (record r) P := by
  intro j a heq
  unfold Decoder.record at heq
  split at heq
  · obtain ⟨⟨a', rest⟩, hr, rfl⟩ := Option.map_eq_some_iff.1 heq
    exact h _ _ _ hr
  · obtain ⟨⟨a', rest⟩, hr, heq'⟩ := Option.bind_eq_some_iff.1 heq
    split at heq'
    · rename_i hpair
      obtain ⟨rfl, -⟩ := Prod.mk.inj hpair
      cases heq'
      exact h _ _ _ hr
    · cases heq'
  · cases heq

theorem FieldReader.Yields.closedRecord {r : FieldReader α} (h : r.Yields P) (keys : List String) :
    Decoder.Yields (closedRecord keys r) P := by
  intro j a heq
  unfold Decoder.closedRecord at heq
  split at heq
  · exact h.record j a heq
  · cases heq

private theorem forall_of_mapM {γ : Type} {f : γ → Option α} {l : List γ} {as : List α}
    (h : l.mapM f = some as) (hf : ∀ c a, f c = some a → P a) : ∀ a ∈ as, P a := by
  induction l generalizing as with
  | nil =>
    obtain rfl := Option.some.inj h
    exact fun _ ha => absurd ha List.not_mem_nil
  | cons c l ih =>
    rw [List.mapM_cons] at h
    obtain ⟨a, ha, hmore⟩ := Option.bind_eq_some_iff.1 h
    obtain ⟨rest, hrest, hpure⟩ := Option.bind_eq_some_iff.1 hmore
    obtain rfl := Option.some.inj hpure
    exact List.forall_mem_cons.2 ⟨hf c a ha, ih hrest⟩

/-- Whatever is read as a list has items with the property. -/
theorem Yields.list {d : Decoder α} (h : d.Yields P) :
    Decoder.Yields (list d) fun l => ∀ a ∈ l, P a := by
  intro j l heq
  unfold Decoder.list at heq
  split at heq
  · exact forall_of_mapM heq h
  · cases heq

/-- Whatever is read as a map has values with the property. -/
theorem Yields.map {d : Decoder α} (h : d.Yields P) :
    Decoder.Yields (map d) fun m => ∃ l, m = NameMap.ofList l ∧ ∀ e ∈ l, P e.2 := by
  intro j m heq
  unfold Decoder.map at heq
  split at heq
  · obtain ⟨l, hl, rfl⟩ := Option.map_eq_some_iff.1 heq
    refine ⟨l, rfl, forall_of_mapM hl fun member e he => ?_⟩
    obtain ⟨a, ha, rfl⟩ := Option.map_eq_some_iff.1 he
    exact h _ a ha
  · cases heq

end Json.Decoder

open Json Json.Decoder

/-- An amount that is read is read again as it is. -/
theorem Quantity.yields_decode : Decoder.Yields Quantity.decode fun q => q.reread = .ok q := by
  intro j q h
  obtain ⟨text, -, hparse⟩ := Option.bind_eq_some_iff.1 h
  cases hq : Quantity.parse text with
  | error e => simp [hq, Except.toOption] at hparse
  | ok q' =>
    obtain rfl : q' = q := by simpa [hq, Except.toOption] using hparse
    exact Quantity.parse_text_of_parse hq

theorem Resources.settled_insertAll {m : Resources} {l : List (String × Quantity)}
    (h : m.Settled) (hl : ∀ e ∈ l, e.2.reread = .ok e.2) : Settled (m.insertAll l) := by
  induction l generalizing m with
  | nil => exact h
  | cons e l ih =>
    rw [List.forall_mem_cons] at hl
    exact ih (settled_insert h hl.1 e.1) hl.2

theorem Resources.yields_decode : Decoder.Yields Resources.decode Settled := by
  intro j m h
  obtain ⟨l, rfl, hl⟩ := Quantity.yields_decode.map j m h
  exact settled_insertAll settled_empty hl

theorem Claim.yields_decode : Decoder.Yields Claim.decode Claim.Settled := by
  have spec : Decoder.Yields decodeSpec fun spec => spec.2.2.Settled :=
    FieldReader.Yields.record <|
      (FieldReader.yields_true _).bind fun _ _ => (FieldReader.yields_true _).bind fun _ _ =>
        (Resources.yields_decode.defaulted _ Resources.settled_empty).bind fun _ h =>
          FieldReader.yields_pure h
  have status : Decoder.Yields decodeStatus fun status =>
      status.2.1.Settled ∧ status.2.2.Settled :=
    FieldReader.Yields.record <|
      (FieldReader.yields_true _).bind fun _ _ =>
        (Resources.yields_decode.defaulted _ Resources.settled_empty).bind fun _ h =>
          (Resources.yields_decode.defaulted _ Resources.settled_empty).bind fun _ h' =>
            FieldReader.yields_pure ⟨h, h'⟩
  exact FieldReader.Yields.record <|
    (FieldReader.yields_true _).bind fun _ _ =>
      (spec.defaulted _ Resources.settled_empty).bind fun _ h =>
        (status.defaulted _ ⟨Resources.settled_empty, Resources.settled_empty⟩).bind fun _ h' =>
          FieldReader.yields_pure ⟨h, h'.1, h'.2⟩

/-- What is read from JSON is read back from a store as it is. -/
theorem Kind.reread_of_decode {k : Kind} {j : Json} {o : k.Object} (h : k.decode j = some o) :
    k.reread o = .ok o := by
  cases k with
  | group => rfl
  | machine => rfl
  | claim => exact Claim.reread_of_settled (Claim.yields_decode j o h)
  | capacityClass => rfl

/-- The claims of a manifest that is read have amounts that are read again as they are. -/
theorem Manifest.yields_decode : Decoder.Yields Manifest.decode fun m => ∀ c ∈ m.claims, c.Settled :=
  FieldReader.Yields.closedRecord
    ((FieldReader.yields_true _).bind fun _ _ => (FieldReader.yields_true _).bind fun _ _ =>
      (FieldReader.yields_true _).bind fun _ _ =>
        (Claim.yields_decode.list.defaulted _ fun _ h => absurd h List.not_mem_nil).bind fun _ h =>
          FieldReader.yields_pure h) _

end MachineClaims
