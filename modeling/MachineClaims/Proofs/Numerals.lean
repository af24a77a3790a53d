import MachineClaims.Proofs.Literals
import MachineClaims.Quantity

/-!
# Written numbers and their suffixes

The grammar of a quantity, apart from how it is read: a sign if there is one, digits around at most one
point, and a suffix (`Quantity.Numeral.Spells`). A text has at most one such reading, and it is the
division of the text that the reader makes, just if the reader finds it well formed
(`Quantity.Numeral.spells_iff`). A suffix is the name of a factor or a written exponent
(`Quantity.Scale.Named`).
-/

namespace MachineClaims.Quantity

/-- A sign that may be left out, and whether it makes a number negative. -/
inductive Sign : List Char → Bool → Prop where
  | none : Sign [] false
  | plus : Sign ['+'] false
  | minus : Sign ['-'] true

namespace Numeral

/-- The characters are a sign, digits around at most one point, and a suffix that goes on with neither
a digit nor a point. -/
structure PartsOf (n : Numeral) (cs : List Char) : Prop where
  parts : ∃ sign point, Sign sign n.negative ∧ (point = ['.'] ∨ point = [] ∧ n.fraction = []) ∧
    cs = sign ++ (n.whole ++ (point ++ (n.fraction ++ n.suffix)))
  whole : ∀ c ∈ n.whole, c.isDigit = true
  fraction : ∀ c ∈ n.fraction, c.isDigit = true
  digits : 1 ≤ n.whole.length + n.fraction.length
  suffix : ∀ c, n.suffix.head? = some c → c.isDigit = false ∧ c ≠ '.'

/-- The characters write a number of no more than 24 digits, with a suffix. -/
structure Spells (n : Numeral) (cs : List Char) : Prop extends n.PartsOf cs where
  short : n.whole.length + n.fraction.length ≤ 24

theorem isNumberChar_iff {c : Char} : isNumberChar c = true ↔ c.isDigit = true ∨ c = '.' := by
  simp [isNumberChar]

theorem ne_point_of_isDigit {c : Char} (h : c.isDigit = true) : c ≠ '.' := by
  rintro rfl
  cases h

/-- The division of what follows a sign. -/
private def splitBody (negative : Bool) (body : List Char) : Numeral :=
  let number := body.takeWhile isNumberChar
  { negative
    whole := number.takeWhile (· != '.')
    fraction := (number.dropWhile (· != '.')).drop 1
    suffix := body.dropWhile isNumberChar }

/-- Every text is a sign and a body, and the body is what is divided further. -/
private theorem exists_sign (cs : List Char) : ∃ sign negative body, Sign sign negative ∧
    cs = sign ++ body ∧ split cs = splitBody negative body := by
  unfold split
  split
  rename_i negative body hbody
  split at hbody <;> cases hbody
  · exact ⟨_, _, _, .minus, rfl, rfl⟩
  · exact ⟨_, _, _, .plus, rfl, rfl⟩
  · exact ⟨_, _, _, .none, rfl, rfl⟩

/-- A sign is cut off from a body that begins with a digit or a point. -/
private theorem split_sign {sign body : List Char} {negative : Bool} {c : Char}
    (hsign : Sign sign negative) (hbody : body.head? = some c) (hc : isNumberChar c = true) :
    split (sign ++ body) = splitBody negative body := by
  obtain ⟨cs, rfl⟩ := List.head?_eq_some_iff.1 hbody
  cases hsign with
  | plus => rfl
  | minus => rfl
  | none =>
    unfold split
    split
    rename_i negative body hmatch
    split at hmatch
    · rename_i hminus
      cases hminus
      cases hc
    · rename_i hplus
      cases hplus
      cases hc
    · cases hmatch
      rfl

/-- What a test cuts off is all up to the first character that fails it. -/
private theorem span_append {p : Char → Bool} {front back : List Char} (hfront : ∀ c ∈ front, p c = true)
    (hback : ∀ c, back.head? = some c → p c = false) :
    (front ++ back).takeWhile p = front ∧ (front ++ back).dropWhile p = back := by
  rw [List.takeWhile_append_of_pos hfront, List.dropWhile_append_of_pos hfront]
  cases back with
  | nil => simp
  | cons c back => simp [hback c rfl]

/-- The parts of a number are found again in it. -/
private theorem splitBody_append {negative : Bool} {whole point fraction suffix : List Char}
    (hwhole : ∀ c ∈ whole, c.isDigit = true) (hfraction : ∀ c ∈ fraction, c.isDigit = true)
    (hpoint : point = ['.'] ∨ point = [] ∧ fraction = [])
    (hsuffix : ∀ c, suffix.head? = some c → c.isDigit = false ∧ c ≠ '.') :
    splitBody negative (whole ++ (point ++ (fraction ++ suffix))) =
      ⟨negative, whole, fraction, suffix⟩ := by
  have hnumber : ∀ c ∈ whole ++ (point ++ fraction), isNumberChar c = true := by
    intro c hc
    rw [isNumberChar_iff]
    rcases List.mem_append.1 hc with hc | hc
    · exact .inl (hwhole c hc)
    rcases List.mem_append.1 hc with hc | hc
    · rcases hpoint with rfl | ⟨rfl, -⟩
      · exact .inr (List.mem_singleton.1 hc)
      · cases hc
    · exact .inl (hfraction c hc)
  have hrest : ∀ c, suffix.head? = some c → isNumberChar c = false := by
    intro c hc
    obtain ⟨hdigit, hne⟩ := hsuffix c hc
    simp [isNumberChar, hdigit, hne]
  obtain ⟨htake, hdrop⟩ := span_append hnumber hrest
  have hplain : ∀ c ∈ whole, (c != '.') = true := fun c hc => by
    simp [ne_point_of_isDigit (hwhole c hc)]
  have hstop : ∀ c, (point ++ fraction).head? = some c → (c != '.') = false := by
    rintro c hc
    rcases hpoint with rfl | ⟨rfl, rfl⟩
    · obtain rfl : '.' = c := by simpa using hc
      rfl
    · cases hc
  obtain ⟨hbefore, hafter⟩ := span_append hplain hstop
  simp only [List.append_assoc] at htake hdrop
  simp only [splitBody, htake, hdrop, hbefore, hafter]
  rcases hpoint with rfl | ⟨rfl, rfl⟩ <;> simp

private theorem not_of_head?_dropWhile {p : Char → Bool} {cs : List Char} {c : Char}
    (h : (cs.dropWhile p).head? = some c) : p c = false := by
  have hhead := List.head?_dropWhile_not p cs
  simpa [h] using hhead

/-- A body is put together again from its division. -/
private theorem exists_point (negative : Bool) (body : List Char) : ∃ point,
    (point = ['.'] ∨ point = [] ∧ (splitBody negative body).fraction = []) ∧
    body = (splitBody negative body).whole ++
      (point ++ ((splitBody negative body).fraction ++ (splitBody negative body).suffix)) := by
  have hbody : body.takeWhile isNumberChar ++ body.dropWhile isNumberChar = body :=
    List.takeWhile_append_dropWhile
  have hnumber := List.takeWhile_append_dropWhile (p := fun c => c != '.')
    (l := body.takeWhile isNumberChar)
  simp only [splitBody]
  cases hrest : (body.takeWhile isNumberChar).dropWhile (· != '.') with
  | nil =>
    refine ⟨[], .inr ⟨rfl, rfl⟩, ?_⟩
    rw [hrest, List.append_nil] at hnumber
    simp [hnumber, hbody]
  | cons c rest =>
    obtain rfl : c = '.' := by
      have hpoint := not_of_head?_dropWhile (p := fun c => c != '.') (c := c) (by rw [hrest]; rfl)
      simpa using hpoint
    refine ⟨['.'], .inl rfl, ?_⟩
    rw [hrest] at hnumber
    calc body = _ := hbody.symm
      _ = (_ ++ '.' :: rest) ++ _ := by rw [hnumber]
      _ = _ := by simp

theorem PartsOf.split_eq {n : Numeral} {cs : List Char} (h : n.PartsOf cs) : split cs = n := by
  obtain ⟨sign, point, hsign, hpoint, rfl⟩ := h.parts
  -- The body must not begin with a sign: it begins with a digit, or with the point before one.
  obtain ⟨c, hhead, hc⟩ : ∃ c, (n.whole ++ (point ++ (n.fraction ++ n.suffix))).head? = some c ∧
      isNumberChar c = true := by
    cases hwhole : n.whole with
    | cons c whole =>
      have hdigit : c.isDigit = true := h.whole c (hwhole ▸ List.mem_cons_self)
      exact ⟨c, rfl, isNumberChar_iff.2 (.inl hdigit)⟩
    | nil =>
      rcases hpoint with rfl | ⟨-, hfraction⟩
      · exact ⟨'.', rfl, rfl⟩
      · exact absurd h.digits (by simp [hwhole, hfraction])
  rw [split_sign hsign hhead hc, splitBody_append h.whole h.fraction hpoint h.suffix]

theorem PartsOf.wellFormed_iff {n : Numeral} {cs : List Char} (h : n.PartsOf cs) :
    n.WellFormed ↔ n.whole.length + n.fraction.length ≤ 24 := by
  refine ⟨fun hwell => hwell.2.2, fun hshort => ⟨?_, ?_, hshort⟩⟩
  · have hdigits := h.digits
    rw [← List.length_pos_iff, ← List.length_pos_iff]
    omega
  · exact fun hpoint => ne_point_of_isDigit (h.fraction '.' hpoint) rfl

/-- A text is made of the parts into which it is divided, if these are well formed. -/
private theorem partsOf_split {cs : List Char} (h : (split cs).WellFormed) :
    (split cs).PartsOf cs := by
  obtain ⟨hdigits, hpoint, -⟩ := h
  obtain ⟨sign, negative, body, hsign, hcs, hsplit⟩ := exists_sign cs
  rw [hsplit] at hdigits hpoint ⊢
  obtain ⟨point, hparts, hbody⟩ := exists_point negative body
  have hnumber : ∀ c ∈ body.takeWhile isNumberChar, c.isDigit = true ∨ c = '.' := fun c hc =>
    isNumberChar_iff.1 (List.all_eq_true.1 List.all_takeWhile c hc)
  refine ⟨⟨sign, point, hsign, hparts, ?_⟩, fun c hc => ?_, fun c hc => ?_, ?_, fun c hc => ?_⟩
  · rw [hcs, ← hbody]
  · have hplain : (c != '.') = true := List.all_eq_true.1 List.all_takeWhile c hc
    exact (hnumber c (List.takeWhile_subset _ hc)).resolve_right (by simpa using hplain)
  · refine (hnumber c (List.dropWhile_subset _ (List.mem_of_mem_drop hc))).resolve_right ?_
    rintro rfl
    exact hpoint hc
  · rw [← List.length_pos_iff, ← List.length_pos_iff] at hdigits
    omega
  · have hc' := not_of_head?_dropWhile hc
    simpa [isNumberChar] using hc'

/-- What a text spells is its division, if that is well formed. -/
theorem spells_iff {n : Numeral} {cs : List Char} : n.Spells cs ↔ split cs = n ∧ n.WellFormed := by
  constructor
  · intro h
    exact ⟨h.split_eq, h.wellFormed_iff.2 h.short⟩
  · rintro ⟨rfl, hwell⟩
    exact ⟨partsOf_split hwell, hwell.2.2⟩

theorem Spells.unique {m n : Numeral} {cs : List Char} (hm : m.Spells cs) (hn : n.Spells cs) :
    m = n := (spells_iff.1 hm).1.symm.trans (spells_iff.1 hn).1

end Numeral

namespace Scale

/-- The names of factors. -/
def names : List (String × Scale) :=
  [("", .decimal 0), ("n", .decimal (-9)), ("u", .decimal (-6)), ("m", .decimal (-3)),
    ("k", .decimal 3), ("M", .decimal 6), ("G", .decimal 9), ("T", .decimal 12), ("P", .decimal 15),
    ("E", .decimal 18), ("Ki", .binary 10), ("Mi", .binary 20), ("Gi", .binary 30),
    ("Ti", .binary 40), ("Pi", .binary 50), ("Ei", .binary 60)]

/-- A suffix is the name of a factor, or it writes out a power of ten. -/
inductive Named : List Char → Scale → Prop where
  | name {cs : List Char} {scale : Scale} (h : (String.ofList cs, scale) ∈ names) : Named cs scale
  | exponent {mark : Char} {cs : List Char} {e : Int} (h : mark = 'e' ∨ mark = 'E')
    (writes : Text.Writes cs e) (small : e.natAbs ≤ 18) : Named (mark :: cs) (.decimal e)

theorem exponent?_eq_some_iff {cs : List Char} {e : Int} :
    exponent? cs = some e ↔ Text.Writes cs e ∧ e.natAbs ≤ 18 := by
  have hhalf : ((2 ^ (32 - 1) : Nat) : Int) = 2147483648 := by decide
  rw [exponent?, Option.filter_eq_some_iff, Text.signedBits?_eq_some_iff, hhalf, decide_eq_true_iff,
    maxExponent]
  constructor
  · rintro ⟨⟨hwrites, -⟩, hsmall⟩
    exact ⟨hwrites, hsmall⟩
  · rintro ⟨hwrites, hsmall⟩
    exact ⟨⟨hwrites, by omega, by omega⟩, hsmall⟩

/-- No exponent makes an `E` the name of a factor. -/
private theorem ofSuffix?_exponent {mark : Char} {cs : List Char} {e : Int}
    (hmark : mark = 'e' ∨ mark = 'E') (hwrites : Text.Writes cs e) :
    ofSuffix? (mark :: cs) = (exponent? cs).map .decimal := by
  rcases hmark with rfl | rfl
  · rfl
  · have hnil : cs ≠ [] := by
      rintro rfl
      cases Text.signed?_eq_some_iff.2 hwrites
    have hbinary : cs ≠ ['i'] := by
      rintro rfl
      cases Text.signed?_eq_some_iff.2 hwrites
    rw [ofSuffix?]
    · exact hnil
    · exact hbinary

theorem ofSuffix?_eq_some_iff {cs : List Char} {scale : Scale} :
    ofSuffix? cs = some scale ↔ Named cs scale := by
  constructor
  · intro h
    unfold ofSuffix? at h
    split at h
    -- A written exponent, and then no suffix at all; in the other cases a name is matched.
    case h_17 | h_18 =>
      obtain ⟨e, he, rfl⟩ := Option.map_eq_some_iff.1 h
      obtain ⟨hwrites, hsmall⟩ := exponent?_eq_some_iff.1 he
      exact .exponent (by decide) hwrites hsmall
    case h_19 => cases h
    all_goals exact Option.some.inj h ▸ .name (by decide)
  · intro h
    cases h with
    | name h =>
      have hall : ∀ entry ∈ names, ofSuffix? entry.1.toList = some entry.2 := by decide
      simpa using hall _ h
    | exponent hmark hwrites hsmall =>
      rw [ofSuffix?_exponent hmark hwrites, exponent?_eq_some_iff.2 ⟨hwrites, hsmall⟩]
      rfl

theorem Named.unique {cs : List Char} {s t : Scale} (hs : Named cs s) (ht : Named cs t) : s = t :=
  Option.some.inj ((ofSuffix?_eq_some_iff.2 hs).symm.trans (ofSuffix?_eq_some_iff.2 ht))

end Scale
end MachineClaims.Quantity
