/-!
# Blank characters and trimming

The characters with the Unicode property White_Space, and the removal of such characters at both
ends of a text. A trimmed text begins with none (`trim_head`) and trimming twice changes nothing
(`trim_trim`).
-/

namespace MachineClaims.Text

/-- The characters with the property White_Space. -/
def isBlank (c : Char) : Bool :=
  let n := c.toNat
  (0x9 ≤ n && n ≤ 0xD) || n == 0x20 || n == 0x85 || n == 0xA0 || n == 0x1680 ||
    (0x2000 ≤ n && n ≤ 0x200A) || n == 0x2028 || n == 0x2029 || n == 0x202F || n == 0x205F ||
    n == 0x3000

/-- Removes the blank characters at the end. -/
def trimRight (cs : List Char) : List Char := (cs.reverse.dropWhile isBlank).reverse

/-- Removes the blank characters at both ends. -/
def trimChars (cs : List Char) : List Char := trimRight (cs.dropWhile isBlank)

/-- Removes the blank characters at both ends of a text. -/
def trim (s : String) : String := String.ofList (trimChars s.toList)

/-- Removes the blank characters at the end of a text. -/
def trimEnd (s : String) : String := String.ofList (trimRight s.toList)

private theorem head?_dropWhile_eq {p : Char → Bool} {cs : List Char} {c : Char}
    (h : (cs.dropWhile p).head? = some c) : p c = false := by
  induction cs with
  | nil => simp at h
  | cons a cs ih =>
    by_cases ha : p a
    · exact ih (by simpa [ha] using h)
    · simp [ha] at h
      simpa [← h] using ha

private theorem dropWhile_eq_self {p : Char → Bool} {cs : List Char}
    (h : ∀ c, cs.head? = some c → p c = false) : cs.dropWhile p = cs := by
  cases cs with
  | nil => rfl
  | cons a cs => simp [h a rfl]

/-- The removed end of a text is blank. -/
theorem trimRight_append (cs : List Char) :
    ∃ tail, cs = trimRight cs ++ tail ∧ ∀ c ∈ tail, isBlank c := by
  refine ⟨(cs.reverse.takeWhile isBlank).reverse, ?_, fun c hc => ?_⟩
  · rw [trimRight, ← List.reverse_append, List.takeWhile_append_dropWhile, List.reverse_reverse]
  · exact List.all_eq_true.1 List.all_takeWhile c (List.mem_reverse.1 hc)

theorem head?_trimRight (cs : List Char) (h : ∀ c, cs.head? = some c → isBlank c = false) :
    ∀ c, (trimRight cs).head? = some c → isBlank c = false := by
  intro c hc
  obtain ⟨tail, htail, -⟩ := trimRight_append cs
  refine h c ?_
  rw [htail]
  cases hcs : trimRight cs with
  | nil => simp [hcs] at hc
  | cons a as => simpa [hcs] using hc

/-- A trimmed text begins with no blank character. -/
theorem trim_head (cs : List Char) :
    ∀ c, (trimChars cs).head? = some c → isBlank c = false :=
  head?_trimRight _ fun _ h => head?_dropWhile_eq h

@[simp] theorem trimRight_trimRight (cs : List Char) : trimRight (trimRight cs) = trimRight cs := by
  simp only [trimRight, List.reverse_reverse]
  rw [dropWhile_eq_self fun c h => head?_dropWhile_eq h]

@[simp] theorem trimChars_trimChars (cs : List Char) : trimChars (trimChars cs) = trimChars cs := by
  show trimRight ((trimChars cs).dropWhile isBlank) = trimChars cs
  rw [dropWhile_eq_self (trim_head cs), trimChars, trimRight_trimRight]

@[simp] theorem trim_trim (s : String) : trim (trim s) = trim s := by simp [trim]

end MachineClaims.Text
