/-!
# Decimal integers

Writing integers in decimal and reading them back. Readers accept ASCII digits only, any number of
leading zeros, and a sign where the name says so; `signed?_decimal` says that what is written reads back.
-/

namespace MachineClaims.Text

/-- The decimal text of an integer, with a leading minus sign if it is negative. -/
def decimal (n : Int) : String :=
  if n < 0 then "-" ++ n.natAbs.repr else n.natAbs.repr

/-- The value of a non-empty run of ASCII digits. -/
def digits? (cs : List Char) : Option Nat :=
  if cs ≠ [] ∧ cs.all Char.isDigit then some (Nat.ofDigitChars 10 cs 0) else none

/-- Reads digits after an optional plus sign. -/
def unsigned? : List Char → Option Nat
  | '+' :: cs => digits? cs
  | cs => digits? cs

/-- Reads digits after an optional sign. -/
def signed? : List Char → Option Int
  | '+' :: cs => (digits? cs).map Int.ofNat
  | '-' :: cs => (digits? cs).map fun n => -Int.ofNat n
  | cs => (digits? cs).map Int.ofNat

/-- Whether an integer has a place among the signed ones of a number of bits. -/
def fitsSigned (bits : Nat) (n : Int) : Bool :=
  let half : Int := Nat.pow 2 (bits - 1)
  decide (-half ≤ n) && n < half

/-- Whether an integer has a place among the unsigned ones of a number of bits. -/
def fitsUnsigned (bits : Nat) (n : Int) : Bool :=
  let all : Int := Nat.pow 2 bits
  0 ≤ n && n < all

/-- Reads a signed integer of the given number of bits. -/
def signedBits? (bits : Nat) (cs : List Char) : Option Int :=
  (signed? cs).filter (fitsSigned bits)

/-- Reads an unsigned integer of the given number of bits. -/
def unsignedBits? (bits : Nat) (cs : List Char) : Option Nat :=
  (unsigned? cs).filter fun n => fitsUnsigned bits n

theorem digits?_toDigits (n : Nat) : digits? (Nat.toDigits 10 n) = some n := by
  have hdigit : (Nat.toDigits 10 n).all Char.isDigit :=
    List.all_eq_true.2 fun c hc => Nat.isDigit_of_mem_toDigits (by decide) (by decide) hc
  rw [digits?, if_pos ⟨Nat.toDigits_ne_nil, hdigit⟩,
    Nat.ofDigitChars_toDigits (by decide) (by decide)]

private theorem exists_toDigits_cons (n : Nat) :
    ∃ c cs, Nat.toDigits 10 n = c :: cs ∧ c.isDigit := by
  cases h : Nat.toDigits 10 n with
  | nil => exact absurd h Nat.toDigits_ne_nil
  | cons c cs =>
    exact ⟨c, cs, rfl, Nat.isDigit_of_mem_toDigits (by decide) (by decide) (h ▸ List.mem_cons_self)⟩

private theorem signed?_of_isDigit {c : Char} {cs : List Char} (h : c.isDigit) :
    signed? (c :: cs) = (digits? (c :: cs)).map Int.ofNat := by
  unfold signed?
  split
  · rename_i heq
    cases heq
    exact absurd h (by decide)
  · rename_i heq
    cases heq
    exact absurd h (by decide)
  · rfl

/-- A written integer reads back. -/
theorem signed?_decimal (n : Int) : signed? (decimal n).toList = some n := by
  rw [decimal]
  split
  · rw [String.toList_append, Nat.toList_repr]
    show (digits? (Nat.toDigits 10 n.natAbs)).map (fun n => -Int.ofNat n) = some n
    rw [digits?_toDigits, Option.map_some]
    congr 1
    show -(n.natAbs : Int) = n
    omega
  · obtain ⟨c, cs, h, hc⟩ := exists_toDigits_cons n.natAbs
    rw [Nat.toList_repr, h, signed?_of_isDigit hc, ← h, digits?_toDigits, Option.map_some]
    congr 1
    show (n.natAbs : Int) = n
    omega

end MachineClaims.Text
