import MachineClaims.NameMap
import MachineClaims.Text.Blank
import MachineClaims.Text.Decimal
import MachineClaims.Text.Quoted

/-!
# Amounts of a resource

A quantity such as `4`, `500m`, `1.5Gi` or `1e3` keeps the text it was read from and its exact
value in thousandths, which alone decides comparison and arithmetic. A value that is no whole
number of thousandths is rounded away from zero.
-/

namespace MachineClaims

/-- Why a text is no quantity. -/
inductive Quantity.ParseError where
  | empty
  | invalid (text : String)
  | unknownSuffix (text suffix : String)
  | outOfRange (text : String)
deriving DecidableEq, Repr

/-- The wording of a quantity error. -/
def Quantity.ParseError.message : Quantity.ParseError → String
  | .empty => "empty quantity"
  | .invalid text => "invalid quantity " ++ Text.quote text
  | .unknownSuffix text suffix =>
    "unknown quantity suffix " ++ Text.quote suffix ++ " in " ++ Text.quote text
  | .outOfRange text => "quantity " ++ Text.quote text ++ " is out of range"

/-- An amount: its value in thousandths and its text. -/
structure Quantity where
  millis : Int
  text : String
deriving DecidableEq, Repr

/-- Amounts by the name of their resource. -/
abbrev Resources := NameMap Quantity

namespace Quantity

/-- The factor that a suffix stands for: a power of two or a power of ten. -/
inductive Scale where
  | binary (exponent : Nat)
  | decimal (exponent : Int)
deriving DecidableEq

/-- The largest decimal exponent that may be written out. -/
def maxExponent : Nat := 18

/-- The exponent written after the letter `e`, if it is small enough. -/
def exponent? (cs : List Char) : Option Int :=
  (Text.signedBits? 32 cs).filter fun e => e.natAbs ≤ maxExponent

/-- The factor written by a suffix. -/
def Scale.ofSuffix? : List Char → Option Scale
  | [] => some (.decimal 0)
  | ['n'] => some (.decimal (-9))
  | ['u'] => some (.decimal (-6))
  | ['m'] => some (.decimal (-3))
  | ['k'] => some (.decimal 3)
  | ['M'] => some (.decimal 6)
  | ['G'] => some (.decimal 9)
  | ['T'] => some (.decimal 12)
  | ['P'] => some (.decimal 15)
  | ['E'] => some (.decimal 18)
  | ['K', 'i'] => some (.binary 10)
  | ['M', 'i'] => some (.binary 20)
  | ['G', 'i'] => some (.binary 30)
  | ['T', 'i'] => some (.binary 40)
  | ['P', 'i'] => some (.binary 50)
  | ['E', 'i'] => some (.binary 60)
  | 'e' :: cs => (exponent? cs).map .decimal
  | 'E' :: cs => (exponent? cs).map .decimal
  | _ => none

/-- What the digits are multiplied by. -/
def Scale.up : Scale → Nat
  | .binary e => Nat.pow 2 e
  | .decimal e => Nat.pow 10 e.toNat

/-- What the digits are divided by. -/
def Scale.down : Scale → Nat
  | .binary _ => 1
  | .decimal e => Nat.pow 10 (-e).toNat

/-- The parts of a written number. -/
structure Numeral where
  negative : Bool
  whole : List Char
  fraction : List Char
  suffix : List Char
deriving DecidableEq

/-- The most digits a number may have. -/
def maxDigits : Nat := 24

/-- The largest value of a signed integer of 128 bits, which bounds every intermediate result. -/
def maxWide : Nat := Nat.pow 2 127 - 1

namespace Numeral

def isNumberChar (c : Char) : Bool := c.isDigit || c == '.'

/-- Divides a text into sign, digits before and after the first point, and the rest. -/
def split (cs : List Char) : Numeral :=
  let (negative, body) :=
    match cs with
    | '-' :: body => (true, body)
    | '+' :: body => (false, body)
    | body => (false, body)
  let number := body.takeWhile isNumberChar
  { negative
    whole := number.takeWhile (· != '.')
    fraction := (number.dropWhile (· != '.')).drop 1
    suffix := body.dropWhile isNumberChar }

/-- There is a digit, at most one point, and no more digits than allowed. -/
def WellFormed (n : Numeral) : Prop :=
  (n.whole ≠ [] ∨ n.fraction ≠ []) ∧ '.' ∉ n.fraction ∧
    n.whole.length + n.fraction.length ≤ maxDigits

instance (n : Numeral) : Decidable n.WellFormed := by unfold WellFormed; infer_instance

/-- The number that the digits form when the point is left out. -/
def mantissa (n : Numeral) : Nat := Nat.ofDigitChars 10 (n.whole ++ n.fraction) 0

/-- The dividend of the magnitude in thousandths. -/
def numerator (n : Numeral) (scale : Scale) : Nat := n.mantissa * 1000 * scale.up

/-- The divisor of the magnitude in thousandths. -/
def denominator (n : Numeral) (scale : Scale) : Nat :=
  Nat.pow 10 n.fraction.length * scale.down

/-- The value in thousandths, rounded away from zero, unless an intermediate result is too large. -/
def millis? (n : Numeral) (scale : Scale) : Option Int :=
  let rounded := n.numerator scale + (n.denominator scale - 1)
  if n.denominator scale ≤ maxWide ∧ rounded ≤ maxWide then
    let magnitude : Int := ↑(rounded / n.denominator scale)
    some (if n.negative then -magnitude else magnitude)
  else none

end Numeral

/-- Reads a quantity; blank characters around it do not count. -/
def parse (input : String) : Except Quantity.ParseError Quantity :=
  let text := Text.trim input
  if text = "" then .error .empty
  else
    let n := Numeral.split text.toList
    if n.WellFormed then
      match Scale.ofSuffix? n.suffix with
      | none => .error (.unknownSuffix text (String.ofList n.suffix))
      | some scale =>
        match n.millis? scale with
        | none => .error (.outOfRange text)
        | some millis => .ok ⟨millis, text⟩
    else .error (.invalid text)

/-- The quantity of a whole number of thousandths, in its shortest text. -/
def ofMillis (millis : Int) : Quantity :=
  ⟨millis, if millis % 1000 = 0 then Text.decimal (millis / 1000) else Text.decimal millis ++ "m"⟩

/-- The quantity of a whole number. -/
def ofUnits (units : Int) : Quantity := ofMillis (units * 1000)

def zero : Quantity := ofMillis 0

instance : Ord Quantity := ⟨fun a b => compare a.millis b.millis⟩

/-- What is left after taking away `b`, and nothing if that is less. Taking away nothing keeps the
text. -/
def minus (a b : Quantity) : Quantity :=
  if b.millis = 0 then a else ofMillis (max (a.millis - b.millis) 0)

/-- The larger quantity, the second of two equal ones. -/
def larger (a b : Quantity) : Quantity := if b.millis < a.millis then a else b

/-- The smaller quantity, the first of two equal ones. -/
def smaller (a b : Quantity) : Quantity := if b.millis < a.millis then b else a

@[simp] theorem millis_ofMillis (m : Int) : (ofMillis m).millis = m := rfl

/-- A quantity that was read keeps its trimmed text. -/
theorem text_of_parse {input : String} {q : Quantity} (h : parse input = .ok q) :
    q.text = Text.trim input := by
  simp only [parse] at h
  split at h
  · cases h
  · split at h
    · split at h
      · cases h
      · split at h
        · cases h
        · cases h
          rfl
    · cases h

/-- Reading depends on the trimmed text only. -/
theorem parse_trim (input : String) : parse (Text.trim input) = parse input := by
  simp [parse]

/-- The text of a quantity that was read reads back as the same quantity. -/
theorem parse_text_of_parse {input : String} {q : Quantity} (h : parse input = .ok q) :
    parse q.text = .ok q := by
  rw [text_of_parse h, parse_trim, h]

end Quantity
end MachineClaims
