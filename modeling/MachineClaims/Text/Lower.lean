import MachineClaims.Text.Lower.Runs
import MachineClaims.Text.Lower.Cased

/-!
# Lower-case text

Unicode lower-casing without a locale: every character has one lower-case form, except that a
capital I with a dot keeps the dot as a combining character, and that a capital sigma at the end of
a word becomes a final sigma.
-/

namespace MachineClaims.Text

namespace Lower

/-- The lower-case form of one character, apart from the two special letters. -/
def simple (c : Char) : Char :=
  if c.toNat < 0x80 then c.toLower
  else
    match runs.find? fun r =>
        r.first ≤ c.toNat && c.toNat ≤ r.last && (c.toNat - r.first) % r.step == 0 with
    | some r => Char.ofNat (c.toNat + r.shift).toNat
    | none => c

def inRanges (ranges : List (Nat × Nat)) (c : Char) : Bool :=
  ranges.any fun r => r.1 ≤ c.toNat && c.toNat ≤ r.2

def isCased : Char → Bool := inRanges casedRanges

def isIgnorable : Char → Bool := inRanges ignorableRanges

/-- Whether the nearest character that is not ignorable has case. -/
def nearestIsCased (cs : List Char) : Bool :=
  ((cs.dropWhile isIgnorable).head?).any isCased

/-- Lower-cases a text, given the characters before it, the nearest first. -/
def after (before : List Char) : List Char → List Char
  | [] => []
  | c :: cs =>
    let written :=
      if c = 'Σ' then
        if nearestIsCased before && !nearestIsCased cs then ['ς'] else ['σ']
      else if c = 'İ' then ['i', '\u0307']
      else [simple c]
    written ++ after (c :: before) cs

end Lower

/-- The lower-case form of a text. -/
def lowerCase (s : String) : String := String.ofList (Lower.after [] s.toList)

end MachineClaims.Text
