import MachineClaims.Json

/-!
# Reading JSON text

Text is cut into tokens and the tokens are put together with a stack of the arrays and objects
that are still open, so that both passes follow their input. There is one value, and nothing but
spaces, tabs and line ends may stand around it.
-/

namespace MachineClaims.Json

/-- The pieces of JSON text. An atom is a value that is no array and no object. -/
inductive Token where
  | openArray
  | closeArray
  | openObject
  | closeObject
  | colon
  | comma
  | atom (value : Json)

namespace Token

/-- The value of a hexadecimal digit. -/
def hexDigit? (c : Char) : Option Nat :=
  if '0' ≤ c ∧ c ≤ '9' then some (c.toNat - '0'.toNat)
  else if 'a' ≤ c ∧ c ≤ 'f' then some (c.toNat - 'a'.toNat + 10)
  else if 'A' ≤ c ∧ c ≤ 'F' then some (c.toNat - 'A'.toNat + 10)
  else none

/-- The number that four hexadecimal digits write. -/
def hex4? (a b c d : Char) : Option Nat := do
  return (((← hexDigit? a) * 16 + (← hexDigit? b)) * 16 + (← hexDigit? c)) * 16 + (← hexDigit? d)

/-- The character that a short escape stands for. -/
def escaped? : Char → Option Nat
  | '"' => some 0x22
  | '\\' => some 0x5C
  | '/' => some 0x2F
  | 'b' => some 0x8
  | 'f' => some 0xC
  | 'n' => some 0xA
  | 'r' => some 0xD
  | 't' => some 0x9
  | _ => none

/-- Reads a string after its opening quote: the numbers of its characters, where an escape may
give half a surrogate pair, and the text after the closing quote. -/
def stringBody : List Char → Option (List Nat × List Char)
  | [] => none
  | '"' :: rest => some ([], rest)
  | '\\' :: 'u' :: a :: b :: c :: d :: rest => do
    let n ← hex4? a b c d
    let (ns, rest) ← stringBody rest
    return (n :: ns, rest)
  | '\\' :: c :: rest => do
    let n ← escaped? c
    let (ns, rest) ← stringBody rest
    return (n :: ns, rest)
  | c :: rest =>
    if c.toNat < 0x20 then none
    else do
      let (ns, rest) ← stringBody rest
      return (c.toNat :: ns, rest)

theorem length_lt_of_stringBody {cs : List Char} {ns : List Nat} {rest : List Char}
    (h : stringBody cs = some (ns, rest)) : rest.length < cs.length := by
  fun_induction stringBody cs generalizing ns rest with
  | case1 => simp at h
  | case2 rest' =>
    simp only [Option.some.injEq, Prod.mk.injEq] at h
    simp [← h.2]
  | case3 a b c d rest' ih =>
    cases hn : hex4? a b c d with
    | none => simp [hn] at h
    | some n =>
      cases hs : stringBody rest' with
      | none => simp [hn, hs] at h
      | some p =>
        simp only [hn, hs, Option.bind_eq_bind, Option.bind_some, Option.pure_def,
          Option.some.injEq, Prod.mk.injEq] at h
        have := @ih p.1 p.2 hs
        simp only [← h.2, List.length_cons]
        omega
  | case4 c rest' _ ih =>
    cases hn : escaped? c with
    | none => simp [hn] at h
    | some n =>
      cases hs : stringBody rest' with
      | none => simp [hn, hs] at h
      | some p =>
        simp only [hn, hs, Option.bind_eq_bind, Option.bind_some, Option.pure_def,
          Option.some.injEq, Prod.mk.injEq] at h
        have := @ih p.1 p.2 hs
        simp only [← h.2, List.length_cons]
        omega
  | case5 => simp at h
  | case6 c rest' _ _ _ _ ih =>
    cases hs : stringBody rest' with
    | none => simp [hs] at h
    | some p =>
      simp only [hs, Option.bind_eq_bind, Option.bind_some, Option.pure_def,
        Option.some.injEq, Prod.mk.injEq] at h
      have := @ih p.1 p.2 hs
      simp only [← h.2, List.length_cons]
      omega

/-- The characters with the given numbers, joining surrogate pairs. -/
def joinPairs : List Nat → Option (List Char)
  | [] => some []
  | n :: ns =>
    if 0xDC00 ≤ n ∧ n < 0xE000 then none
    else if 0xD800 ≤ n ∧ n < 0xDC00 then
      match ns with
      | [] => none
      | low :: ns =>
        if 0xDC00 ≤ low ∧ low < 0xE000 then
          (joinPairs ns).map (Char.ofNat (0x10000 + (n - 0xD800) * 0x400 + (low - 0xDC00)) :: ·)
        else none
    else (joinPairs ns).map (Char.ofNat n :: ·)

/-- The string with the given character numbers. -/
def ofUnits (ns : List Nat) : Token :=
  match joinPairs ns with
  | some cs => .atom (.str (String.ofList cs))
  | none => .atom .broken

def isNumberChar (c : Char) : Bool :=
  c.isDigit || c == '-' || c == '+' || c == '.' || c == 'e' || c == 'E'

/-- Whether a text begins with a digit, after which comes nothing but digits or what `next`
accepts. -/
def digitsThen (next : List Char → Bool) (cs : List Char) : Bool :=
  !(cs.takeWhile Char.isDigit).isEmpty && next (cs.dropWhile Char.isDigit)

/-- Whether a text is an exponent or nothing. -/
def isExponent : List Char → Bool
  | [] => true
  | e :: cs =>
    (e == 'e' || e == 'E') &&
      digitsThen List.isEmpty (match cs with | '+' :: cs => cs | '-' :: cs => cs | cs => cs)

/-- Whether a text is a fraction, an exponent, both or nothing. -/
def isFraction : List Char → Bool
  | '.' :: cs => digitsThen isExponent cs
  | cs => isExponent cs

/-- Whether a text without sign is a number: no digit follows a leading zero. -/
def isUnsigned : List Char → Bool
  | '0' :: cs => isFraction cs
  | cs => digitsThen isFraction cs

/-- Whether a text is a number. -/
def isNumber : List Char → Bool
  | '-' :: cs => isUnsigned cs
  | cs => isUnsigned cs

/-- The value that a word stands for. -/
def ofWord? (word : List Char) : Option Token :=
  if word = ['n', 'u', 'l', 'l'] then some (.atom .null)
  else if word = ['t', 'r', 'u', 'e'] then some (.atom (.bool true))
  else if word = ['f', 'a', 'l', 's', 'e'] then some (.atom (.bool false))
  else none

/-- The token of a single character. -/
def ofChar? : Char → Option Token
  | '[' => some .openArray
  | ']' => some .closeArray
  | '{' => some .openObject
  | '}' => some .closeObject
  | ':' => some .colon
  | ',' => some .comma
  | _ => none

/-- Cuts a text into tokens. -/
def scan (cs : List Char) : Option (List Token) :=
  match cs with
  | [] => some []
  | c :: rest =>
    if c = ' ' ∨ c = '\n' ∨ c = '\r' ∨ c = '\t' then scan rest
    else if c = '"' then
      match h : stringBody rest with
      | none => none
      | some (ns, rest') =>
        have := length_lt_of_stringBody h
        (scan rest').map (ofUnits ns :: ·)
    else if c.isDigit ∨ c = '-' then
      let text := c :: rest.takeWhile isNumberChar
      have := (@List.dropWhile_sublist _ rest isNumberChar).length_le
      if isNumber text then
        (scan (rest.dropWhile isNumberChar)).map (.atom (.number (String.ofList text)) :: ·)
      else none
    else if c.isAlpha then
      have := (@List.dropWhile_sublist _ rest Char.isAlpha).length_le
      match ofWord? (c :: rest.takeWhile Char.isAlpha) with
      | none => none
      | some t => (scan (rest.dropWhile Char.isAlpha)).map (t :: ·)
    else
      match ofChar? c with
      | none => none
      | some t => (scan rest).map (t :: ·)
termination_by cs.length
decreasing_by all_goals simp only [List.length_cons]; omega

end Token

/-- An array or object that is still open, its finished parts in reverse. A key without a value is
`none` if it has half a surrogate pair. -/
inductive Frame where
  | items (done : List Json)
  | members (done : List (Option String × Json)) (key : Option String)

/-- What may come next. -/
inductive Expected where
  | value
  | itemOrClose
  | key (done : List (Option String × Json))
  | keyOrClose
  | colon (done : List (Option String × Json)) (key : Option String)
  | after (value : Json)

/-- The object with the given members, in reverse. -/
def ofMembers (done : List (Option String × Json)) : Json :=
  match done.reverse.mapM fun m => m.1.map fun key => (key, m.2) with
  | some members => .obj members
  | none => .broken

/-- Puts tokens together to one value. -/
def assemble : Expected → List Frame → List Token → Option Json
  | .after v, [], [] => some v
  | .after v, .items done :: fs, .comma :: ts => assemble .value (.items (v :: done) :: fs) ts
  | .after v, .items done :: fs, .closeArray :: ts =>
    assemble (.after (.arr (v :: done).reverse)) fs ts
  | .after v, .members done key :: fs, .comma :: ts => assemble (.key ((key, v) :: done)) fs ts
  | .after v, .members done key :: fs, .closeObject :: ts =>
    assemble (.after (ofMembers ((key, v) :: done))) fs ts
  | .value, fs, .atom v :: ts => assemble (.after v) fs ts
  | .value, fs, .openArray :: ts => assemble .itemOrClose fs ts
  | .value, fs, .openObject :: ts => assemble .keyOrClose fs ts
  | .itemOrClose, fs, .closeArray :: ts => assemble (.after (.arr [])) fs ts
  | .itemOrClose, fs, .atom v :: ts => assemble (.after v) (.items [] :: fs) ts
  | .itemOrClose, fs, .openArray :: ts => assemble .itemOrClose (.items [] :: fs) ts
  | .itemOrClose, fs, .openObject :: ts => assemble .keyOrClose (.items [] :: fs) ts
  | .keyOrClose, fs, .closeObject :: ts => assemble (.after (.obj [])) fs ts
  | .keyOrClose, fs, .atom (.str key) :: ts => assemble (.colon [] (some key)) fs ts
  | .keyOrClose, fs, .atom .broken :: ts => assemble (.colon [] none) fs ts
  | .key done, fs, .atom (.str key) :: ts => assemble (.colon done (some key)) fs ts
  | .key done, fs, .atom .broken :: ts => assemble (.colon done none) fs ts
  | .colon done key, fs, .colon :: ts => assemble .value (.members done key :: fs) ts
  | _, _, _ => none

/-- The value that a text writes. -/
def read? (text : String) : Option Json := do
  assemble .value [] (← Token.scan text.toList)

end MachineClaims.Json
