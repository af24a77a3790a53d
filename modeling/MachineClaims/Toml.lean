import MachineClaims.Json.Reader

/-!
# Flat TOML documents

A flat document gives each key a string, an integer or a boolean, one to a line. Nothing else is
read: a document with tables, arrays, dotted keys, floats or dates is refused like one that is no
TOML at all. Integers have 64 bits.
-/

namespace MachineClaims.Toml

/-- Whether a character may stand in a quoted or commented text: a tab or no control character. -/
def isPlain (c : Char) : Bool := c == '\t' || (0x20 ≤ c.toNat && c.toNat != 0x7F)

/-- The text after spaces and tabs. -/
def skipBlanks (cs : List Char) : List Char := cs.dropWhile fun c => c == ' ' || c == '\t'

/-- The text after a line end. -/
def newline? : List Char → Option (List Char)
  | '\n' :: rest => some rest
  | '\r' :: '\n' :: rest => some rest
  | _ => none

/-- The text without the comment that it may begin with. -/
def skipComment : List Char → List Char
  | '#' :: rest => rest.dropWhile isPlain
  | cs => cs

/-- The text of the next line, if nothing but blanks and a comment is left on this one. -/
def endLine? (cs : List Char) : Option (List Char) :=
  match skipComment (skipBlanks cs) with
  | [] => some []
  | cs => newline? cs

/-! ### Strings -/

/-- The character that a short escape stands for. -/
def escaped? : Char → Option Char
  | 'b' => some '\x08'
  | 't' => some '\t'
  | 'n' => some '\n'
  | 'f' => some '\x0c'
  | 'r' => some '\r'
  | '"' => some '"'
  | '\\' => some '\\'
  | _ => none

/-- The character whose number some hexadecimal digits write. -/
def scalar? (digits : List Char) : Option Char := do
  let ns ← digits.mapM Json.Token.hexDigit?
  let n := ns.foldl (fun n d => n * 16 + d) 0
  if n.isValidChar then some (Char.ofNat n) else none

/-- What a text read so far is followed by. -/
abbrev Rest := Option (List Char × List Char)

/-- Puts a character before a text read so far. -/
def before (c : Char) (r : Rest) : Rest := r.map fun (text, rest) => (c :: text, rest)

/-- Puts an escaped character, if there is one, before a text read so far. -/
def beforeEscape (c : Option Char) (r : Rest) : Rest := c.bind (before · r)

/-- A string in double quotes, after the opening one. -/
def basic : List Char → Rest
  | '"' :: rest => some ([], rest)
  | '\\' :: 'u' :: a :: b :: c :: d :: rest => beforeEscape (scalar? [a, b, c, d]) (basic rest)
  | '\\' :: 'U' :: a :: b :: c :: d :: e :: f :: g :: h :: rest =>
    beforeEscape (scalar? [a, b, c, d, e, f, g, h]) (basic rest)
  | '\\' :: c :: rest => beforeEscape (escaped? c) (basic rest)
  | c :: rest => if isPlain c then before c (basic rest) else none
  | [] => none

/-- A string in single quotes, after the opening one. -/
def literal : List Char → Rest
  | '\'' :: rest => some ([], rest)
  | c :: rest => if isPlain c then before c (literal rest) else none
  | [] => none

/-- A string in three double quotes, after the opening ones. The three that close it may follow one
or two that belong to it. A backslash at the end of a line takes away all blanks and line ends after
it, which `folding` says is going on. -/
def basicLines (folding : Bool) : List Char → Rest
  | '"' :: '"' :: '"' :: '"' :: '"' :: rest => some (['"', '"'], rest)
  | '"' :: '"' :: '"' :: '"' :: rest => some (['"'], rest)
  | '"' :: '"' :: '"' :: rest => some ([], rest)
  | '\r' :: '\n' :: rest =>
    if folding then basicLines true rest else before '\n' (basicLines false rest)
  | '\n' :: rest =>
    if folding then basicLines true rest else before '\n' (basicLines false rest)
  | '\\' :: 'u' :: a :: b :: c :: d :: rest =>
    beforeEscape (scalar? [a, b, c, d]) (basicLines false rest)
  | '\\' :: 'U' :: a :: b :: c :: d :: e :: f :: g :: h :: rest =>
    beforeEscape (scalar? [a, b, c, d, e, f, g, h]) (basicLines false rest)
  | '\\' :: c :: rest =>
    if (newline? (skipBlanks (c :: rest))).isSome then basicLines true (c :: rest)
    else beforeEscape (escaped? c) (basicLines false rest)
  | c :: rest =>
    if folding && (c == ' ' || c == '\t') then basicLines true rest
    else if isPlain c then before c (basicLines false rest)
    else none
  | [] => none

/-- A string in three single quotes, after the opening ones. -/
def literalLines : List Char → Rest
  | '\'' :: '\'' :: '\'' :: '\'' :: '\'' :: rest => some (['\'', '\''], rest)
  | '\'' :: '\'' :: '\'' :: '\'' :: rest => some (['\''], rest)
  | '\'' :: '\'' :: '\'' :: rest => some ([], rest)
  | '\r' :: '\n' :: rest => before '\n' (literalLines rest)
  | '\n' :: rest => before '\n' (literalLines rest)
  | c :: rest => if isPlain c then before c (literalLines rest) else none
  | [] => none

/-- A string of several lines does not begin with the line end after its opening quotes. -/
def skipFirstLine (cs : List Char) : List Char := (newline? cs).getD cs

/-! ### Integers -/

/-- The digits of a text in which single underscores may stand between digits. -/
def spaced? (isDigit : Char → Bool) : List Char → Option (List Char)
  | [] => none
  | [c] => if isDigit c then some [c] else none
  | c :: '_' :: rest => if isDigit c then (spaced? isDigit rest).map (c :: ·) else none
  | c :: rest => if isDigit c then (spaced? isDigit rest).map (c :: ·) else none

/-- The number that digits to some base write, with underscores between them. -/
def based? (base : Nat) (cs : List Char) : Option Nat := do
  let digits ← spaced? (fun c => (Json.Token.hexDigit? c).any (· < base)) cs
  let ns ← digits.mapM Json.Token.hexDigit?
  return ns.foldl (fun n d => n * base + d) 0

/-- The number that decimal digits write. There is no leading zero. -/
def unsigned? : List Char → Option Nat
  | '0' :: _ :: _ => none
  | cs => based? 10 cs

/-- The integer that a word writes. Only decimal digits may have a sign. -/
def integer? (word : List Char) : Option Int := do
  let n ← match word with
    | '0' :: 'x' :: cs => (based? 16 cs).map Int.ofNat
    | '0' :: 'o' :: cs => (based? 8 cs).map Int.ofNat
    | '0' :: 'b' :: cs => (based? 2 cs).map Int.ofNat
    | '+' :: cs => (unsigned? cs).map Int.ofNat
    | '-' :: cs => (unsigned? cs).map fun n => -Int.ofNat n
    | cs => (unsigned? cs).map Int.ofNat
  if Text.fitsSigned 64 n then some n else none

/-! ### Documents -/

/-- Whether a character may stand in a key without quotes. -/
def isBare (c : Char) : Bool := c.isAlphanum || c == '_' || c == '-'

/-- A key and the text after it. -/
def key? : List Char → Rest
  | '"' :: cs => basic cs
  | '\'' :: cs => literal cs
  | cs =>
    let name := cs.takeWhile isBare
    if name = [] then none else some (name, cs.dropWhile isBare)

/-- A word is what stands before blanks, a comment and the line end. -/
def endsWord (c : Char) : Bool := c == ' ' || c == '\t' || c == '\n' || c == '\r' || c == '#'

/-- The value of a word. -/
def ofWord? (word : List Char) : Option Json :=
  if word = "true".toList then some (.bool true)
  else if word = "false".toList then some (.bool false)
  else (integer? word).map Json.int

/-- A value and the text after it. -/
def value? (cs : List Char) : Option (Json × List Char) :=
  let text (r : Rest) : Option (Json × List Char) :=
    r.map fun (text, rest) => (.str (String.ofList text), rest)
  match cs with
  | '"' :: '"' :: '"' :: cs => text (basicLines false (skipFirstLine cs))
  | '"' :: cs => text (basic cs)
  | '\'' :: '\'' :: '\'' :: cs => text (literalLines (skipFirstLine cs))
  | '\'' :: cs => text (literal cs)
  | cs => do
    return (← ofWord? (cs.takeWhile (!endsWord ·)), cs.dropWhile (!endsWord ·))

/-- The pair on a line that holds one, and the text of the next line. -/
def pair? (cs : List Char) : Option ((String × Json) × List Char) := do
  let (key, cs) ← key? cs
  match skipBlanks cs with
  | '=' :: cs =>
    let (value, cs) ← value? (skipBlanks cs)
    return ((String.ofList key, value), ← endLine? cs)
  | _ => none

/-- The pairs of a text with at most so many lines. -/
def pairs? : Nat → List Char → Option (List (String × Json))
  | _, [] => some []
  | 0, _ => none
  | lines + 1, cs =>
    match endLine? cs with
    | some rest => pairs? lines rest
    | none => do
      let (pair, rest) ← pair? (skipBlanks cs)
      return pair :: (← pairs? lines rest)

/-- The object that a flat document writes. It gives no key two values, and it may begin with a byte
order mark. -/
def read? (text : String) : Option Json := do
  let cs := match text.toList with
    | '\uFEFF' :: cs => cs
    | cs => cs
  let pairs ← pairs? (cs.length + 1) cs
  if (pairs.map (·.1)).Nodup then some (.obj pairs) else none

end MachineClaims.Toml
