import MachineClaims.Json

/-!
# Writing JSON text

A value is written on one line without spaces, or over several lines with an indentation of two
spaces. Quotes, backslashes and controls in strings are escaped.
-/

namespace MachineClaims.Json

/-- The four hexadecimal digits of a small number. -/
def hex4 (n : Nat) : List Char :=
  let digits := Nat.toDigits 16 n
  List.replicate (4 - digits.length) '0' ++ digits

/-- How a character appears in a string. -/
def writeChar (c : Char) : List Char :=
  if c = '"' then ['\\', '"']
  else if c = '\\' then ['\\', '\\']
  else if c = '\n' then ['\\', 'n']
  else if c = '\r' then ['\\', 'r']
  else if c = '\t' then ['\\', 't']
  else if c.toNat = 0x8 then ['\\', 'b']
  else if c.toNat = 0xC then ['\\', 'f']
  else if c.toNat < 0x20 then ['\\', 'u'] ++ hex4 c.toNat
  else [c]

/-- As `writeChar`, and the characters that end a line elsewhere are escaped too. -/
def writeLineChar (c : Char) : List Char :=
  if c.toNat = 0x85 ∨ c.toNat = 0x2028 ∨ c.toNat = 0x2029 then ['\\', 'u'] ++ hex4 c.toNat
  else writeChar c

/-- A string with its quotes. -/
def writeString (write : Char → List Char) (s : String) : String :=
  String.ofList ('"' :: s.toList.flatMap write ++ ['"'])

mutual

/-- The value on one line, whatever counts as the end of a line. -/
def line : Json → String
  | .null => "null"
  | .bool true => "true"
  | .bool false => "false"
  | .number text => text
  | .str s => writeString writeLineChar s
  | .broken => "null"
  | .arr items => "[" ++ ",".intercalate (lineItems items) ++ "]"
  | .obj members => "\x7b" ++ ",".intercalate (lineMembers members) ++ "\x7d"

def lineItems : List Json → List String
  | [] => []
  | j :: rest => line j :: lineItems rest

def lineMembers : List (String × Json) → List String
  | [] => []
  | m :: rest => lineMember m :: lineMembers rest

def lineMember : String × Json → String
  | (key, value) => writeString writeLineChar key ++ ":" ++ line value

end

/-- Items on lines of their own between two brackets; nothing stands between the brackets of an
empty list. -/
def block (indent : String) (opening closing : String) : List String → String
  | [] => opening ++ closing
  | items =>
    let inner := indent ++ "  "
    opening ++ "\n" ++ inner ++ (",\n" ++ inner).intercalate items ++ "\n" ++ indent ++ closing

mutual

/-- The value over several lines, all but the first indented by `indent`. -/
def prettyFrom (indent : String) : Json → String
  | .null => "null"
  | .bool true => "true"
  | .bool false => "false"
  | .number text => text
  | .str s => writeString writeChar s
  | .broken => "null"
  | .arr items => block indent "[" "]" (prettyItems (indent ++ "  ") items)
  | .obj members => block indent "\x7b" "\x7d" (prettyMembers (indent ++ "  ") members)

def prettyItems (indent : String) : List Json → List String
  | [] => []
  | j :: rest => prettyFrom indent j :: prettyItems indent rest

def prettyMembers (indent : String) : List (String × Json) → List String
  | [] => []
  | m :: rest => prettyMember indent m :: prettyMembers indent rest

def prettyMember (indent : String) : String × Json → String
  | (key, value) => writeString writeChar key ++ ": " ++ prettyFrom indent value

end

/-- The value over several lines. -/
def pretty : Json → String := prettyFrom ""

end MachineClaims.Json
