import MachineClaims.Text.Quoted.Escaped

/-!
# Quoted text

A text between double quotes on one line, as error messages show it. Quotes and backslashes get a
backslash, four controls have short forms, and the characters of the table `escapedRanges` are
written by their number in hexadecimal.
-/

namespace MachineClaims.Text

namespace Quoted

/-- Whether a character is written by its number. -/
def isEscaped (c : Char) : Bool :=
  if 0x20 ≤ c.toNat && c.toNat < 0x7F then false
  else (escapedRanges c.toNat).any fun r => r.1 ≤ c.toNat && c.toNat ≤ r.2

/-- How a character appears between the quotes. -/
def char (c : Char) : List Char :=
  if c = '"' then ['\\', '"']
  else if c = '\\' then ['\\', '\\']
  else if c = '\n' then ['\\', 'n']
  else if c = '\r' then ['\\', 'r']
  else if c = '\t' then ['\\', 't']
  else if c.toNat = 0 then ['\\', '0']
  else if isEscaped c then ['\\', 'u', '\x7b'] ++ Nat.toDigits 16 c.toNat ++ ['\x7d']
  else [c]

end Quoted

/-- The text between double quotes. -/
def quote (s : String) : String :=
  String.ofList ('"' :: s.toList.flatMap Quoted.char ++ ['"'])

end MachineClaims.Text
