/-
How a diagnostic quotes a piece of text.

The text stands between double quotes. A quote or a backslash inside is escaped, the usual control
characters have their short escapes, and every character of `escapedRanges` is spelled by its code
point, so that a diagnostic shows what a reader could not see.
-/
import IdlLink.Text.CaseTable
import IdlLink.Text.EscapeTable

namespace IdlLink.Text

/-- The digits of a number in base sixteen, lower case. -/
def hexDigits (n : Nat) : List Char := Nat.toDigits 16 n

/-- One character as a quoted diagnostic spells it. -/
def quoteChar (c : Char) : List Char :=
  if c = '"' then ['\\', '"']
  else if c = '\\' then ['\\', '\\']
  else if c = '\n' then ['\\', 'n']
  else if c = '\r' then ['\\', 'r']
  else if c = '\t' then ['\\', 't']
  else if c.toNat = 0 then ['\\', '0']
  else if inRanges escapedRanges c.toNat then
    ['\\', 'u', '{'] ++ hexDigits c.toNat ++ ['}']
  else [c]

/-- A text between double quotes, as diagnostics show it. -/
def quote (s : String) : String :=
  String.ofList ('"' :: s.toList.flatMap quoteChar ++ ['"'])

end IdlLink.Text
