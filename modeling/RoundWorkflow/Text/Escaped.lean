import RoundWorkflow.Text.Hidden

/-!
# Text shown in a message

A message shows a text between double quotes.  A quote and a backslash inside are
marked with a backslash, the common control characters have short names, and any
other character that does not show is written as its code point in braces.
-/

namespace RoundWorkflow.Text

/-- The hexadecimal digits of a number, in small letters and without leading zeros. -/
def hexNumeral (n : Nat) : List Char :=
  if n < 16 then [hexDigit n] else hexNumeral (n / 16) ++ [hexDigit (n % 16)]
where
  hexDigit (n : Nat) : Char := if n < 10 then Char.ofNat (48 + n) else Char.ofNat (87 + n)

/-- A character as it stands inside the quotes. -/
def showChar (c : Char) : List Char :=
  if c.toNat = 0 then ['\\', '0']
  else if c = '\t' then ['\\', 't']
  else if c = '\n' then ['\\', 'n']
  else if c = '\r' then ['\\', 'r']
  else if c = '"' then ['\\', '"']
  else if c = '\\' then ['\\', '\\']
  else if shows c then [c]
  else '\\' :: 'u' :: '{' :: (hexNumeral c.toNat ++ ['}'])

/-- A text between double quotes. -/
def shown (s : String) : String :=
  String.ofList ('"' :: (s.toList.flatMap showChar ++ ['"']))

end RoundWorkflow.Text
