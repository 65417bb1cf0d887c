import QueryLint.Text.Printable

/-!
# Quoted texts

A text that a message quotes is written between double quotes, on one line and without any
character that could be taken for another: quotes and backslashes get a backslash, the usual
controls their letter, and every other character without a shape of its own its code point
between braces, in hexadecimal.

* `quoted`: a text in quotes.
-/

namespace QueryLint.Text

/-- The digits of a number in lower case hexadecimal. -/
def hexDigits (n : Nat) : List Char := Nat.toDigits 16 n

/-- How one character is written inside quotes. -/
def quotedChar (c : Char) : List Char :=
  if c == '"' || c == '\\' then ['\\', c]
  else if c == '\n' then ['\\', 'n']
  else if c == '\r' then ['\\', 'r']
  else if c == '\t' then ['\\', 't']
  else if c.toNat == 0 then ['\\', '0']
  else if isPrintable c then [c]
  else ['\\', 'u', '\x7b'] ++ hexDigits c.toNat ++ ['\x7d']

/-- A text between double quotes. -/
def quoted (s : String) : String :=
  "\"" ++ String.ofList (s.toList.flatMap quotedChar) ++ "\""

end QueryLint.Text
