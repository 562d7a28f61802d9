import Pipework.Text.Printable

set_option autoImplicit false

/-!
# Quoted text

A text between double quotes, with quotes, backslashes, line ends and all characters that cannot
be printed on their own written as escapes.

## Main definitions

* `Text.escape` — the written form of one character.
* `Text.quoted` — the written form of a text.
-/

namespace Pipework.Text

/-- Lower-case hexadecimal digits without leading zeros. -/
def hex (n : Nat) : String := String.ofList (Nat.toDigits 16 n)

/-- The written form of a character between double quotes. -/
def escape (c : Char) : String :=
  if c = '\x00' then "\\0"
  else if c = '\t' then "\\t"
  else if c = '\r' then "\\r"
  else if c = '\n' then "\\n"
  else if c = '"' then "\\\""
  else if c = '\\' then "\\\\"
  else if isPrintable c then c.toString
  else "\\u\x7b" ++ hex c.toNat ++ "\x7d"

/-- A text between double quotes. -/
def quoted (s : String) : String := "\"" ++ String.join (s.toList.map escape) ++ "\""

end Pipework.Text
