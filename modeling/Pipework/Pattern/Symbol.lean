import Pipework.Pattern.Flags

set_option autoImplicit false

/-!
# Symbols of patterns

The smallest parts of a pattern: characters, which may be written as escapes, and the escapes for
kinds of characters and for places in the text.

There are no tables of characters behind a pattern. So in a pattern for characters nothing speaks of
digits, blanks and words, and no character is read without regard to letter case. A pattern for
bytes knows these of ASCII, but must not match what is no text.

## Main definitions

* `Symbol` — a symbol, and `Symbol.escape?`, which reads one after a backslash.
* `Flags.allows`, `Flags.allowsMember` — whether a symbol has a meaning in a pattern and in a class.
-/

namespace Pipework.Pattern

/-- A symbol. -/
inductive Symbol where
  /-- A character; `isByte` tells that it is written as the number of a byte. -/
  | char (c : Char) (isByte : Bool)
  /-- Any character. -/
  | any
  /-- The beginning or the end of the text or of a line. -/
  | edge
  /-- A place that depends on the beginning or the end of a word. -/
  | wordEdge
  /-- A digit, a blank or a part of a word, or anything else. -/
  | kind (negated : Bool)
  deriving DecidableEq

/-- Whether a symbol has a meaning outside of classes. -/
def Flags.allows (f : Flags) : Symbol → Bool
  | .char c isByte => if f.unicode then !f.ignoreCase else !isByte || c.toNat < 0x80
  | .any => f.unicode
  | .edge => true
  | .wordEdge => !f.unicode
  | .kind negated => !f.unicode && !negated

/-- Whether a symbol can be a member of a class. -/
def Flags.allowsMember (f : Flags) : Symbol → Bool
  | .char c _ => if f.unicode then !f.ignoreCase else c.toNat < 0x80
  | .kind negated => !f.unicode && !negated
  | _ => false

namespace Symbol

/-- The value of a hexadecimal digit. -/
def hexDigit? (c : Char) : Option Nat :=
  if c.isDigit then some (c.toNat - '0'.toNat)
  else if 'a' ≤ c && c ≤ 'f' then some (c.toNat - 'a'.toNat + 10)
  else if 'A' ≤ c && c ≤ 'F' then some (c.toNat - 'A'.toNat + 10)
  else none

/-- Reads `count` hexadecimal digits; `n` is the value of those before them. -/
def hexDigits? (f : Flags) (n : Nat) : (count : Nat) → List Char → Option (Nat × List Char)
  | 0, cs => some (n, cs)
  | count + 1, cs =>
    match f.skip cs with
    | c :: rest => do
      let d ← hexDigit? c
      hexDigits? f (n * 16 + d) count rest
    | [] => none

/-- Reads a character that is written with `count` hexadecimal digits; with two it is a byte. -/
def numbered? (f : Flags) (count : Nat) (cs : List Char) : Option (Symbol × List Char) := do
  let (n, rest) ← hexDigits? f 0 count cs
  if Nat.isValidChar n then some (.char (Char.ofNat n) (count = 2), rest) else none

/-- Reads what stands after a backslash. -/
def escape? (f : Flags) : List Char → Option (Symbol × List Char)
  | [] => none
  | 'x' :: rest => numbered? f 2 rest
  | 'u' :: rest => numbered? f 4 rest
  | 'U' :: rest => numbered? f 8 rest
  | 'a' :: rest => some (.char '\x07' false, rest)
  | 't' :: rest => some (.char '\t' false, rest)
  | 'n' :: rest => some (.char '\n' false, rest)
  | 'v' :: rest => some (.char '\x0B' false, rest)
  | 'f' :: rest => some (.char '\x0C' false, rest)
  | 'r' :: rest => some (.char '\r' false, rest)
  | c :: rest =>
    if c = 'A' || c = 'z' then some (.edge, rest)
    else if "bB<>".toList.contains c then some (.wordEdge, rest)
    else if "dsw".toList.contains c then some (.kind false, rest)
    else if "DSW".toList.contains c then some (.kind true, rest)
    else if c.toNat < 0x80 && !c.isAlphanum then some (.char c false, rest)
    else none

/-- Reads a symbol outside of classes. -/
def read? (f : Flags) : List Char → Option (Symbol × List Char)
  | [] => none
  | '\\' :: rest => escape? f rest
  | '.' :: rest => some (.any, rest)
  | '^' :: rest => some (.edge, rest)
  | '$' :: rest => some (.edge, rest)
  | c :: rest => some (.char c false, rest)

end Symbol

end Pipework.Pattern
