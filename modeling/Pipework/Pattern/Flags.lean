import Pipework.Text.Blank

set_option autoImplicit false

/-!
# Flags of patterns

A flag holds from the place where it is set to the end of the group around it, or inside one group.
Of all flags only three matter for whether a pattern can be read: letter case, characters or bytes,
and whether blanks count.

## Main definitions

* `Flags` — the flags that hold at a place of a pattern.
* `Flags.skip` — what remains after blanks and remarks that count for nothing.
* `Flags.read?` — reading the flags at the beginning of a group.
-/

namespace Pipework.Pattern

/-- The flags that hold at a place of a pattern. -/
structure Flags where
  /-- Letter case does not matter. -/
  ignoreCase : Bool
  /-- The pattern speaks of characters, and otherwise of bytes. -/
  unicode : Bool
  /-- Blanks and remarks count for nothing. -/
  spaced : Bool
  deriving DecidableEq

namespace Flags

/-- The flags at the beginning of a pattern. -/
def initial : Flags := ⟨false, true, false⟩

/-! ## Blanks and remarks -/

/-- Leaves out blanks and remarks, which go from `#` to the end of the line. -/
def dropBlanks (inRemark : Bool) : List Char → List Char
  | [] => []
  | c :: cs =>
    if inRemark then dropBlanks (c ≠ '\n') cs
    else if Text.isBlank c then dropBlanks false cs
    else if c = '#' then dropBlanks true cs
    else c :: cs

/-- Leaves out blanks and remarks where they count for nothing. -/
def skip (f : Flags) (cs : List Char) : List Char := if f.spaced then dropBlanks false cs else cs

/-- The character that decides whether the dash before it makes a range. Where blanks count for
nothing it is the first one after blanks and one `#`, even inside a remark. -/
def peek (f : Flags) (cs : List Char) : Option Char :=
  if f.spaced then
    match cs.dropWhile Text.isBlank with
    | '#' :: rest => (rest.dropWhile Text.isBlank).head?
    | rest => rest.head?
  else cs.head?

/-! ## Setting flags -/

/-- Sets the flag of a letter, if there is one. -/
def set? (f : Flags) (c : Char) (on : Bool) : Option Flags :=
  if c = 'i' then some { f with ignoreCase := on }
  else if c = 'u' then some { f with unicode := on }
  else if c = 'x' then some { f with spaced := on }
  else if "msUR".toList.contains c then some f
  else none

/-- How the flags at the beginning of a group end. -/
inductive Ending where
  /-- With a colon: they hold inside the group. -/
  | colon
  /-- With the group: they hold for the rest of the group around. -/
  | parenthesis
  deriving DecidableEq

/-- Reads flags; `seen` holds the letters and the dash before, the last one first. A flag and the
dash may stand there only once, and the dash not at the end. -/
def read? (f : Flags) (seen : List Char) : List Char → Option (Flags × Ending × List Char)
  | [] => none
  | c :: rest =>
    if c = ':' then if seen.head? = some '-' then none else some (f, .colon, rest)
    else if c = ')' then
      if seen = [] || seen.head? = some '-' then none else some (f, .parenthesis, rest)
    else if seen.contains c then none
    else if c = '-' then read? f (c :: seen) rest
    else
      match f.set? c (!seen.contains '-') with
      | some g => read? g (c :: seen) rest
      | none => none

end Flags

end Pipework.Pattern
