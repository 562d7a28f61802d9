import Pipework.Pattern.Flags
import Pipework.Text.Alphanumeric

set_option autoImplicit false

/-!
# Groups of patterns

## Main definitions

* `Group.Opening` — what an opening parenthesis begins.
* `Group.read?` — reading what stands after it.
-/

namespace Pipework.Pattern.Group

/-- What an opening parenthesis begins. -/
inductive Opening where
  /-- A group inside which flags hold, perhaps with a name. -/
  | group (f : Flags) (name : Option (List Char))
  /-- Flags for the rest of the group around. -/
  | flags (f : Flags)

/-- Whether a character can begin the name of a group. -/
def beginsName (c : Char) : Bool := c = '_' || Text.isAlphabetic c

/-- Whether a character can stand in the name of a group. -/
def isNameChar (c : Char) : Bool :=
  c = '_' || c = '.' || c = '[' || c = ']' || Text.isAlphanumeric c

/-- Reads the name of a group up to its closing angle bracket. -/
def name? (cs : List Char) : Option (List Char × List Char) :=
  match cs.span (· ≠ '>') with
  | (c :: name, '>' :: rest) =>
    if beginsName c && name.all isNameChar then some (c :: name, rest) else none
  | _ => none

/-- Reads what stands after an opening parenthesis. -/
def read? (f : Flags) (cs : List Char) : Option (Opening × List Char) :=
  match f.skip cs with
  | '?' :: 'P' :: '<' :: rest => (name? rest).map fun r => (.group f (some r.1), r.2)
  | '?' :: '<' :: rest => (name? rest).map fun r => (.group f (some r.1), r.2)
  | '?' :: rest =>
    (f.read? [] rest).map fun
      | (g, .colon, rest) => (.group g none, rest)
      | (g, .parenthesis, rest) => (.flags g, rest)
  | rest => some (.group f none, rest)

end Pipework.Pattern.Group
