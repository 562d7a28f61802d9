set_option autoImplicit false

/-!
# Sets of characters

## Main definitions

* `Text.Ranges` — a set of characters as a list of ranges of code points.
* `Text.Ranges.contains` — membership.
-/

namespace Pipework.Text

/-- A set of characters, given by ranges of code points with both ends included. -/
abbrev Ranges := List (Nat × Nat)

/-- Whether a character is in the set. -/
def Ranges.contains (t : Ranges) (c : Char) : Bool :=
  t.any fun r => r.1 ≤ c.toNat && c.toNat ≤ r.2

end Pipework.Text
