set_option autoImplicit false

/-!
# Nesting of patterns

How deep a pattern is nested. A single symbol has no depth; a group, a repetition, a class, an
operation on classes, and any row of more than one part adds one to the depth of what is inside.

## Main definitions

* `Row`, `Row.depth` — parts that stand beside one another, and their depth together.
* `nestLimit` — the greatest depth of a pattern.
-/

namespace Pipework.Pattern

/-- The greatest depth of a pattern. -/
def nestLimit : Nat := 250

/-- Parts of a pattern that stand beside one another: how many they are, and the depth of the
deepest one. -/
structure Row where
  count : Nat
  deepest : Nat
  deriving DecidableEq

namespace Row

/-- No parts. -/
def empty : Row := ⟨0, 0⟩

/-- Adds a part of a depth. -/
def push (r : Row) (depth : Nat) : Row := ⟨r.count + 1, max r.deepest depth⟩

/-- Makes the last part deeper: it has a depth now. -/
def deepen (r : Row) (depth : Nat) : Row := { r with deepest := max r.deepest depth }

/-- The depth of the parts together. A part on its own is as deep as it is. -/
def depth (r : Row) : Nat := if r.count ≤ 1 then r.deepest else r.deepest + 1

end Row

end Pipework.Pattern
