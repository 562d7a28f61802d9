set_option autoImplicit false

/-!
# Blanks

## Main definitions

* `Text.isBlank` — the character is white space.
* `Text.trim` — a list of characters without the blanks at its ends.
-/

namespace Pipework.Text

/-- Whether a character is white space, in any script. -/
def isBlank (c : Char) : Bool :=
  (0x09 ≤ c.val && c.val ≤ 0x0D) || c.val == 0x20 || c.val == 0x85 || c.val == 0xA0 ||
    c.val == 0x1680 || (0x2000 ≤ c.val && c.val ≤ 0x200A) || c.val == 0x2028 ||
    c.val == 0x2029 || c.val == 0x202F || c.val == 0x205F || c.val == 0x3000

/-- Leaves out the blanks at the end. -/
def trimEnd (l : List Char) : List Char := (l.reverse.dropWhile isBlank).reverse

/-- Leaves out the blanks at both ends. -/
def trim (l : List Char) : List Char := trimEnd (l.dropWhile isBlank)

end Pipework.Text
