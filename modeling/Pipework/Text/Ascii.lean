set_option autoImplicit false

/-!
# Letters without accents

Upper and lower case of the twenty-six letters; every other character is left alone. Also the
comparison of texts that ignores their case, character by character.

## Main definitions

* `Ascii.lower`, `Ascii.upper` — the case maps on texts.
* `Ascii.sameLetter` — two characters are equal up to case.
-/

namespace Pipework.Ascii

/-- Lower-cases the letters `A` to `Z`. -/
def lower (s : String) : String := String.ofList (s.toList.map Char.toLower)

/-- Upper-cases the letters `a` to `z`. -/
def upper (s : String) : String := String.ofList (s.toList.map Char.toUpper)

/-- Equality of characters up to the case of `A` to `Z`. -/
def sameLetter (c d : Char) : Bool := c.toLower = d.toLower

/-- Equality of texts up to the case of `A` to `Z`. -/
def sameText : List Char → List Char → Bool
  | [], [] => true
  | c :: cs, d :: ds => sameLetter c d && sameText cs ds
  | _, _ => false

end Pipework.Ascii
