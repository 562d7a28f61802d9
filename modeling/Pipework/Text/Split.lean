set_option autoImplicit false

/-!
# Cutting texts

## Main definitions

* `Text.pieces` — the parts of a list of characters between separators.
-/

namespace Pipework.Text

/-- The parts between the characters equal to `sep`; there is always one more part than
separators. -/
def pieces (sep : Char) : List Char → List (List Char)
  | [] => [[]]
  | c :: rest =>
    if c = sep then [] :: pieces sep rest
    else
      match pieces sep rest with
      | [] => [[c]]
      | w :: ws => (c :: w) :: ws

end Pipework.Text
