import Pipework.Text.Quoted

set_option autoImplicit false

/-!
# Documents

What a configuration text says, before it is compared with the settings there are. A document of a
format that is read from left to right may break off; what stands before the break is kept, since a
fault of the contents before the break is reported rather than the break.

## Main definitions

* `Node` — a value in a document.
* `Node.describe` — the words for a value where another one was expected.
* `Mismatch` — what is wrong with a document, with the text of each cause in `Mismatch.message`.
-/

namespace Pipework

/-- A value in a document. -/
inductive Node where
  | null
  | bool (b : Bool)
  | int (n : Int)
  /-- A number with a fraction or an exponent, by its shortest text. -/
  | float (text : String)
  | str (s : String)
  /-- A date, a time or both, by its text. -/
  | moment (text : String)
  /-- The elements, and whether the end of the sequence was reached. -/
  | seq (items : List Node) (complete : Bool)
  /-- The members, and whether the end of the table was reached. -/
  | table (members : List (String × Node)) (complete : Bool)
  /-- The text breaks off before the value ends. -/
  | broken

instance : Inhabited Node := ⟨.null⟩

/-- The words for a value where another one was expected. -/
def Node.describe : Node → String
  | .null => "null"
  | .bool b => s!"boolean `{b}`"
  | .int n => s!"integer `{n}`"
  | .float text => s!"floating point `{text}`"
  | .str s => "string " ++ Text.quoted s
  | .moment _ => "map"
  | .seq .. => "sequence"
  | .table .. => "map"
  | .broken => "nothing"

/-- What is wrong with a document. -/
inductive Mismatch where
  /-- The text does not follow the rules of its format. -/
  | malformed
  | wrongType (found expected : String)
  | unknownField (name : String) (known : List String)
  | duplicateField (name : String)
  | unknownVariant (name : String) (known : List String)
  deriving DecidableEq

namespace Mismatch

/-- Names between backticks. -/
def ticked (s : String) : String := "`" ++ s ++ "`"

/-- The words for what could have stood in a place. -/
def oneOf : List String → String
  | [] => "there are no fields"
  | [a] => "expected " ++ ticked a
  | [a, b] => s!"expected {ticked a} or {ticked b}"
  | l => "expected one of " ++ String.intercalate ", " (l.map ticked)

/-- The text of a cause; there is none for a text that does not follow its format. -/
def message : Mismatch → Option String
  | .malformed => none
  | .wrongType found expected => some s!"invalid type: {found}, expected {expected}"
  | .unknownField name known => some s!"unknown field {ticked name}, {oneOf known}"
  | .duplicateField name => some s!"duplicate field {ticked name}"
  | .unknownVariant name known => some s!"unknown variant {ticked name}, {oneOf known}"

end Mismatch

end Pipework
