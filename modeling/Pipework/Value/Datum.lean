import Pipework.Shape

set_option autoImplicit false

/-!
# Plain data

## Main definitions

* `Datum` — a number, truth value, text, token or optional value.
* `Datum.shape`, `Datum.render` — its type and its text.
-/

namespace Pipework

/-- Plain data. -/
inductive Datum where
  | u8 (n : UInt8)
  | u16 (n : UInt16)
  | u32 (n : UInt32)
  | u64 (n : UInt64)
  | i64 (n : Int64)
  | bool (b : Bool)
  | string (s : String)
  /-- A text that is part of the program. -/
  | str (s : String)
  | unit
  | optionU32 (n : Option UInt32)
  | optionString (s : Option String)
  | token (t : Token) (s : String)
  deriving DecidableEq

namespace Datum

/-- The type of plain data. -/
def atom : Datum → Atom
  | .u8 _ => .u8
  | .u16 _ => .u16
  | .u32 _ => .u32
  | .u64 _ => .u64
  | .i64 _ => .i64
  | .bool _ => .bool
  | .string _ => .string
  | .str _ => .str
  | .unit => .unit
  | .optionU32 _ => .optionU32
  | .optionString _ => .optionString
  | .token t _ => .token t

/-- The shape of plain data. -/
def shape (d : Datum) : Shape := .atom d.atom

/-- An optional value shows its content between parentheses. -/
def renderOption (s : Option String) : String :=
  match s with
  | some s => "some(" ++ s ++ ")"
  | none => "none"

/-- The text of plain data. -/
def render : Datum → String
  | .u8 n => toString n
  | .u16 n => toString n
  | .u32 n => toString n
  | .u64 n => toString n
  | .i64 n => toString n
  | .bool b => toString b
  | .string s => s
  | .str s => s
  | .unit => "()"
  | .optionU32 n => renderOption (n.map toString)
  | .optionString s => renderOption s
  | .token _ s => s

end Datum

end Pipework
