set_option autoImplicit false

/-!
# Request identities

## Main definitions

* `RequestId` — a number of 128 bits.
* `RequestId.text` — its 32 hexadecimal digits in groups of 8, 4, 4, 4 and 12.
-/

namespace Pipework

/-- The identity of a request. -/
structure RequestId where
  bits : BitVec 128
  deriving DecidableEq

namespace RequestId

/-- All 32 hexadecimal digits. -/
def digits (id : RequestId) : List Char :=
  let ds := Nat.toDigits 16 id.bits.toNat
  List.replicate (32 - ds.length) '0' ++ ds

/-- Cuts a list into groups of the given sizes. -/
def groups : (sizes : List Nat) → List Char → List (List Char)
  | [], _ => []
  | n :: ns, cs => cs.take n :: groups ns (cs.drop n)

/-- The text of an identity. -/
def text (id : RequestId) : String :=
  String.intercalate "-" ((groups [8, 4, 4, 4, 12] id.digits).map String.ofList)

end RequestId

end Pipework
