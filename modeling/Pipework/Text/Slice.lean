import Pipework.Text.Utf8

set_option autoImplicit false

/-!
# Slices

Cutting the bytes of a text in two. A text can be cut in front of a byte with which a character
starts, and at its end; a cut inside a character is a fault. Also the comparison of byte sequences
that ignores the case of the letters `A` to `Z`.

## Main definitions

* `Utf8.isBoundary` — the offsets at which a text can be cut.
* `Utf8.front?`, `Utf8.back` — the bytes in front of an offset and behind it.
* `Utf8.sameBytes` — equality up to the case of `A` to `Z`, byte by byte.
-/

namespace Pipework.Utf8

/-- Whether a text can be cut at a byte offset. -/
def isBoundary (l : Bytes) (n : Nat) : Bool :=
  n = 0 ||
    match l[n]? with
    | some b => !isTail b
    | none => n = l.length

/-- The bytes in front of an offset, if the text can be cut there. -/
def front? (l : Bytes) (n : Nat) : Option Bytes :=
  if isBoundary l n then some (l.take n) else none

/-- A cut at an offset at which the text cannot be cut. -/
structure BadCut where
  offset : Nat
  deriving DecidableEq, Repr

/-- The bytes behind an offset. It is a fault to ask for them where the text cannot be cut. -/
def back (l : Bytes) (n : Nat) : Except BadCut Bytes :=
  if isBoundary l n then .ok (l.drop n) else .error ⟨n⟩

/-- Lower-cases the bytes of the letters `A` to `Z`. -/
def lowerByte (b : UInt8) : UInt8 := if 0x41 ≤ b && b ≤ 0x5A then b + 0x20 else b

/-- Equality of byte sequences up to the case of `A` to `Z`. -/
def sameBytes (l m : Bytes) : Bool := l.map lowerByte = m.map lowerByte

end Pipework.Utf8
