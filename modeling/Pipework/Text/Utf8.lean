set_option autoImplicit false

/-!
# UTF-8

Reading bytes as text. A byte sequence is cut into characters and faults; a fault is the longest
run of bytes that starts like a character and cannot be continued to one.

## Main definitions

* `Utf8.encode` — the bytes of a text.
* `Utf8.decode` — the characters of a byte sequence, with `none` for each fault.
* `Utf8.strict?`, `Utf8.lossy` — the text without faults, and with each fault replaced.
-/

namespace Pipework

/-- A byte sequence. -/
abbrev Bytes := List UInt8

namespace Utf8

/-- The bytes of a text. -/
def encode (s : String) : Bytes := s.toUTF8.toList

/-- A byte inside a character. -/
def isTail (b : UInt8) : Bool := 0x80 ≤ b && b ≤ 0xBF

/-- Whether `b` may follow the leading byte `a` of a character of three or four bytes: the range
is narrowed where a longer form, a surrogate or a number above the last character would start. -/
def mayFollow (a b : UInt8) : Bool :=
  if a = 0xE0 then 0xA0 ≤ b && b ≤ 0xBF
  else if a = 0xED then 0x80 ≤ b && b ≤ 0x9F
  else if a = 0xF0 then 0x90 ≤ b && b ≤ 0xBF
  else if a = 0xF4 then 0x80 ≤ b && b ≤ 0x8F
  else isTail b

/-- How many bytes a character has, from its leading byte. -/
inductive Width where
  | one | two | three | four
  /-- No character starts with this byte. -/
  | never
  deriving DecidableEq, Repr

/-- The width announced by a leading byte. -/
def width (a : UInt8) : Width :=
  if a < 0x80 then .one
  else if 0xC2 ≤ a && a ≤ 0xDF then .two
  else if 0xE0 ≤ a && a ≤ 0xEF then .three
  else if 0xF0 ≤ a && a ≤ 0xF4 then .four
  else .never

/-- The six low bits of a tail byte. -/
def low (b : UInt8) : Nat := b.toNat % 64

/-- Cuts a byte sequence into characters and faults. -/
def decode : Bytes → List (Option Char)
  | [] => []
  | a :: rest =>
    match width a with
    | .one => some (Char.ofNat a.toNat) :: decode rest
    | .never => none :: decode rest
    | .two =>
      match rest with
      | b :: rest' =>
        if isTail b then some (Char.ofNat (a.toNat % 32 * 64 + low b)) :: decode rest'
        else none :: decode (b :: rest')
      | [] => [none]
    | .three =>
      match rest with
      | b :: rest' =>
        if mayFollow a b then
          match rest' with
          | c :: rest'' =>
            if isTail c then
              some (Char.ofNat ((a.toNat % 16 * 64 + low b) * 64 + low c)) :: decode rest''
            else none :: decode (c :: rest'')
          | [] => [none]
        else none :: decode (b :: rest')
      | [] => [none]
    | .four =>
      match rest with
      | b :: rest' =>
        if mayFollow a b then
          match rest' with
          | c :: rest'' =>
            if isTail c then
              match rest'' with
              | d :: rest''' =>
                if isTail d then
                  some (Char.ofNat (((a.toNat % 8 * 64 + low b) * 64 + low c) * 64 + low d)) ::
                    decode rest'''
                else none :: decode (d :: rest''')
              | [] => [none]
            else none :: decode (c :: rest'')
          | [] => [none]
        else none :: decode (b :: rest')
      | [] => [none]
termination_by l => l.length

/-- The text of a byte sequence without faults. -/
def strict? (l : Bytes) : Option String := ((decode l).mapM id).map String.ofList

/-- The text of a byte sequence with the replacement character for each fault. -/
def lossy (l : Bytes) : String := String.ofList ((decode l).map fun c => c.getD '\uFFFD')

end Utf8

end Pipework
