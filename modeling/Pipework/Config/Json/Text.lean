set_option autoImplicit false

/-!
# Texts in JSON

## Main definitions

* `Json.text?` — reads a text after its opening quote.
-/

namespace Pipework.Json

/-- The value of a hexadecimal digit. -/
def hexDigit? (c : Char) : Option Nat :=
  if c.isDigit then some (c.toNat - '0'.toNat)
  else if 'a' ≤ c && c ≤ 'f' then some (c.toNat - 'a'.toNat + 10)
  else if 'A' ≤ c && c ≤ 'F' then some (c.toNat - 'A'.toNat + 10)
  else none

/-- The value of four hexadecimal digits. -/
def quad? (a b c d : Char) : Option Nat := do
  let a ← hexDigit? a
  let b ← hexDigit? b
  let c ← hexDigit? c
  let d ← hexDigit? d
  return ((a * 16 + b) * 16 + c) * 16 + d

/-- The first half of a pair that stands for one character. -/
def isLead (n : Nat) : Bool := 0xD800 ≤ n && n ≤ 0xDBFF

/-- The second half of a pair that stands for one character. -/
def isTrail (n : Nat) : Bool := 0xDC00 ≤ n && n ≤ 0xDFFF

/-- The character after a backslash. -/
def escaped? (c : Char) : Option Char :=
  if c = '"' then some '"'
  else if c = '\\' then some '\\'
  else if c = '/' then some '/'
  else if c = 'b' then some '\x08'
  else if c = 'f' then some '\x0c'
  else if c = 'n' then some '\n'
  else if c = 'r' then some '\r'
  else if c = 't' then some '\t'
  else none

/-- Reads the rest of a text up to its closing quote. A control character has to be escaped, and
half of a pair cannot stand alone. -/
def chars? : List Char → Option (List Char × List Char)
  | [] => none
  | '"' :: rest => some ([], rest)
  | '\\' :: 'u' :: a :: b :: c :: d :: rest =>
    match quad? a b c d with
    | none => none
    | some n =>
      if isTrail n then none
      else if isLead n then
        match rest with
        | '\\' :: 'u' :: a' :: b' :: c' :: d' :: rest' =>
          match quad? a' b' c' d' with
          | none => none
          | some m =>
            if isTrail m then
              (chars? rest').map fun r =>
                (Char.ofNat (0x10000 + (n - 0xD800) * 1024 + (m - 0xDC00)) :: r.1, r.2)
            else none
        | _ => none
      else (chars? rest).map fun r => (Char.ofNat n :: r.1, r.2)
  | '\\' :: c :: rest =>
    match escaped? c with
    | some e => (chars? rest).map fun r => (e :: r.1, r.2)
    | none => none
  | c :: rest => if c.val < 0x20 then none else (chars? rest).map fun r => (c :: r.1, r.2)

/-- Reads a text after its opening quote. -/
def text? (cs : List Char) : Option (String × List Char) :=
  (chars? cs).map fun r => (String.ofList r.1, r.2)

end Pipework.Json
