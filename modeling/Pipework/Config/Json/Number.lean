import Pipework.Config.Document
import Pipework.Decimal.Shortest

set_option autoImplicit false

/-!
# Numbers in JSON

A number without fraction and exponent is an integer if it fits into 64 bits. Every other number
becomes a magnitude in two steps: its digits, as far as they fit into 64 bits, are rounded, and the
result is multiplied or divided by a power of ten and rounded again.

## Main definitions

* `Json.number?` — reads a number at the beginning of a text.
-/

namespace Pipework.Json

open Decimal (Magnitude)

/-- The value of a decimal digit. -/
def digit? (c : Char) : Option Nat := if c.isDigit then some (c.toNat - '0'.toNat) else none

/-- The greatest number of 64 bits. -/
def maxWord : Nat := Nat.pow 2 64 - 1

/-- The greatest exponent that is written out. -/
def maxWrittenExponent : Nat := Nat.pow 2 31 - 1

/-- Digits that have been read: their value and how many more digits the number has than those
counted in the value. -/
structure Significand where
  value : Nat
  /-- The power of ten that the value is multiplied by. -/
  shift : Int
  /-- Whether a digit has been left out; then all later ones are, too. -/
  full : Bool

/-- Reads digits before the point. A digit that does not fit is left out and counted. -/
def wholeDigits (s : Significand) : List Char → Significand × List Char
  | c :: rest =>
    match digit? c with
    | some d =>
      if s.full || maxWord < s.value * 10 + d then
        wholeDigits { s with shift := s.shift + 1, full := true } rest
      else wholeDigits { s with value := s.value * 10 + d } rest
    | none => (s, c :: rest)
  | [] => (s, [])

/-- Reads digits after the point. A digit that does not fit is left out, with all that follow. -/
def fractionDigits (s : Significand) (full : Bool) : List Char → Significand × List Char
  | c :: rest =>
    match digit? c with
    | some d =>
      if full || maxWord < s.value * 10 + d then fractionDigits s true rest
      else fractionDigits { s with value := s.value * 10 + d, shift := s.shift - 1 } false rest
    | none => (s, c :: rest)
  | [] => (s, [])

/-- Divides by `10 ^ n`, by `10 ^ 308` at a time. -/
def dividePower (a : Magnitude) (n : Nat) : Option Magnitude :=
  if a.mantissa = 0 then some .zero
  else if n ≤ 308 then do
    let p ← Decimal.ofDecimal 1 n
    a.dividedBy p
  else do
    let p ← Decimal.ofDecimal 1 308
    let b ← a.dividedBy p
    dividePower b (n - 308)
termination_by n

/-- The magnitude of digits and an exponent; `none` if it is too great. -/
def magnitude? (value : Nat) (exponent : Int) : Option Magnitude := do
  let a ← Decimal.nearest value 1
  if exponent < 0 then dividePower a (-exponent).toNat
  else if 308 < exponent then (if value = 0 then some .zero else none)
  else do
    let p ← Decimal.ofDecimal 1 exponent
    a.times p

/-- The text of a magnitude with a sign. -/
def floatText (negative : Bool) (a : Magnitude) : String :=
  (if negative then "-" else "") ++ (a.shortest .toEven).compact

/-- A number with a fraction or an exponent. -/
def float? (negative : Bool) (value : Nat) (exponent : Int) : Option Node :=
  (magnitude? value exponent).map fun a => .float (floatText negative a)

/-- Reads an exponent after its letter: its sign and its value. -/
def exponent? (cs : List Char) : Option (Bool × Nat × List Char) :=
  let (negative, cs) := match cs with
    | '+' :: rest => (false, rest)
    | '-' :: rest => (true, rest)
    | _ => (false, cs)
  let digits := cs.takeWhile Char.isDigit
  if digits.isEmpty then none
  else some (negative, digits.foldl (fun n c => n * 10 + (c.toNat - '0'.toNat)) 0,
    cs.dropWhile Char.isDigit)

/-- Reads what follows the letter of an exponent. An exponent that is too great to be written out
leaves zero or is refused. -/
def scaled? (negative : Bool) (s : Significand) (cs : List Char) : Option (Node × List Char) := do
  let (down, n, rest) ← exponent? cs
  if maxWrittenExponent < n then
    if s.value ≠ 0 && !down then none
    else return (.float (floatText negative .zero), rest)
  else
    let node ← float? negative s.value (if down then s.shift - n else s.shift + n)
    return (node, rest)

/-- Reads what follows the digits before the point. -/
def afterWhole? (negative : Bool) (s : Significand) (cs : List Char) : Option (Node × List Char) :=
  match cs with
  | '.' :: rest =>
    if !(rest.head?.any Char.isDigit) then none
    else
      let (s, rest') := fractionDigits s false rest
      match rest' with
      | 'e' :: r => scaled? negative s r
      | 'E' :: r => scaled? negative s r
      | _ => (float? negative s.value s.shift).map fun n => (n, rest')
  | 'e' :: r => scaled? negative s r
  | 'E' :: r => scaled? negative s r
  | _ =>
    if s.full then (float? negative s.value s.shift).map fun n => (n, cs)
    else if !negative then some (.int s.value, cs)
    else if s.value = 0 || Nat.pow 2 63 < s.value then
      (float? negative s.value 0).map fun n => (n, cs)
    else some (.int (-s.value), cs)

/-- Reads a number at the beginning of a text. A number of several digits does not begin with a
zero. -/
def number? (cs : List Char) : Option (Node × List Char) :=
  let (negative, cs) := match cs with
    | '-' :: rest => (true, rest)
    | _ => (false, cs)
  match cs with
  | '0' :: rest =>
    if rest.head?.any Char.isDigit then none else afterWhole? negative ⟨0, 0, false⟩ rest
  | c :: _ =>
    if c.isDigit then
      let (s, rest) := wholeDigits ⟨0, 0, false⟩ cs
      afterWhole? negative s rest
    else none
  | [] => none

end Pipework.Json
