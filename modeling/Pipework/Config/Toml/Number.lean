import Pipework.Config.Document
import Pipework.Config.Json.Text
import Pipework.Decimal.Shortest

set_option autoImplicit false

/-!
# Numbers in TOML

Integers of 64 bits in four bases, and numbers with a fraction or an exponent. Single underscores
can stand between digits.

## Main definitions

* `Toml.number?` — reads a number at the beginning of a text.
-/

namespace Pipework.Toml

/-- Reads digits of a base with single underscores between them; the underscores are left out.
`after` tells whether a digit stands right before. -/
def digits (isDigit : Char → Bool) (after : Bool) : List Char → Option (List Char × List Char)
  | [] => if after then some ([], []) else none
  | c :: rest =>
    if isDigit c then (digits isDigit true rest).map fun r => (c :: r.1, r.2)
    else if c = '_' && after then digits isDigit false rest
    else if after then some ([], c :: rest)
    else none

/-- The number with these digits. -/
def ofDigits (base : Nat) (ds : List Char) : Nat :=
  ds.foldl (fun n c => n * base + (Json.hexDigit? c).getD 0) 0

/-- The greatest integer. -/
def maxInteger : Nat := Nat.pow 2 63 - 1

/-- A number as an integer, if it is not too great. -/
def integer? (negative : Bool) (n : Nat) : Option Node :=
  if negative then (if n ≤ maxInteger + 1 then some (.int (-n)) else none)
  else if n ≤ maxInteger then some (.int n) else none

/-- Reads the digits of a base after its mark. -/
def based? (base : Nat) (isDigit : Char → Bool) (cs : List Char) : Option (Node × List Char) := do
  let (ds, rest) ← digits isDigit false cs
  let n ← integer? false (ofDigits base ds)
  return (n, rest)

/-- Reads the digits before the point: a zero, or digits that do not begin with one. -/
def whole? : List Char → Option (List Char × List Char)
  | '0' :: rest => some (['0'], rest)
  | cs => digits Char.isDigit false cs

/-- Reads a fraction with its point, if there is one. -/
def fraction? : List Char → Option (List Char × List Char)
  | '.' :: rest => digits Char.isDigit false rest
  | cs => some ([], cs)

/-- Reads an exponent with its letter, if there is one. -/
def exponent? (cs : List Char) : Option (Int × List Char) :=
  let signed (rest : List Char) : Option (Int × List Char) :=
    match rest with
    | '-' :: rest => (digits Char.isDigit false rest).map fun r => (-(ofDigits 10 r.1 : Int), r.2)
    | '+' :: rest => (digits Char.isDigit false rest).map fun r => ((ofDigits 10 r.1 : Int), r.2)
    | _ => (digits Char.isDigit false rest).map fun r => ((ofDigits 10 r.1 : Int), r.2)
  match cs with
  | 'e' :: rest => signed rest
  | 'E' :: rest => signed rest
  | _ => some (0, cs)

/-- Exponents beyond this one lead to zero or to no number at all. -/
def maxExponent : Int := 20000

/-- The magnitude of `digits * 10 ^ exponent`; `none` if it is too great. A number with very many
digits is cut where no digit matters any more. -/
def magnitude? (ds : List Char) (exponent : Int) : Option Decimal.Magnitude :=
  let value := ofDigits 10 ds
  let point := (toString value).length + exponent
  if value = 0 || point < -maxExponent then some .zero
  else if maxExponent < point then none
  else Decimal.ofDecimal value exponent

/-- The text of a number with a sign. -/
def floatText (negative : Bool) (a : Decimal.Magnitude) : String :=
  (if negative then "-" else "") ++ (a.shortest .up).positional

/-- A number with a fraction or an exponent. One that is too great is refused if it is positive and
is infinite if it is negative. -/
def float? (negative : Bool) (ds : List Char) (exponent : Int) : Option Node :=
  match magnitude? ds exponent with
  | some a => some (.float (floatText negative a))
  | none => if negative then some (.float "-inf") else none

/-- Reads a number after its sign. -/
def unsigned? (negative : Bool) (cs : List Char) : Option (Node × List Char) :=
  match cs with
  | 'i' :: 'n' :: 'f' :: rest => some (.float (if negative then "-inf" else "inf"), rest)
  | 'n' :: 'a' :: 'n' :: rest => some (.float "NaN", rest)
  | _ => do
    let (ds, rest) ← whole? cs
    let (fs, rest') ← fraction? rest
    let (e, rest'') ← exponent? rest'
    if rest''.length = rest.length then
      let n ← integer? negative (ofDigits 10 ds)
      return (n, rest)
    else
      let n ← float? negative (ds ++ fs) (e - fs.length)
      return (n, rest'')

/-- Reads a number. -/
def number? (cs : List Char) : Option (Node × List Char) :=
  match cs with
  | '0' :: 'x' :: rest => based? 16 (fun c => (Json.hexDigit? c).isSome) rest
  | '0' :: 'o' :: rest => based? 8 (fun c => '0' ≤ c && c ≤ '7') rest
  | '0' :: 'b' :: rest => based? 2 (fun c => c = '0' || c = '1') rest
  | '-' :: rest => unsigned? true rest
  | '+' :: rest => unsigned? false rest
  | _ => unsigned? false cs

end Pipework.Toml
