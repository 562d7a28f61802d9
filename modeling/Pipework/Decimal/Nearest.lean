set_option autoImplicit false

/-!
# Numbers with 53 binary digits

The numbers `mantissa * 2 ^ exponent` with a mantissa below `2 ^ 53` and an exponent from -1074
to 971, and the one among them that is nearest to a quotient. Signs are kept elsewhere.

## Main definitions

* `Decimal.Magnitude` — such a number.
* `Decimal.nearest` — the magnitude nearest to a quotient, of two the one with an even mantissa.
* `Decimal.Magnitude.times`, `Decimal.Magnitude.dividedBy` — product and quotient, rounded.
-/

namespace Pipework.Decimal

/-- The number `mantissa * 2 ^ exponent`. -/
structure Magnitude where
  mantissa : Nat
  exponent : Int
  deriving DecidableEq, Repr

/-- The exponent of the smallest magnitudes. -/
def minExponent : Int := -1074

/-- The exponent of the greatest magnitudes. -/
def maxExponent : Int := 971

/-- The numerator and the denominator of `num / den / 2 ^ e`. -/
def scaled (num den : Nat) (e : Int) : Nat × Nat :=
  if 0 ≤ e then (num, den * Nat.pow 2 e.toNat) else (num * Nat.pow 2 (-e).toNat, den)

/-- The natural number nearest to a quotient, of two the even one. -/
def roundHalfEven (num den : Nat) : Nat :=
  let q := num / den
  let r := 2 * (num % den)
  if r < den then q
  else if den < r then q + 1
  else if q % 2 = 0 then q else q + 1

/-- The exponent at which the quotient has a mantissa of 53 binary digits, or the smallest one. -/
def fittingExponent (num den : Nat) : Int :=
  let e := max ((Nat.log2 num : Int) - Nat.log2 den - 53) minExponent
  let (n, d) := scaled num den e
  if Nat.pow 2 53 * d ≤ n then e + 1 else e

/-- The magnitude nearest to a quotient; `none` if it would be too great. -/
def nearest (num den : Nat) : Option Magnitude :=
  if num = 0 then some ⟨0, minExponent⟩
  else
    let e := fittingExponent num den
    let (n, d) := scaled num den e
    let m := roundHalfEven n d
    let (m, e) := if m = Nat.pow 2 53 then (Nat.pow 2 52, e + 1) else (m, e)
    if maxExponent < e then none else some ⟨m, e⟩

namespace Magnitude

/-- Zero. -/
def zero : Magnitude := ⟨0, minExponent⟩

/-- The numerator of a magnitude. -/
def num (a : Magnitude) : Nat :=
  if 0 ≤ a.exponent then a.mantissa * Nat.pow 2 a.exponent.toNat else a.mantissa

/-- The denominator of a magnitude. -/
def den (a : Magnitude) : Nat := if 0 ≤ a.exponent then 1 else Nat.pow 2 (-a.exponent).toNat

/-- The product, rounded. -/
def times (a b : Magnitude) : Option Magnitude := nearest (a.num * b.num) (a.den * b.den)

/-- The quotient, rounded. -/
def dividedBy (a b : Magnitude) : Option Magnitude := nearest (a.num * b.den) (a.den * b.num)

end Magnitude

/-- The magnitude nearest to `digits * 10 ^ exponent`. -/
def ofDecimal (digits : Nat) (exponent : Int) : Option Magnitude :=
  if 0 ≤ exponent then nearest (digits * Nat.pow 10 exponent.toNat) 1
  else nearest digits (Nat.pow 10 (-exponent).toNat)

end Pipework.Decimal
