import Pipework.Decimal.Nearest

set_option autoImplicit false

/-!
# The shortest decimal that names a number

Every magnitude is nearest for an interval of reals, whose ends belong to it if the mantissa is
even. Among the decimals in the interval those with the fewest digits are taken, and of these the
one nearest to the number.

## Main definitions

* `Decimal.Digits` — the number `digits * 10 ^ exponent`.
* `Decimal.Magnitude.names` — whether a decimal lies in the interval of a magnitude.
* `Decimal.Magnitude.shortest` — the shortest decimal of a magnitude.
* `Decimal.Digits.positional`, `Decimal.Digits.compact` — two ways to write it.
-/

namespace Pipework.Decimal

/-- The number `digits * 10 ^ exponent`. -/
structure Digits where
  digits : Nat
  exponent : Int
  deriving DecidableEq, Repr

/-- Which of two equally near decimals is taken. -/
inductive Tie where
  | up | toEven
  deriving DecidableEq, Repr

namespace Digits

/-- The numerator of a decimal. -/
def num (d : Digits) : Nat :=
  if 0 ≤ d.exponent then d.digits * Nat.pow 10 d.exponent.toNat else d.digits

/-- The denominator of a decimal. -/
def den (d : Digits) : Nat := if 0 ≤ d.exponent then 1 else Nat.pow 10 (-d.exponent).toNat

end Digits

namespace Magnitude

/-- Whether `d` lies in the interval of the reals for which `a` is the nearest magnitude. Below a
power of two the interval is half as wide. -/
def names (a : Magnitude) (d : Digits) : Bool :=
  let narrow := a.mantissa = Nat.pow 2 52 && minExponent < a.exponent
  -- All numbers are multiplied by four times the denominators of `a` and of `d`.
  let value := 4 * a.num * d.den
  let unit := if 0 ≤ a.exponent then Nat.pow 2 a.exponent.toNat else 1
  let above := value + 2 * unit * d.den
  let below := value - (if narrow then 1 else 2) * unit * d.den
  let x := 4 * d.num * a.den
  if a.mantissa % 2 = 0 then below ≤ x && x ≤ above else below < x && x < above

/-- The least `k` from `start` on with `a < 10 ^ k`, searched for `fuel` steps. -/
def scaleFrom (a : Magnitude) (start : Int) : (fuel : Nat) → Int
  | 0 => start
  | fuel + 1 =>
    let p : Digits := ⟨1, start⟩
    if a.num * p.den < p.num * a.den then start else scaleFrom a (start + 1) fuel

/-- The least `k` with `a < 10 ^ k`. -/
def scale (a : Magnitude) : Int :=
  let l : Int := (Nat.log2 a.num : Int) - Nat.log2 a.den - 1
  a.scaleFrom (l * 3 / 10 - 32) 110

/-- The greatest multiple of `10 ^ k` that is not greater than `a`. -/
def floorAt (a : Magnitude) (k : Int) : Digits :=
  let unit : Digits := ⟨1, k⟩
  ⟨a.num * unit.den / (a.den * unit.num), k⟩

/-- The nearer of two neighbouring decimals `lo` and `hi`. -/
def nearer (a : Magnitude) (tie : Tie) (lo hi : Digits) : Digits :=
  let middle := (lo.num + hi.num) * a.den
  let value := 2 * a.num * lo.den
  if value < middle then lo
  else if middle < value then hi
  else match tie with
    | .up => hi
    | .toEven => if lo.digits % 2 = 0 then lo else hi

/-- The decimal with the fewest digits, from `n` digits on, that names `a`. -/
def shortestFrom (a : Magnitude) (tie : Tie) (k : Int) (n : Nat) : (fuel : Nat) → Digits
  | 0 => a.floorAt minExponent
  | fuel + 1 =>
    let lo := a.floorAt (k - n)
    let hi : Digits := ⟨lo.digits + 1, lo.exponent⟩
    match a.names lo, a.names hi with
    | true, true => a.nearer tie lo hi
    | true, false => lo
    | false, true => hi
    | false, false => shortestFrom a tie k (n + 1) fuel

end Magnitude

/-- Moves the zeros at the end of the digits into the exponent. -/
def Digits.strip (d : Digits) : (fuel : Nat) → Digits
  | 0 => d
  | fuel + 1 =>
    if d.digits ≠ 0 && d.digits % 10 = 0 then strip ⟨d.digits / 10, d.exponent + 1⟩ fuel else d

/-- The shortest decimal of a magnitude. -/
def Magnitude.shortest (a : Magnitude) (tie : Tie) : Digits :=
  if a.mantissa = 0 then ⟨0, 0⟩ else (a.shortestFrom tie a.scale 1 17).strip 400

namespace Digits

/-- So many zeros. -/
def zeros (n : Nat) : String := String.ofList (List.replicate n '0')

/-- The digits with a point after the first `k` of them, padded with zeros on either side; at least
one digit follows the point. -/
def positional (d : Digits) : String :=
  let text := toString d.digits
  let point : Int := text.length + d.exponent
  if 0 ≤ d.exponent then text ++ zeros d.exponent.toNat ++ ".0"
  else if 0 < point then
    String.ofList (text.toList.take point.toNat) ++ "." ++
      String.ofList (text.toList.drop point.toNat)
  else "0." ++ zeros (-point).toNat ++ text

/-- Positional from `10 ^ -5` up to `10 ^ 16`, otherwise with one digit before the point and an
exponent, which always has a sign. -/
def compact (d : Digits) : String :=
  let text := toString d.digits
  let point : Int := text.length + d.exponent
  if d.digits = 0 || (-5 < point && point ≤ 16) then d.positional
  else
    let rest := String.ofList (text.toList.drop 1)
    String.ofList (text.toList.take 1) ++ (if rest.isEmpty then "" else "." ++ rest) ++
      (if point < 1 then "e-" else "e+") ++ toString (point - 1).natAbs

end Digits

end Pipework.Decimal
