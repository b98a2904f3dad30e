/-
DiagramGraph.Number.Binary64 — binary floating-point numbers of 64
bits, as exact values.

A finite number is `± mantissa · 2 ^ exponent` in its one normal form:
the mantissa has 53 bits, or the exponent is the least one. Keeping the
two integers instead of machine bits makes every question about a
number (is it zero, does it equal an integer, which decimal is nearest)
one of exact arithmetic.
-/

namespace DiagramGraph.Number

/-- A floating-point number of 64 bits. -/
inductive Binary64
  | nan
  | infinite (negative : Bool)
  | finite (negative : Bool) (mantissa : Nat) (exponent : Int)
  deriving DecidableEq, Repr

namespace Binary64

/-! ## §1 Rounding -/

/-- A power of two. -/
def pow2 (n : Nat) : Nat := Nat.pow 2 n

/-- A power of ten. -/
def pow10 (n : Nat) : Nat := Nat.pow 10 n

/-- The least exponent of a finite number. -/
def minExponent : Int := -1074

/-- The greatest exponent of a finite number. -/
def maxExponent : Int := 971

/-- `num / den` rounded to the nearest integer, a half to the even one. -/
def roundDiv (num den : Nat) : Nat :=
  let q := num / den
  let twice := 2 * (num % den)
  if twice > den || (twice == den && q % 2 == 1) then q + 1 else q

/-- `num / den` divided by `2 ^ e`, as a numerator and a denominator. -/
def scale (num den : Nat) (e : Int) : Nat × Nat :=
  if e ≥ 0 then (num, den * pow2 e.toNat) else (num * pow2 (-e).toNat, den)

/-- The number nearest to `± num / den`; a tie goes to the even mantissa,
and what exceeds the greatest number is infinite. -/
def ofRatio (negative : Bool) (num den : Nat) : Binary64 :=
  if num = 0 then finite negative 0 minExponent
  else
    let guess : Int := (Nat.log2 num : Int) - Nat.log2 den - 53
    let (n₀, d₀) := scale num den guess
    let e := max (if n₀ / d₀ ≥ pow2 53 then guess + 1 else guess) minExponent
    let (n, d) := scale num den e
    let m := roundDiv n d
    let (m, e) := if m = pow2 53 then (pow2 52, e + 1) else (m, e)
    if e > maxExponent then infinite negative else finite negative m e

/-- The number nearest to `± digits · 10 ^ exponent`. Exponents far
outside the range are answered without computing the power. -/
def ofDecimal (negative : Bool) (digits : Nat) (exponent : Int) : Binary64 :=
  let magnitude : Int := (Nat.toDigits 10 digits).length + exponent
  if digits = 0 || magnitude < -330 then finite negative 0 minExponent
  else if magnitude > 310 then infinite negative
  else if exponent ≥ 0 then ofRatio negative (digits * pow10 exponent.toNat) 1
  else ofRatio negative digits (pow10 (-exponent).toNat)

/-! ## §2 Comparison -/

/-- Is the number zero, of either sign? -/
def isZero : Binary64 → Bool
  | finite _ m _ => m = 0
  | _ => false

/-- Does the number equal the integer? -/
def equalsInt (x : Binary64) (n : Int) : Bool :=
  match x with
  | finite negative m e =>
    let (num, den) := scale n.natAbs 1 e
    if n = 0 then m = 0 else num = m * den && decide (n < 0) = negative
  | _ => false

/-- Are the numbers equal? The two zeros are, and a NaN equals nothing. -/
def equals : Binary64 → Binary64 → Bool
  | nan, _ => false
  | _, nan => false
  | x, y => (x.isZero && y.isZero) || x = y

end Binary64
end DiagramGraph.Number
