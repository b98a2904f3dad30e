/-
DiagramGraph.Number.Shortest — the decimal form of a floating-point
number.

A number is written with the fewest digits that read back as the same
number; of two such forms the nearer one is taken. Between 10 ^ -4 and
10 ^ 16 the digits are written out, with a point and at least one digit
after it; beyond, with an exponent of a sign and two digits or more.
-/
import DiagramGraph.Number.Binary64
import DiagramGraph.Text.Basic

namespace DiagramGraph.Number

open Binary64 (pow2 pow10)

/-! ## §1 The digits -/

/-- Decimal digits `digits · 10 ^ exponent`. -/
structure Decimal where
  digits : Nat
  exponent : Int
  deriving DecidableEq, Repr

/-- The least `k` at or above `low` with `num / den < 10 ^ k`, within `fuel` tries. -/
def magnitudeFrom (num den : Nat) : Nat → Int → Int
  | 0, low => low
  | fuel + 1, low =>
    let below := if low ≥ 0 then num < den * pow10 low.toNat else num * pow10 (-low).toNat < den
    if below then low else magnitudeFrom num den fuel (low + 1)

/-- The decimal of `count` digits next to `m · 2 ^ e` that reads back as
that number, where `10 ^ (k - 1) ≤ m · 2 ^ e < 10 ^ k`. Of two the nearer
is taken, of two equally near the even one. -/
def withDigits? (m : Nat) (e k : Int) (count : Nat) : Option Decimal :=
  let unit : Int := k - count
  let (num, den) := if e ≥ 0 then (m * pow2 e.toNat, 1) else (m, pow2 (-e).toNat)
  let (num, den) :=
    if unit ≥ 0 then (num, den * pow10 unit.toNat) else (num * pow10 (-unit).toNat, den)
  let low := num / den
  let reads (d : Nat) : Bool := Binary64.ofDecimal false d unit = .finite false m e
  match reads low, reads (low + 1) with
  | true, true =>
    let nearer := Binary64.roundDiv num den
    some ⟨nearer, unit⟩
  | true, false => some ⟨low, unit⟩
  | false, true => some ⟨low + 1, unit⟩
  | false, false => none

/-- The shortest decimal that reads back as `m · 2 ^ e`; 17 digits always do. -/
def shortest (m : Nat) (e : Int) : Decimal :=
  let (num, den) := if e ≥ 0 then (m * pow2 e.toNat, 1) else (m, pow2 (-e).toNat)
  let k := magnitudeFrom num den 640 (-325)
  ((List.range 17).findSome? (fun i => withDigits? m e k (i + 1))).getD ⟨0, 0⟩

/-! ## §2 The text -/

/-- The exponent of ten with a sign and at least two digits. -/
def exponentText (e : Int) : Text :=
  let digits := Nat.toDigits 10 e.natAbs
  (if e < 0 then '-' else '+') :: (if digits.length < 2 then '0' :: digits else digits)

/-- The digits of a positive number: `d · 10 ^ (point - |d|)`. -/
def decimalText (d : Decimal) : Text :=
  let all := Nat.toDigits 10 d.digits
  let point : Int := all.length + d.exponent
  let digits := (all.reverse.dropWhile (· == '0')).reverse
  if point ≤ -4 ∨ 16 < point then
    let mantissa := match digits with
      | [c] => [c]
      | c :: rest => c :: '.' :: rest
      | [] => ['0']
    mantissa ++ 'e' :: exponentText (point - 1)
  else if point ≤ 0 then
    "0.".toList ++ List.replicate (-point).toNat '0' ++ digits
  else
    let whole := digits.take point.toNat
    let padded := whole ++ List.replicate (point.toNat - whole.length) '0'
    let fraction := digits.drop point.toNat
    padded ++ '.' :: (if fraction.isEmpty then ['0'] else fraction)

/-- The names of the numbers that have no digits. -/
structure Names where
  nan : Text
  infinity : Text

/-- The text of a number. -/
def text (names : Names) : Binary64 → Text
  | .nan => names.nan
  | .infinite negative => (if negative then ['-'] else []) ++ names.infinity
  | .finite negative m e =>
    (if negative then ['-'] else []) ++
      (if m = 0 then "0.0".toList else decimalText (shortest m e))

end DiagramGraph.Number
