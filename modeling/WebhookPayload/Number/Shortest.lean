import WebhookPayload.Number.Binary64

/-! The shortest decimal that reads back to a binary magnitude. For one digit,
two digits and so on, the two neighbours of the magnitude on that decimal grid
are tried; the first grid with a neighbour that rounds to the magnitude wins, of
two such neighbours the nearer one, and of two equally near ones the even one. -/

namespace WebhookPayload

/-- The decimal `digits * 10 ^ exponent`. -/
structure Decimal where
  digits : Nat
  exponent : Int
  deriving DecidableEq

namespace Decimal

def numerator (d : Decimal) : Nat := d.digits * powerAbove 10 d.exponent

def denominator (d : Decimal) : Nat := powerBelow 10 d.exponent

/-- How many decimal digits `n` has. -/
def width (n : Nat) : Nat := (Nat.toDigits 10 n).length

/-- Moves at most `bound` trailing zeros of the digits into the exponent. -/
def dropZeros : Nat → Decimal → Decimal
  | 0, d => d
  | bound + 1, d =>
    if d.digits % 10 = 0 ∧ d.digits ≠ 0 then dropZeros bound ⟨d.digits / 10, d.exponent + 1⟩
    else d

end Decimal

namespace Binary64

/-- The greatest `e` with `10 ^ e ≤ x`, for positive `x`. -/
def floorLog10 (x : Binary64) : Int :=
  if x.denominator ≤ x.numerator then
    (Decimal.width (x.numerator / x.denominator) : Int) - 1
  else
    -(Decimal.width ((x.denominator - 1) / x.numerator) : Int)

/-- Whether `d` rounds to `x`. In quarters of the last place, the reals that do
lie between `4 * significand - 2` and `4 * significand + 2`; the lower end is
nearer where the next smaller magnitudes lie twice as dense. The ends round to
the even neighbour. -/
def isReadFrom (x : Binary64) (d : Decimal) : Bool :=
  let lower :=
    4 * x.significand -
      (if x.significand = leastNormal ∧ x.exponent > leastExponent then 1 else 2)
  let upper := 4 * x.significand + 2
  let unit := powerAbove 2 x.exponent * d.denominator
  let point := 4 * x.denominator * d.numerator
  if x.significand % 2 = 0 then lower * unit ≤ point && point ≤ upper * unit
  else lower * unit < point && point < upper * unit

/-- The greatest decimal with the given exponent that is at most `x`. -/
def decimalBelow (x : Binary64) (exponent : Int) : Decimal :=
  ⟨x.numerator * powerBelow 10 exponent / (x.denominator * powerAbove 10 exponent), exponent⟩

/-- Of `low` and the next decimal with its exponent, the one nearer to `x`. -/
def nearerOf (x : Binary64) (low : Decimal) : Decimal :=
  let next : Decimal := { low with digits := low.digits + 1 }
  let middle := (2 * low.digits + 1) * powerAbove 10 low.exponent * x.denominator
  let here := 2 * x.numerator * low.denominator
  if here < middle ∨ (here = middle ∧ low.digits % 2 = 0) then low else next

/-- The decimal with the given exponent that is written for `x`, if one rounds to it. -/
def onGrid? (x : Binary64) (exponent : Int) : Option Decimal :=
  let low := x.decimalBelow exponent
  let next : Decimal := { low with digits := low.digits + 1 }
  match x.isReadFrom low, x.isReadFrom next with
  | true, true => some (x.nearerOf low)
  | true, false => some low
  | false, true => some next
  | false, false => none

/-- Seventeen significant digits tell all magnitudes apart. -/
def sufficientDigits : Nat := 17

/-- The shortest decimal that rounds to the positive magnitude `x`. -/
def shortest (x : Binary64) : Decimal :=
  let top := x.floorLog10
  let grids := (List.range sufficientDigits).map fun (n : Nat) => top - n
  ((grids.findSome? x.onGrid?).getD (x.decimalBelow (top - sufficientDigits))).dropZeros
    (sufficientDigits + 1)

end Binary64

end WebhookPayload
