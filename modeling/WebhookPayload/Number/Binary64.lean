/-! Magnitudes of binary floating point numbers with 53 bits of precision, kept
as exact integers. Each operation rounds the exact result to the nearest
magnitude, a tie to the one with an even significand, and has no result when
that would be too large. -/

namespace WebhookPayload

/-! ## Powers

The power of a base with an integer exponent is a fraction, one end of which is one. -/

/-- The numerator of the power. -/
def powerAbove (base : Nat) (exponent : Int) : Nat := Nat.pow base exponent.toNat

/-- The denominator of the power. -/
def powerBelow (base : Nat) (exponent : Int) : Nat := Nat.pow base (-exponent).toNat

/-! ## Magnitudes -/

/-- The magnitude `significand * 2 ^ exponent`. The significand has 53 bits, or
fewer when the exponent is the least one. -/
structure Binary64 where
  significand : Nat
  exponent : Int
  deriving DecidableEq, Inhabited

namespace Binary64

def precision : Nat := 53

/-- The least significand with all bits. -/
def leastNormal : Nat := Nat.pow 2 (precision - 1)

def leastExponent : Int := -1074

def greatestExponent : Int := 971

def zero : Binary64 := ⟨0, leastExponent⟩

def isZero (x : Binary64) : Bool := x.significand == 0

def numerator (x : Binary64) : Nat := x.significand * powerAbove 2 x.exponent

def denominator (x : Binary64) : Nat := powerBelow 2 x.exponent

/-- The quotient to the nearest integer, a tie to the even one. -/
def roundQuotient (num den : Nat) : Nat :=
  let q := num / den
  let r := num % den
  if 2 * r > den ∨ (2 * r = den ∧ q % 2 = 1) then q + 1 else q

/-- The greatest `e` with `2 ^ e ≤ num / den`, for positive arguments. -/
def floorLog2 (num den : Nat) : Int :=
  let e : Int := (num.log2 : Int) - den.log2
  if den * powerAbove 2 e ≤ num * powerBelow 2 e then e else e - 1

/-- The magnitude nearest to `num / den`. -/
def ofRatio? (num den : Nat) : Option Binary64 :=
  if num = 0 then some zero
  else
    let e := max (floorLog2 num den - (precision - 1 : Nat)) leastExponent
    let significand := roundQuotient (num * powerBelow 2 e) (den * powerAbove 2 e)
    let rounded : Binary64 :=
      if significand = 2 * leastNormal then ⟨leastNormal, e + 1⟩ else ⟨significand, e⟩
    if rounded.exponent > greatestExponent then none else some rounded

def ofNat? (n : Nat) : Option Binary64 := ofRatio? n 1

def mul? (x y : Binary64) : Option Binary64 :=
  ofRatio? (x.numerator * y.numerator) (x.denominator * y.denominator)

def div? (x y : Binary64) : Option Binary64 :=
  ofRatio? (x.numerator * y.denominator) (x.denominator * y.numerator)

end Binary64

end WebhookPayload
