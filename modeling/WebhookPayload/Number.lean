import WebhookPayload.Number.Shortest

/-! Numbers of queries and events: integers that fit in 64 bits, signed or
unsigned, stay exact; every other number is a binary floating point number.

A decimal is read with a significand of 64 bits. Digits that no longer fit are
counted but not used, and the significand is then scaled by a power of ten with
one rounding (or, below the least power that is available, with several). -/

namespace WebhookPayload

inductive Number where
  | integer (value : Int)
  | floating (negative : Bool) (magnitude : Binary64)
  deriving DecidableEq

/-- The parts of a number as it is written. -/
structure NumberText where
  negative : Bool
  whole : List Char
  fraction? : Option (List Char)
  /-- Whether the exponent has a minus sign, and its digits. -/
  exponent? : Option (Bool × List Char)

namespace Number

def digitValue (c : Char) : Nat := c.toNat - '0'.toNat

def natOfDigits (digits : List Char) : Nat :=
  digits.foldl (fun n c => n * 10 + digitValue c) 0

/-- One more than the greatest number of 64 bits. -/
def wordLimit : Nat := 18446744073709551616

/-- What a significand of 64 bits keeps of a run of digits. -/
structure Significand where
  value : Nat
  taken : Nat
  dropped : Nat

/-- Appends digits to `value` up to the first that does not fit. -/
def takeDigits (value : Nat) : List Char → Significand
  | [] => ⟨value, 0, 0⟩
  | c :: rest =>
    if value * 10 + digitValue c < wordLimit then
      let s := takeDigits (value * 10 + digitValue c) rest
      { s with taken := s.taken + 1 }
    else ⟨value, 0, rest.length + 1⟩

/-- The greatest power of ten that is a magnitude. -/
def greatestPower : Nat := 308

def powerOfTen? (n : Nat) : Option Binary64 := Binary64.ofNat? (Nat.pow 10 n)

/-- `x / 10 ^ n`, in steps where the power is too large. -/
def scaleDown (x : Binary64) (n : Nat) : Option Binary64 :=
  if n ≤ greatestPower then powerOfTen? n >>= x.div?
  else if x.isZero then some x
  else do
    let power ← powerOfTen? greatestPower
    let y ← x.div? power
    scaleDown y (n - greatestPower)
termination_by n
decreasing_by simp only [greatestPower] at *; omega

/-- `x * 10 ^ e`; nothing if the result is too large. -/
def scale (x : Binary64) (e : Int) : Option Binary64 :=
  if e < 0 then scaleDown x (-e).toNat
  else if x.isZero then some x
  else if e.toNat ≤ greatestPower then powerOfTen? e.toNat >>= x.mul?
  else none

def floating? (negative : Bool) (significand : Nat) (exponent : Int) : Option Number := do
  let x ← Binary64.ofNat? significand
  return floating negative (← scale x exponent)

def exponentValue : Option (Bool × List Char) → Int
  | none => 0
  | some (true, digits) => -(natOfDigits digits : Int)
  | some (false, digits) => natOfDigits digits

def floatingOfText? (text : NumberText) : Option Number :=
  let whole := takeDigits 0 text.whole
  let fraction := takeDigits whole.value (text.fraction?.getD [])
  floating? text.negative fraction.value
    ((whole.dropped : Int) - fraction.taken + exponentValue text.exponent?)

/-- The number that is written, unless it is too large. -/
def ofText? (text : NumberText) : Option Number :=
  let n := natOfDigits text.whole
  if text.fraction?.isSome || text.exponent?.isSome then floatingOfText? text
  else if text.negative then
    if 0 < n ∧ 2 * n ≤ wordLimit then some (integer (-n)) else floatingOfText? text
  else if n < wordLimit then some (integer n)
  else floatingOfText? text

/-- How a floating point number is laid out: the exponents of ten between which
all places are written out. -/
structure Layout where
  leastPlain : Int
  greatestPlain : Int

def layout : Layout := ⟨-5, 15⟩

def zeros (n : Nat) : List Char := List.replicate n '0'

/-- Digits with all places written out and at least one after the point. -/
def plain (digits : List Char) (exponent : Int) : List Char :=
  if exponent < 0 then '0' :: '.' :: zeros (-exponent - 1).toNat ++ digits
  else
    let places := exponent.toNat + 1
    if digits.length ≤ places then digits ++ zeros (places - digits.length) ++ ['.', '0']
    else digits.take places ++ '.' :: digits.drop places

def scientific (digits : List Char) (exponent : Int) : List Char :=
  let mantissa :=
    match digits with
    | first :: second :: rest => first :: '.' :: second :: rest
    | short => short
  let sign := if exponent < 0 then '-' else '+'
  mantissa ++ 'e' :: sign :: Nat.toDigits 10 exponent.natAbs

def magnitudeText (x : Binary64) : List Char :=
  if x.isZero then ['0', '.', '0']
  else
    let d := x.shortest
    let digits := Nat.toDigits 10 d.digits
    let exponent := d.exponent + digits.length - 1
    if layout.leastPlain ≤ exponent ∧ exponent ≤ layout.greatestPlain then plain digits exponent
    else scientific digits exponent

def text : Number → String
  | integer value => toString value
  | floating negative magnitude =>
    String.ofList ((if negative then ['-'] else []) ++ magnitudeText magnitude)

end Number

end WebhookPayload
