/-! Numbers of the 64-bit binary format, without sign, infinities and NaN.

Each operation is exact arithmetic followed by one rounding to the nearest
number of the format, to the even one of two equally near. -/

namespace RecordSync.Number

/-- The value `mantissa * 2 ^ exponent`: either the mantissa has 53 bits, or
the exponent is the least one. -/
structure Binary64 where
  mantissa : Nat
  exponent : Int
  deriving DecidableEq, Repr, Inhabited

namespace Binary64

def leastExponent : Int := -1074
def greatestExponent : Int := 971
def mantissaLimit : Nat := Nat.pow 2 53

/-- The least mantissa with all 53 bits. -/
def leastMantissa : Nat := Nat.pow 2 52

def zero : Binary64 := ⟨0, leastExponent⟩

/-- A quotient rounded to the nearest whole number, a half to the even one. -/
def roundHalfEven (numerator denominator : Nat) : Nat :=
  let quotient := numerator / denominator
  let twice := 2 * (numerator % denominator)
  if twice < denominator then quotient
  else if denominator < twice then quotient + 1
  else quotient + quotient % 2

/-- A quotient divided by a power of two, as numerator and denominator. -/
def scale (numerator denominator : Nat) (exponent : Int) : Nat × Nat :=
  if 0 ≤ exponent then (numerator, denominator * Nat.pow 2 exponent.toNat)
  else (numerator * Nat.pow 2 (-exponent).toNat, denominator)

/-- The exponent at which a positive quotient has 53 bits before the point. -/
def exponentFor (numerator denominator : Nat) : Int :=
  let guess : Int := (numerator.log2 : Int) - denominator.log2 - 52
  let (scaled, unit) := scale numerator denominator guess
  if scaled < unit * leastMantissa then guess - 1 else guess

/-- The number nearest to a quotient, or none when it is too large. -/
def ofRatio (numerator denominator : Nat) : Option Binary64 :=
  if numerator = 0 then some zero
  else
    let exponent := max (exponentFor numerator denominator) leastExponent
    let (scaled, unit) := scale numerator denominator exponent
    let mantissa := roundHalfEven scaled unit
    let rounded : Binary64 :=
      if mantissa = mantissaLimit then ⟨leastMantissa, exponent + 1⟩ else ⟨mantissa, exponent⟩
    if greatestExponent < rounded.exponent then none else some rounded

/-- The exact value as numerator and denominator. -/
def ratio (number : Binary64) : Nat × Nat :=
  if 0 ≤ number.exponent then (number.mantissa * Nat.pow 2 number.exponent.toNat, 1)
  else (number.mantissa, Nat.pow 2 (-number.exponent).toNat)

def mul (left right : Binary64) : Option Binary64 :=
  let (a, b) := left.ratio
  let (c, d) := right.ratio
  ofRatio (a * c) (b * d)

def div (left right : Binary64) : Option Binary64 :=
  let (a, b) := left.ratio
  let (c, d) := right.ratio
  ofRatio (a * d) (b * c)

/-- The greatest power of ten that the format holds. -/
def greatestPower : Nat := 308

def powerOfTen (exponent : Nat) : Option Binary64 :=
  ofRatio (Nat.pow 10 exponent) 1

/-- A decimal in three roundings: the significand, the power of ten, and their
product or quotient. A power beyond the format is divided out in two parts. -/
def ofDecimal (significand : Nat) (exponent : Int) : Option Binary64 := do
  let number ← ofRatio significand 1
  if significand = 0 then return zero
  if 0 ≤ exponent then
    if exponent.toNat ≤ greatestPower then number.mul (← powerOfTen exponent.toNat) else none
  else
    let places := exponent.natAbs
    if places ≤ greatestPower then number.div (← powerOfTen places)
    else if places ≤ 2 * greatestPower then
      (← number.div (← powerOfTen greatestPower)).div (← powerOfTen (places - greatestPower))
    else return zero

end Binary64

end RecordSync.Number
