import RecordSync.Number.Binary64

/-! The fewest decimal digits that read back as a given binary number, and
their layout as text. -/

namespace RecordSync.Number

/-- The value `digits * 10 ^ exponent`. -/
structure Decimal where
  digits : Nat
  exponent : Int
  deriving DecidableEq, Repr

namespace Shortest

/-- A positive number with the ends of the interval that rounds to it, over one
common denominator. The ends belong to it when the mantissa is even. -/
structure Interval where
  low : Nat
  value : Nat
  high : Nat
  unit : Nat
  closed : Bool

def interval (number : Binary64) : Interval :=
  let raised := Nat.pow 2 number.exponent.toNat
  let unit := 4 * Nat.pow 2 (-number.exponent).toNat
  let nearBelow := number.mantissa = Binary64.leastMantissa ∧ Binary64.leastExponent < number.exponent
  let value := 4 * number.mantissa
  { low := (value - (if nearBelow then 1 else 2)) * raised
    value := value * raised
    high := (value + 2) * raised
    unit := unit
    closed := number.mantissa % 2 = 0 }

/-- `count * 10 ^ exponent` compared with the interval's numerators: both sides
of the comparison are brought to whole numbers. -/
def scaled (range : Interval) (exponent : Int) (count : Nat) : Nat × Nat :=
  if 0 ≤ exponent then (count * Nat.pow 10 exponent.toNat * range.unit, 1)
  else (count * range.unit, Nat.pow 10 (-exponent).toNat)

def covers (range : Interval) (exponent : Int) (count : Nat) : Bool :=
  let (point, factor) := scaled range exponent count
  if range.closed then range.low * factor ≤ point && point ≤ range.high * factor
  else range.low * factor < point && point < range.high * factor

/-- How far a grid point is from the value. -/
def distance (range : Interval) (exponent : Int) (count : Nat) : Nat :=
  let (point, factor) := scaled range exponent count
  let value := range.value * factor
  (point - value) + (value - point)

/-- The grid point at or below the value. -/
def floor (range : Interval) (exponent : Int) : Nat :=
  if 0 ≤ exponent then range.value / (range.unit * Nat.pow 10 exponent.toNat)
  else range.value * Nat.pow 10 (-exponent).toNat / range.unit

/-- Of the value's two neighbours on a grid, the one inside the interval; of
two inside, the nearer, and of two equally near the even one. -/
def onGrid? (range : Interval) (exponent : Int) : Option Decimal :=
  let below := floor range exponent
  let above := below + 1
  match covers range exponent below, covers range exponent above with
  | true, true =>
    let down := distance range exponent below
    let up := distance range exponent above
    if down < up ∨ (down = up ∧ below % 2 = 0) then some ⟨below, exponent⟩
    else some ⟨above, exponent⟩
  | true, false => some ⟨below, exponent⟩
  | false, true => some ⟨above, exponent⟩
  | false, false => none

/-- The number of decimal digits of a natural number. -/
def width (value : Nat) : Nat := (toString value).length

/-- The decimal exponent of the place before the value's first digit. -/
def leadingPlace (range : Interval) : Int :=
  let shift : Nat := 400
  (width (range.value * Nat.pow 10 shift / range.unit) : Int) - (shift : Int)

/-- The first grid with a hit, from one digit on. -/
def search (range : Interval) (place : Int) : Nat → Nat → Option Decimal
  | 0, _ => none
  | tries + 1, digits =>
    (onGrid? range (place - digits)).or (search range place tries (digits + 1))

end Shortest

/-- The shortest decimal that reads back as the number, the nearest of those. -/
def Binary64.shortest (number : Binary64) : Decimal :=
  if number.mantissa = 0 then ⟨0, 0⟩
  else
    let range := Shortest.interval number
    (Shortest.search range (Shortest.leadingPlace range) 17 1).getD ⟨0, 0⟩

/-- How decimals are laid out: the range of leading places that are written
without an exponent, and the sign of an exponent above zero. -/
structure Layout where
  leastPlace : Int
  greatestPlace : Int
  plus : String

/-- Plain notation from `0.00001` up to sixteen digits before the point; beyond
that one digit before the point and a signed exponent. -/
def plainOrScientific : Layout := ⟨-4, 16, "+"⟩

def zeros (count : Nat) : String := String.ofList (List.replicate count '0')

/-- Digits without the zeros at their end. -/
def significantDigits (decimal : Decimal) : List Char :=
  ((toString decimal.digits).toList.reverse.dropWhile (· = '0')).reverse

/-- A decimal in a layout, with at least one digit on each side of a point
unless it has an exponent. -/
def Decimal.render (layout : Layout) (decimal : Decimal) : String :=
  if decimal.digits = 0 then "0.0"
  else
    let place : Int := (toString decimal.digits).length + decimal.exponent
    let digits := significantDigits decimal
    let count : Int := digits.length
    if layout.leastPlace ≤ place ∧ place ≤ layout.greatestPlace then
      if place ≤ 0 then "0." ++ zeros (-place).toNat ++ String.ofList digits
      else if count ≤ place then String.ofList digits ++ zeros (place - count).toNat ++ ".0"
      else String.ofList (digits.take place.toNat) ++ "." ++ String.ofList (digits.drop place.toNat)
    else
      let power := place - 1
      let fraction := if count ≤ 1 then "" else "." ++ String.ofList (digits.drop 1)
      String.ofList (digits.take 1) ++ fraction ++ "e" ++
        (if 0 ≤ power then layout.plus else "-") ++ toString power.natAbs

def Binary64.text (number : Binary64) : String :=
  number.shortest.render plainOrScientific

end RecordSync.Number
