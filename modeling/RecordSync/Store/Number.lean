import RecordSync.Number.Binary64
import RecordSync.Number.Word
import RecordSync.Text.Numeral

/-! What a column of numbers holds. Such a column takes anything, and makes a
whole number of it wherever that is what it says: of a text that spells a number,
and of a number without a fraction that a signed word holds. -/

namespace RecordSync.Store

open RecordSync.Number RecordSync.Text

/-- A binary number with a sign; without a magnitude it is too large for the format. -/
structure SignedBinary where
  negative : Bool
  magnitude : Option Binary64
  deriving DecidableEq, Repr

inductive NumberCell where
  | integer (value : Int)
  | real (value : SignedBinary)
  | text (value : String)
  deriving DecidableEq, Repr

/-! Numbers spelled by texts -/

/-- A blank, or one of the controls from tab to carriage return. -/
def isPadding (c : Char) : Bool :=
  c == ' ' || (9 ≤ c.toNat && c.toNat ≤ 13)

def unpadded (chars : List Char) : List Char :=
  ((chars.dropWhile isPadding).reverse.dropWhile isPadding).reverse

/-- Whether there is a minus in front, and what stands behind the sign. -/
def splitSign : List Char → Bool × List Char
  | '-' :: rest => (true, rest)
  | '+' :: rest => (false, rest)
  | chars => (false, chars)

def signed (negative : Bool) (value : Nat) : Int :=
  if negative then -(value : Int) else value

/-- A significand from here on takes no further digit. -/
def fullSignificand : Nat := 1844674407370955160

/-- Digits taken into a significand until it is full; says how many were taken. -/
def takeDigits (significand : Nat) : List Char → Nat × Nat
  | [] => (significand, 0)
  | c :: rest =>
    if significand < fullSignificand then
      let (value, count) := takeDigits (significand * 10 + (digit? c).getD 0) rest
      (value, count + 1)
    else (significand, 0)

/-- An exponent from here on is not made longer, for it leads out of the format. -/
def farExponent : Nat := 10000

def exponentValue (digits : List Char) : Nat :=
  digits.foldl
    (fun value c => if value < farExponent then value * 10 + (digit? c).getD 0 else farExponent) 0

/-- A number as a text spells it, `significand * 10 ^ exponent` with a sign. -/
structure Spelled where
  negative : Bool
  significand : Nat
  exponent : Int
  deriving DecidableEq, Repr

/-- What stands behind the digits: nothing, or an exponent. -/
def readExponent? : List Char → Option Int
  | [] => some 0
  | mark :: rest =>
    let (negative, digits) := splitSign rest
    if (mark = 'e' ∨ mark = 'E') ∧ (natural? digits).isSome then
      some (signed negative (exponentValue digits))
    else none

/-- A fraction behind a point, and what stands behind it. -/
def splitFraction : List Char → List Char × List Char
  | '.' :: rest => rest.span Char.isDigit
  | chars => ([], chars)

/-- The number that characters spell: digits with or without a point, and perhaps
an exponent. Digits that the significand has no room for count as places before
the point and for nothing behind it. -/
def spelled? (chars : List Char) : Option Spelled := do
  let (negative, chars) := splitSign (unpadded chars)
  let (whole, rest) := chars.span Char.isDigit
  let (fraction, rest) := splitFraction rest
  let exponent ← readExponent? rest
  guard (!(whole ++ fraction).isEmpty)
  let (significand, taken) := takeDigits 0 whole
  let (significand, places) := takeDigits significand fraction
  return { negative, significand, exponent := exponent + (whole.length - taken : Nat) - places }

def Spelled.binary (spelled : Spelled) : SignedBinary where
  negative := spelled.negative
  magnitude :=
    if 0 ≤ spelled.exponent then
      Binary64.ofRatio (spelled.significand * Nat.pow 10 spelled.exponent.toNat) 1
    else Binary64.ofRatio spelled.significand (Nat.pow 10 (-spelled.exponent).toNat)

/-- The whole number that digits with or without a sign spell, if a signed word holds it. -/
def spelledInteger? (chars : List Char) : Option Int := do
  let (negative, digits) := splitSign (unpadded chars)
  let value := signed negative (← natural? digits)
  if -(signed64 : Int) ≤ value ∧ value < signed64 then some value else none

/-! Cells -/

namespace SignedBinary

/-- The value as numerator and denominator. A number too large for the format
counts as the least power of two that is. -/
def ratio (binary : SignedBinary) : Int × Nat :=
  let (numerator, denominator) := (binary.magnitude.map Binary64.ratio).getD (Nat.pow 2 1024, 1)
  (signed binary.negative numerator, denominator)

/-- The value if it has no fraction and lies within a signed word, its ends excluded. -/
def whole? (binary : SignedBinary) : Option Int :=
  let (numerator, denominator) := binary.ratio
  if numerator % denominator = 0 ∧ (numerator / denominator).natAbs < signed64 then
    some (numerator / denominator)
  else none

end SignedBinary

namespace NumberCell

/-- What a column of numbers makes of a text. -/
def ofText (text : String) : NumberCell :=
  match spelledInteger? text.toList, spelled? text.toList with
  | some value, _ => .integer value
  | none, some spelled =>
    match spelled.binary.whole? with
    | some value => .integer value
    | none => .real spelled.binary
  | none, none => .text text

/-- A number as numerator and denominator. -/
def ratio? : NumberCell → Option (Int × Nat)
  | integer value => some (value, 1)
  | real value => some value.ratio
  | text _ => none

/-- Whether a cell comes no later than another one: numbers go by their value and
stand before all texts, and texts go by their characters. -/
def atMost (left right : NumberCell) : Bool :=
  match left, right with
  | text left, text right => !decide (right < left)
  | left, right =>
    match left.ratio?, right.ratio? with
    | some (a, b), some (c, d) => a * d ≤ c * b
    | some _, none => true
    | none, _ => false

/-- The word for the kind of what a cell holds. -/
def kind : NumberCell → String
  | integer _ => "Integer"
  | real _ => "Real"
  | text _ => "Text"

end NumberCell

end RecordSync.Store
