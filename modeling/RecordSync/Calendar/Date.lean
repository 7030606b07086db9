/-! Dates of the proleptic Gregorian calendar.

A date is a day count, so its order and its distance to other dates are those
of whole numbers; `Date.civil` is the year, month and day by which it is named. -/

namespace RecordSync.Calendar

/-- A calendar date, as the number of days since 1970-01-01. -/
structure Date where
  day : Int
  deriving DecidableEq, Repr, Inhabited

instance : LT Date := ⟨fun left right => left.day < right.day⟩
instance : LE Date := ⟨fun left right => left.day ≤ right.day⟩
instance (left right : Date) : Decidable (left < right) :=
  inferInstanceAs (Decidable (left.day < right.day))
instance (left right : Date) : Decidable (left ≤ right) :=
  inferInstanceAs (Decidable (left.day ≤ right.day))

/-- A date by its name: an astronomical year, a month from 1 and a day from 1. -/
structure Civil where
  year : Int
  month : Nat
  day : Nat
  deriving DecidableEq, Repr, Inhabited

def isLeapYear (year : Int) : Bool :=
  year % 4 == 0 && (year % 100 != 0 || year % 400 == 0)

def daysInMonth (year : Int) (month : Nat) : Nat :=
  if month = 2 then (if isLeapYear year then 29 else 28)
  else if month = 4 ∨ month = 6 ∨ month = 9 ∨ month = 11 then 30
  else 31

/-- The names that stand for a day of the calendar. -/
def Civil.isReal (civil : Civil) : Bool :=
  1 ≤ civil.month && civil.month ≤ 12 && 1 ≤ civil.day &&
    civil.day ≤ daysInMonth civil.year civil.month

/-- Days between 0000-03-01 and 1970-01-01. -/
def marchEpoch : Int := 719468

/-- The date with a name. Years are counted from March, so that the leap day
comes last and the months before it have fixed offsets. -/
def Date.ofCivil (civil : Civil) : Date :=
  let year := if civil.month ≤ 2 then civil.year - 1 else civil.year
  let cycle := year / 400
  let yearOfCycle := year % 400
  let monthFromMarch : Int := if civil.month ≤ 2 then civil.month + 9 else civil.month - 3
  let dayOfYear := (153 * monthFromMarch + 2) / 5 + civil.day - 1
  let dayOfCycle := yearOfCycle * 365 + yearOfCycle / 4 - yearOfCycle / 100 + dayOfYear
  ⟨cycle * 146097 + dayOfCycle - marchEpoch⟩

/-- The name of a date. -/
def Date.civil (date : Date) : Civil :=
  let days := date.day + marchEpoch
  let cycle := days / 146097
  let dayOfCycle := days % 146097
  let yearOfCycle :=
    (dayOfCycle - dayOfCycle / 1460 + dayOfCycle / 36524 - dayOfCycle / 146096) / 365
  let dayOfYear := dayOfCycle - (365 * yearOfCycle + yearOfCycle / 4 - yearOfCycle / 100)
  let monthFromMarch := (5 * dayOfYear + 2) / 153
  let day := dayOfYear - (153 * monthFromMarch + 2) / 5 + 1
  let month := if monthFromMarch < 10 then monthFromMarch + 3 else monthFromMarch - 9
  let year := yearOfCycle + cycle * 400 + (if month ≤ 2 then 1 else 0)
  ⟨year, month.toNat, day.toNat⟩

/-- The first and the last year in which dates are kept. -/
def firstYear : Int := -262143
def lastYear : Int := 262142

def Date.first : Date := .ofCivil ⟨firstYear, 1, 1⟩
def Date.last : Date := .ofCivil ⟨lastYear, 12, 31⟩

end RecordSync.Calendar
