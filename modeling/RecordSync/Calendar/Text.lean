import RecordSync.Calendar.Instant
import RecordSync.Text.Numeral

/-! Dates and instants as text: `YYYY-MM-DD`, and the same with a time of day.
A year outside 0 to 9999 carries a sign. -/

namespace RecordSync.Calendar

open RecordSync.Text

def yearText (year : Int) : String :=
  if 0 ≤ year ∧ year ≤ 9999 then padZero 4 year.toNat
  else (if year < 0 then "-" else "+") ++ padZero 4 year.natAbs

def Civil.text (civil : Civil) : String :=
  yearText civil.year ++ "-" ++ padZero 2 civil.month ++ "-" ++ padZero 2 civil.day

def Date.text (date : Date) : String :=
  date.civil.text

/-- A fraction of a second with three, six or nine digits, as few as are exact;
a whole second has none. -/
def fractionText (nano : Nat) : String :=
  if nano = 0 then ""
  else if nano % 1000000 = 0 then "." ++ padZero 3 (nano / 1000000)
  else if nano % 1000 = 0 then "." ++ padZero 6 (nano / 1000)
  else "." ++ padZero 9 nano

/-- An instant up to its offset. A leap second is written as second sixty. -/
def Instant.localText (instant : Instant) : String :=
  let ofDay := (instant.second % 86400).toNat
  let second := ofDay % 60 + (if instant.nano < 1000000000 then 0 else 1)
  instant.date.text ++ "T" ++ padZero 2 (ofDay / 3600) ++ ":" ++ padZero 2 (ofDay / 60 % 60) ++
    ":" ++ padZero 2 second ++ fractionText (instant.nano % 1000000000)

/-- An instant with the letter of universal time. -/
def Instant.text (instant : Instant) : String :=
  instant.localText ++ "Z"

/-- An instant with its offset in digits. -/
def Instant.offsetText (instant : Instant) : String :=
  instant.localText ++ "+00:00"

end RecordSync.Calendar
