import RecordSync.Calendar.Date

/-! Instants of universal time, leap seconds included.

A leap second is kept as a longer second: the count of seconds stays at the one
it extends and the nanoseconds run past a thousand million. It sorts after that
second and before the next one, while its millisecond value is already one of
the next second. -/

namespace RecordSync.Calendar

/-- Seconds since the start of 1970 and nanoseconds into that second. -/
structure Instant where
  second : Int
  nano : Nat
  nano_lt : nano < 2000000000 := by omega
  deriving DecidableEq, Repr

instance : Inhabited Instant := ⟨⟨0, 0, by omega⟩⟩

def Instant.before (left right : Instant) : Bool :=
  left.second < right.second || (left.second == right.second && left.nano < right.nano)

instance : LT Instant := ⟨fun left right => left.before right = true⟩
instance (left right : Instant) : Decidable (left < right) :=
  inferInstanceAs (Decidable (left.before right = true))

/-- The later of two instants. -/
def Instant.latest (left right : Instant) : Instant :=
  if left < right then right else left

/-- Whole milliseconds since the start of 1970, rounded down. -/
def Instant.millis (instant : Instant) : Int :=
  instant.second * 1000 + (instant.nano / 1000000 : Nat)

/-- The instant that a count of milliseconds denotes; it is never a leap second. -/
def Instant.ofMillis (millis : Int) : Instant :=
  ⟨millis / 1000, (millis % 1000).toNat * 1000000, by omega⟩

/-- Midnight at the start of a date. -/
def Instant.midnight (date : Date) : Instant :=
  ⟨date.day * 86400, 0, by omega⟩

/-- The date in universal time. -/
def Instant.date (instant : Instant) : Date :=
  ⟨instant.second / 86400⟩

/-- An instant later by a whole number of seconds. Leaving a leap second
forwards drops the extra second, leaving it backwards starts from the next one. -/
def Instant.addSeconds (instant : Instant) (seconds : Int) : Instant :=
  if _ : instant.nano < 1000000000 then ⟨instant.second + seconds, instant.nano, by omega⟩
  else
    have bound := instant.nano_lt
    if 0 < seconds then ⟨instant.second + seconds, instant.nano - 1000000000, by omega⟩
    else if seconds < 0 then ⟨instant.second + 1 + seconds, instant.nano - 1000000000, by omega⟩
    else instant

/-- The same second with a nanosecond count that may reach into its neighbours. -/
def Instant.carry (second nano : Int) : Instant :=
  ⟨second + nano / 1000000000, (nano % 1000000000).toNat, by omega⟩

/-- An instant later by a number of milliseconds, which may be negative. A move
of less than a second may stay inside a leap second. -/
def Instant.addMillis (instant : Instant) (millis : Int) : Instant :=
  let seconds := millis.tdiv 1000
  let nanos := instant.nano + millis.tmod 1000 * 1000000
  if _ : seconds = 0 ∧ 1000000000 ≤ instant.nano then
    if _ : nanos < 2000000000 then ⟨instant.second, nanos.toNat, by omega⟩
    else .carry instant.second (nanos - 1000000000)
  else
    let moved := instant.addSeconds seconds
    .carry moved.second (moved.nano + millis.tmod 1000 * 1000000)

/-- The earliest and the latest millisecond of the calendar. -/
def firstMillis : Int := (Instant.midnight .first).millis
def lastMillis : Int := (Instant.midnight .last).millis + 86399999

end RecordSync.Calendar
