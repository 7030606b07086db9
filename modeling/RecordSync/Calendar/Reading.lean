import RecordSync.Calendar.Instant
import RecordSync.Number.Word
import RecordSync.Text.Blank
import RecordSync.Text.Numeral

/-! Reading dates and instants.

A timestamp has the form of RFC 3339. A bare date is more lenient: its numbers
may be short and may follow white space, and its year may be signed. -/

namespace RecordSync.Calendar

open RecordSync.Text

/-- Why a text is not a bare date. -/
inductive DateFault where
  | invalid
  | unfinished
  | outOfRange
  | trailing
  deriving DecidableEq, Repr

def DateFault.message : DateFault → String
  | .invalid => "input contains invalid characters"
  | .unfinished => "premature end of input"
  | .outOfRange => "input is out of range"
  | .trailing => "trailing input"

/-- The digits at the start of a text, at most `width` of them when given, and
what follows them. Their value has to fit a signed word of 64 bits. -/
def readDigits (width : Option Nat) (chars : List Char) : Except DateFault (Nat × List Char) :=
  let run := match width with
    | some count => (chars.take count).takeWhile Char.isDigit
    | none => chars.takeWhile Char.isDigit
  if chars.isEmpty then .error .unfinished
  else if run.isEmpty then .error .invalid
  else if Number.signed64 ≤ digitsValue run then .error .outOfRange
  else .ok (digitsValue run, chars.drop run.length)

/-- A year: up to four digits, or a sign and any number of them. -/
def readYear (chars : List Char) : Except DateFault (Int × List Char) := do
  let (year, rest) ← match chars.dropWhile isBlank with
    | '-' :: digits => (readDigits none digits).map fun (value, rest) => (-(value : Int), rest)
    | '+' :: digits => (readDigits none digits).map fun (value, rest) => ((value : Int), rest)
    | digits => (readDigits (some 4) digits).map fun (value, rest) => ((value : Int), rest)
  if -(Number.signed32 : Int) ≤ year ∧ year < Number.signed32 then return (year, rest)
  else throw .outOfRange

/-- One or two digits for a month or a day, from 1 to `bound`. -/
def readPart (bound : Nat) (chars : List Char) : Except DateFault (Nat × List Char) := do
  let (value, rest) ← readDigits (some 2) (chars.dropWhile isBlank)
  if 1 ≤ value ∧ value ≤ bound then return (value, rest) else throw .outOfRange

def readHyphen : List Char → Except DateFault (List Char)
  | [] => .error .unfinished
  | '-' :: rest => .ok rest
  | _ => .error .invalid

/-- The date of a name that stands for a day within the calendar. -/
def Civil.date? (civil : Civil) : Option Date :=
  if civil.isReal && firstYear ≤ civil.year && civil.year ≤ lastYear then some (.ofCivil civil)
  else none

/-- A bare date that fills the whole text. -/
def Date.read (text : String) : Except DateFault Date := do
  let (year, rest) ← readYear text.toList
  let rest ← readHyphen rest
  let (month, rest) ← readPart 12 rest
  let rest ← readHyphen rest
  let (day, rest) ← readPart 31 rest
  if !rest.isEmpty then throw .trailing
  match Civil.date? ⟨year, month, day⟩ with
  | some date => return date
  | none => throw .outOfRange

def Date.ofText? (text : String) : Option Date :=
  match Date.read text with
  | .ok date => some date
  | .error _ => none

/-- The number of exactly two digits. -/
def twoDigits? (tens ones : Char) : Option Nat := do
  return (← digit? tens) * 10 + (← digit? ones)

/-- An offset from universal time in seconds: the letter for none, or a sign
with hours and minutes. The sign may be the true minus. -/
def readOffset : List Char → Option Int
  | ['Z'] => some 0
  | ['z'] => some 0
  | [sign, h, k, ':', m, n] => do
    let direction : Int ←
      if sign = '+' then some 1 else if sign = '-' ∨ sign = Char.ofNat 0x2212 then some (-1) else none
    let hours ← twoDigits? h k
    let minutes ← twoDigits? m n
    if hours ≤ 23 ∧ minutes ≤ 59 then some (direction * (hours * 3600 + minutes * 60)) else none
  | _ => none

/-- The nanoseconds of a fraction after its point: digits beyond the ninth are dropped. -/
def readFraction (chars : List Char) : Option (Nat × List Char) :=
  let run := chars.takeWhile Char.isDigit
  if run.isEmpty then none
  else
    let kept := run.take 9
    some (digitsValue kept * Nat.pow 10 (9 - kept.length), chars.drop run.length)

/-- The fraction and the offset that end a time of day. -/
def readTail : List Char → Option (Nat × Int)
  | '.' :: rest => do
    let (nano, rest) ← readFraction rest
    return (nano, ← readOffset rest)
  | rest => (readOffset rest).map fun offset => (0, offset)

/-- A time of day with its offset, on a date. Second sixty extends second
fifty-nine and is taken at any minute. -/
def readTimeOn (date : Date) : List Char → Option Instant
  | h :: k :: ':' :: m :: n :: ':' :: s :: t :: rest => do
    let hour ← twoDigits? h k
    let minute ← twoDigits? m n
    let second ← twoDigits? s t
    let (nano, offset) ← readTail rest
    if hour ≤ 23 ∧ minute ≤ 59 ∧ second ≤ 60 then
      let seconds := date.day * 86400 + (hour * 3600 + minute * 60 + min second 59 : Nat) - offset
      let nano := nano + (if second = 60 then 1000000000 else 0)
      if bound : nano < 2000000000 then some ⟨seconds, nano, bound⟩ else none
    else none
  | _ => none

/-- An RFC 3339 timestamp: a year of four digits, and `T` or one blank before the time. -/
def Instant.ofTimestamp? (text : String) : Option Instant :=
  match text.toList with
  | a :: b :: c :: d :: '-' :: m :: n :: '-' :: x :: y :: mark :: time => do
    let year := (← twoDigits? a b) * 100 + (← twoDigits? c d)
    let date ← Civil.date? ⟨year, ← twoDigits? m n, ← twoDigits? x y⟩
    if mark = 'T' ∨ mark = 't' ∨ mark = ' ' then readTimeOn date time else none
  | _ => none

/-- An instant as `Instant.text` writes it, with a year of any length and any offset. -/
def Instant.ofText? (text : String) : Option Instant := do
  let chars := text.toList
  let date ← Date.ofText? (String.ofList (chars.takeWhile (· ≠ 'T')))
  readTimeOn date ((chars.dropWhile (· ≠ 'T')).drop 1)

/-- An RFC 3339 timestamp, or a bare date as its midnight. -/
def Instant.ofTimestampOrDate? (text : String) : Option Instant :=
  (Instant.ofTimestamp? text).or ((Date.ofText? (trim text)).map Instant.midnight)

end RecordSync.Calendar
