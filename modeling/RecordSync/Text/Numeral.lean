/-! Decimal numerals: reading whole numbers within a range and writing them with a least width. -/

namespace RecordSync.Text

/-- The value of an ASCII digit. -/
def digit? (c : Char) : Option Nat :=
  if c.isDigit then some (c.toNat - '0'.toNat) else none

/-- The value of a hexadecimal digit in either case. -/
def hexDigit? (c : Char) : Option Nat :=
  if c.isDigit then some (c.toNat - '0'.toNat)
  else if 'a' ≤ c ∧ c ≤ 'f' then some (c.toNat - 'a'.toNat + 10)
  else if 'A' ≤ c ∧ c ≤ 'F' then some (c.toNat - 'A'.toNat + 10)
  else none

/-- The number that a run of digit characters denotes; other characters count as zero. -/
def digitsValue (chars : List Char) : Nat :=
  chars.foldl (fun value c => value * 10 + (digit? c).getD 0) 0

/-- A nonempty run of ASCII digits and nothing else. -/
def natural? (chars : List Char) : Option Nat :=
  if chars.isEmpty || !chars.all Char.isDigit then none else some (digitsValue chars)

/-- An unsigned numeral below `bound`, with or without a plus sign. -/
def readUnsigned (bound : Nat) (text : String) : Option Nat :=
  let digits := match text.toList with
    | '+' :: rest => rest
    | chars => chars
  (natural? digits).filter (· < bound)

/-- A numeral from `-bound` up to but not including `bound`, with or without a sign. -/
def readSigned (bound : Nat) (text : String) : Option Int :=
  match text.toList with
  | '-' :: rest => ((natural? rest).filter (· ≤ bound)).map fun value => -(value : Int)
  | _ => (readUnsigned bound text).map Int.ofNat

/-- Zeros on the left up to a least width. -/
def padZero (width value : Nat) : String :=
  let digits := toString value
  String.ofList (List.replicate (width - digits.length) '0') ++ digits

/-- Blanks on the right up to a least width. -/
def padRight (width : Nat) (text : String) : String :=
  text ++ String.ofList (List.replicate (width - text.length) ' ')

/-- Blanks on the left up to a least width. -/
def padLeft (width : Nat) (text : String) : String :=
  String.ofList (List.replicate (width - text.length) ' ') ++ text

end RecordSync.Text
