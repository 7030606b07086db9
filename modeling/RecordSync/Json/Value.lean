import RecordSync.Json.Document
import RecordSync.Number.Shortest
import RecordSync.Number.Word

/-! JSON values: documents whose texts are sequences of characters and whose
numbers have a value. -/

namespace RecordSync.Json

open RecordSync.Text RecordSync.Number

/-- A number is whole if it is written as a whole number that a 64-bit word
holds, and a binary number with a sign otherwise. -/
inductive Number where
  | integer (value : Int)
  | float (negative : Bool) (magnitude : Binary64)
  deriving DecidableEq, Repr, Inhabited

inductive Value where
  | null
  | bool (value : Bool)
  | number (value : Number)
  | text (value : String)
  | array (members : List Value)
  | object (members : List (String × Value))
  deriving Repr, Inhabited

/-- The word for the kind of a value. -/
def Value.kind : Value → String
  | .null => "null"
  | .bool _ => "boolean"
  | .number _ => "number"
  | .text _ => "string"
  | .array _ => "array"
  | .object _ => "object"

/-- The value of a key; of repeated keys the last counts. -/
def lookup? (key : String) (members : List (String × Value)) : Option Value :=
  (members.reverse.find? (·.1 == key)).map (·.2)

/-- A member of an object. -/
def Value.get? (key : String) : Value → Option Value
  | .object members => lookup? key members
  | _ => none

def Value.text? : Value → Option String
  | .text value => some value
  | _ => none

def Value.integer? : Value → Option Int
  | .number (.integer value) => some value
  | _ => none

def isHighSurrogate (code : Nat) : Bool := 0xD800 ≤ code && code ≤ 0xDBFF
def isLowSurrogate (code : Nat) : Bool := 0xDC00 ≤ code && code ≤ 0xDFFF

/-- The character of a pair of surrogates. -/
def pairedChar (high low : Nat) : Char :=
  Char.ofNat (0x10000 + (high - 0xD800) * 0x400 + (low - 0xDC00))

/-- The characters of a text, put before those found earlier, which are newest
first. Surrogates have to stand in pairs, high before low. -/
def charsFrom (found : List Char) : List Glyph → Except Malformed (List Char)
  | [] => .ok found.reverse
  | .char c :: rest => charsFrom (c :: found) rest
  | .unit code :: rest =>
    if isHighSurrogate code then
      match rest with
      | .unit low :: rest =>
        if isLowSurrogate low then charsFrom (pairedChar code low :: found) rest
        else .error .loneSurrogate
      | _ => .error .loneSurrogate
    else if isLowSurrogate code then .error .loneSurrogate
    else charsFrom (Char.ofNat code :: found) rest

def textOf (glyphs : List Glyph) : Except Malformed String :=
  (charsFrom [] glyphs).map String.ofList

/-- Digits gathered into one word: the word, and the digits that no longer fit. -/
def gather (word : Nat) : List Char → Nat × List Char
  | [] => (word, [])
  | c :: rest =>
    let next := word * 10 + (digit? c).getD 0
    if next < word64 then gather next rest else (word, c :: rest)

/-- The decimal that a numeral amounts to: its digits as far as they fit one
word, first those of the whole part and then those of the fraction. Whole digits
that do not fit still count as places; fraction digits that do not fit count for
nothing. -/
def Numeral.decimal (numeral : Numeral) : Nat × Int :=
  let (word, surplus) := gather 0 numeral.whole
  let (word, dropped) := gather word numeral.fraction
  let exponent : Int := match numeral.exponent with
    | some (true, digits) => -(digitsValue digits : Int)
    | some (false, digits) => digitsValue digits
    | none => 0
  (word, (surplus.length : Int) - (numeral.fraction.length - dropped.length : Nat) + exponent)

/-- Whether a numeral is written as a whole number. -/
def Numeral.isWhole (numeral : Numeral) : Bool :=
  numeral.fraction.isEmpty && numeral.exponent.isNone

/-- The whole number that a numeral is, if it is written as one and fits a
64-bit word: unsigned without a sign, and signed and not zero with one. -/
def Numeral.integer? (numeral : Numeral) : Option Int :=
  let magnitude := digitsValue numeral.whole
  if !numeral.isWhole then none
  else if numeral.negative then
    if 0 < magnitude ∧ magnitude ≤ signed64 then some (-(magnitude : Int)) else none
  else if magnitude < word64 then some magnitude
  else none

def Numeral.number (numeral : Numeral) : Except Malformed Number :=
  match numeral.integer? with
  | some value => .ok (.integer value)
  | none =>
    let (significand, exponent) := numeral.decimal
    match Binary64.ofDecimal significand exponent with
    | some magnitude => .ok (.float numeral.negative magnitude)
    | none => .error .numberOutOfRange

mutual

/-- The value of a document. -/
def Document.value : Document → Except Malformed Value
  | .null => .ok .null
  | .bool value => .ok (.bool value)
  | .number numeral => numeral.number.map .number
  | .text glyphs => (textOf glyphs).map .text
  | .array members => (valuesOf members).map .array
  | .object members => (membersOf members).map .object

def valuesOf : List Document → Except Malformed (List Value)
  | [] => .ok []
  | document :: rest => do
    let value ← document.value
    return value :: (← valuesOf rest)

def membersOf : List (List Glyph × Document) → Except Malformed (List (String × Value))
  | [] => .ok []
  | (key, document) :: rest => do
    let key ← textOf key
    let value ← document.value
    return (key, value) :: (← membersOf rest)

end

/-- How deep a value may be nested that comes from outside. -/
def deepest : Nat := 127

/-- The value that a text spells out, nested no deeper than is allowed. -/
def Value.ofText (text : String) : Except Malformed Value := do
  let document ← Document.ofText text
  if deepest < document.depth then throw .tooDeep
  document.value

end RecordSync.Json
