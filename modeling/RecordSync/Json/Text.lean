import RecordSync.Json.Value

/-! The compact text of a JSON value, and its form with sorted keys. -/

namespace RecordSync.Json

open RecordSync.Number

/-- A hexadecimal digit in lower case. -/
def hexChar (value : Nat) : Char :=
  if value < 10 then Char.ofNat ('0'.toNat + value) else Char.ofNat ('a'.toNat + (value - 10))

/-- A character inside quotes. Quotes, backslashes and control characters are
escaped and nothing else is. -/
def escapeChar (c : Char) : List Char :=
  if c = '"' then ['\\', '"']
  else if c = '\\' then ['\\', '\\']
  else if c = '\x08' then ['\\', 'b']
  else if c = '\t' then ['\\', 't']
  else if c = '\n' then ['\\', 'n']
  else if c = '\x0c' then ['\\', 'f']
  else if c = '\r' then ['\\', 'r']
  else if c.toNat < 0x20 then ['\\', 'u', '0', '0', hexChar (c.toNat / 16), hexChar (c.toNat % 16)]
  else [c]

/-- A text in quotes. -/
def quoteChars (text : String) : List Char :=
  '"' :: text.toList.flatMap escapeChar ++ ['"']

/-- A number: a whole number plainly, any other with the fewest digits that read back. -/
def Number.text : Number → String
  | .integer value => toString value
  | .float negative magnitude => (if negative then "-" else "") ++ magnitude.text

mutual

def Value.chars : Value → List Char
  | .null => "null".toList
  | .bool true => "true".toList
  | .bool false => "false".toList
  | .number value => value.text.toList
  | .text value => quoteChars value
  | .array members => '[' :: arrayChars members ++ [']']
  | .object members => '\x7b' :: objectChars members ++ ['\x7d']

def arrayChars : List Value → List Char
  | [] => []
  | [value] => value.chars
  | value :: rest => value.chars ++ ',' :: arrayChars rest

def objectChars : List (String × Value) → List Char
  | [] => []
  | [(key, value)] => quoteChars key ++ ':' :: value.chars
  | (key, value) :: rest => quoteChars key ++ ':' :: value.chars ++ ',' :: objectChars rest

end

/-- The compact text of a value, its members in their order. -/
def Value.render (value : Value) : String :=
  String.ofList value.chars

/-- A member at its place among members sorted by key; a key that is there
already gets the new value. -/
def insertMember (key : String) (value : Value) : List (String × Value) → List (String × Value)
  | [] => [(key, value)]
  | (other, held) :: rest =>
    if key = other then (key, value) :: rest
    else if key < other then (key, value) :: (other, held) :: rest
    else (other, held) :: insertMember key value rest

mutual

/-- The value with the members of every object in the order of their keys. -/
def Value.sorted : Value → Value
  | .array members => .array (sortedArray members)
  | .object members => .object (sortedObject [] members)
  | value => value

def sortedArray : List Value → List Value
  | [] => []
  | value :: rest => value.sorted :: sortedArray rest

def sortedObject (done : List (String × Value)) : List (String × Value) → List (String × Value)
  | [] => done
  | (key, value) :: rest => sortedObject (insertMember key value.sorted done) rest

end

end RecordSync.Json
