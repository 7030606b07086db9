/-! White space, blank texts and the ASCII case maps. -/

namespace RecordSync.Text

/-- The characters with Unicode's `White_Space` property. -/
def isBlank (c : Char) : Bool :=
  let code := c.toNat
  (0x09 ≤ code && code ≤ 0x0D) || code == 0x20 || code == 0x85 || code == 0xA0 ||
    code == 0x1680 || (0x2000 ≤ code && code ≤ 0x200A) || code == 0x2028 ||
    code == 0x2029 || code == 0x202F || code == 0x205F || code == 0x3000

/-- The characters from the first to the last that is not blank. -/
def trimChars (chars : List Char) : List Char :=
  ((chars.dropWhile isBlank).reverse.dropWhile isBlank).reverse

/-- A text without its leading and trailing white space. -/
def trim (text : String) : String :=
  String.ofList (trimChars text.toList)

/-- The trimmed text, unless nothing is left of it. -/
def clean (text : String) : Option String :=
  let trimmed := trim text
  if trimmed.isEmpty then none else some trimmed

/-- Latin capitals become small letters; every other character stays. -/
def lower (text : String) : String :=
  String.ofList (text.toList.map Char.toLower)

/-- Latin small letters become capitals; every other character stays. -/
def upper (text : String) : String :=
  String.ofList (text.toList.map Char.toUpper)

end RecordSync.Text
