import RecordSync.Text.Numeral

/-! The lexical level of JSON, read one character at a time.

A text token keeps its escapes as they were written: a `\u` escape names a
16-bit unit, and whether units pair up to characters is not decided here. -/

namespace RecordSync.Json

open RecordSync.Text

/-- Why a text is not a JSON document that can be used. -/
inductive Malformed where
  | unexpected
  | unfinished
  | tooDeep
  | loneSurrogate
  | numberOutOfRange
  deriving DecidableEq, Repr

def Malformed.message : Malformed → String
  | .unexpected => "unexpected character"
  | .unfinished => "unexpected end of text"
  | .tooDeep => "nesting too deep"
  | .loneSurrogate => "lone surrogate"
  | .numberOutOfRange => "number out of range"

/-- One element of a text: a character, or a 16-bit unit given by its number. -/
inductive Glyph where
  | char (c : Char)
  | unit (code : Nat)
  deriving DecidableEq, Repr

/-- A number as it is written. The digits of its parts stand in reading order;
there is a fraction only after a point. -/
structure Numeral where
  negative : Bool
  whole : List Char
  fraction : List Char
  exponent : Option (Bool × List Char)
  deriving DecidableEq, Repr

inductive Token where
  | openArray
  | closeArray
  | openObject
  | closeObject
  | comma
  | colon
  | null
  | bool (value : Bool)
  | number (numeral : Numeral)
  | text (glyphs : List Glyph)
  deriving DecidableEq, Repr

/-- How far the number being read has come. -/
inductive Phase where
  | sign
  | zero
  | whole
  | point
  | fraction
  | mark
  | markSign
  | exponent
  deriving DecidableEq, Repr

/-- The phases at which a number may end. -/
def Phase.isComplete : Phase → Bool
  | .zero => true
  | .whole => true
  | .fraction => true
  | .exponent => true
  | _ => false

/-- What is open between two characters. Digits and glyphs already read are
kept newest first. -/
inductive Scan where
  | ready
  | word (rest : List Char) (token : Token)
  | number (phase : Phase) (numeral : Numeral)
  | text (glyphs : List Glyph)
  | escape (glyphs : List Glyph)
  | unit (glyphs : List Glyph) (owed value : Nat)
  deriving DecidableEq, Repr

def isSpace (c : Char) : Bool :=
  c == ' ' || c == '\t' || c == '\n' || c == '\r'

def Numeral.empty (negative : Bool) : Numeral := ⟨negative, [], [], none⟩

/-- The numeral with its digits in reading order. -/
def Numeral.settle (numeral : Numeral) : Numeral :=
  { numeral with
    whole := numeral.whole.reverse
    fraction := numeral.fraction.reverse
    exponent := numeral.exponent.map fun (negative, digits) => (negative, digits.reverse) }

/-- A character where no token is open. -/
def Scan.begin (c : Char) : Except Malformed (Scan × List Token) :=
  if isSpace c then .ok (.ready, [])
  else if c = '[' then .ok (.ready, [.openArray])
  else if c = ']' then .ok (.ready, [.closeArray])
  else if c = '\x7b' then .ok (.ready, [.openObject])
  else if c = '\x7d' then .ok (.ready, [.closeObject])
  else if c = ',' then .ok (.ready, [.comma])
  else if c = ':' then .ok (.ready, [.colon])
  else if c = '"' then .ok (.text [], [])
  else if c = 'n' then .ok (.word ['u', 'l', 'l'] .null, [])
  else if c = 't' then .ok (.word ['r', 'u', 'e'] (.bool true), [])
  else if c = 'f' then .ok (.word ['a', 'l', 's', 'e'] (.bool false), [])
  else if c = '-' then .ok (.number .sign (.empty true), [])
  else if c = '0' then .ok (.number .zero ⟨false, [c], [], none⟩, [])
  else if c.isDigit then .ok (.number .whole ⟨false, [c], [], none⟩, [])
  else .error .unexpected

/-- The number continued by a character, or none if the character is no part of it. -/
def extend (phase : Phase) (numeral : Numeral) (c : Char) : Option (Phase × Numeral) :=
  match phase with
  | .sign =>
    if c = '0' then some (.zero, { numeral with whole := [c] })
    else if c.isDigit then some (.whole, { numeral with whole := [c] })
    else none
  | .zero => afterWhole
  | .whole => if c.isDigit then some (.whole, { numeral with whole := c :: numeral.whole }) else afterWhole
  | .point => inFraction
  | .fraction => inFraction.or mark?
  | .mark =>
    if c = '+' then some (.markSign, { numeral with exponent := some (false, []) })
    else if c = '-' then some (.markSign, { numeral with exponent := some (true, []) })
    else inExponent
  | .markSign => inExponent
  | .exponent => inExponent
where
  mark? : Option (Phase × Numeral) :=
    if c = 'e' ∨ c = 'E' then some (.mark, { numeral with exponent := some (false, []) }) else none
  afterWhole : Option (Phase × Numeral) :=
    if c = '.' then some (.point, numeral) else mark?
  inFraction : Option (Phase × Numeral) :=
    if c.isDigit then some (.fraction, { numeral with fraction := c :: numeral.fraction }) else none
  inExponent : Option (Phase × Numeral) :=
    if c.isDigit then
      let (negative, digits) := numeral.exponent.getD (false, [])
      some (.exponent, { numeral with exponent := some (negative, c :: digits) })
    else none

/-- The character that a one-letter escape stands for. -/
def escaped? (c : Char) : Option Char :=
  if c = '"' ∨ c = '\\' ∨ c = '/' then some c
  else if c = 'b' then some '\x08'
  else if c = 'f' then some '\x0c'
  else if c = 'n' then some '\n'
  else if c = 'r' then some '\r'
  else if c = 't' then some '\t'
  else none

/-- One character: the state after it and the tokens that it completes. A
number is completed by the character that follows it. -/
def Scan.step (state : Scan) (c : Char) : Except Malformed (Scan × List Token) :=
  match state with
  | .ready => begin c
  | .word [] _ => .error .unexpected
  | .word [last] token => if c = last then .ok (.ready, [token]) else .error .unexpected
  | .word (next :: rest) token => if c = next then .ok (.word rest token, []) else .error .unexpected
  | .number phase numeral =>
    match extend phase numeral c with
    | some (phase, numeral) => .ok (.number phase numeral, [])
    | none =>
      if phase.isComplete then
        (begin c).map fun (state, tokens) => (state, .number numeral.settle :: tokens)
      else .error .unexpected
  | .text glyphs =>
    if c = '"' then .ok (.ready, [.text glyphs.reverse])
    else if c = '\\' then .ok (.escape glyphs, [])
    else if c.toNat < 0x20 then .error .unexpected
    else .ok (.text (.char c :: glyphs), [])
  | .escape glyphs =>
    if c = 'u' then .ok (.unit glyphs 4 0, [])
    else match escaped? c with
      | some meant => .ok (.text (.char meant :: glyphs), [])
      | none => .error .unexpected
  | .unit glyphs owed value =>
    match hexDigit? c with
    | some digit =>
      let value := value * 16 + digit
      if owed ≤ 1 then .ok (.text (.unit value :: glyphs), [])
      else .ok (.unit glyphs (owed - 1) value, [])
    | none => .error .unexpected

/-- The tokens that the end of the text completes. -/
def Scan.finish : Scan → Except Malformed (List Token)
  | .ready => .ok []
  | .number phase numeral =>
    if phase.isComplete then .ok [.number numeral.settle] else .error .unfinished
  | _ => .error .unfinished

/-- The tokens of a text from a state on, put before those found earlier,
which are newest first. -/
def scanFrom (found : List Token) (state : Scan) : List Char → Except Malformed (List Token)
  | [] => state.finish.map fun tokens => (tokens.reverse ++ found).reverse
  | c :: rest =>
    match state.step c with
    | .ok (next, tokens) => scanFrom (tokens.reverse ++ found) next rest
    | .error fault => .error fault

/-- The tokens of a text. -/
def tokens (text : String) : Except Malformed (List Token) :=
  scanFrom [] .ready text.toList

end RecordSync.Json
