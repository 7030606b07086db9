/-! Bytes read as UTF-8, one byte at a time.

A sequence that cannot be completed is set apart as the longest part that some
character could have begun with, so the same pieces give the strict reading, the
place and size of the first fault, and the reading that replaces each fault. -/

namespace RecordSync.Text.Utf8

/-- Where a reader stands between two bytes: between characters, or inside one
with the bits so far, the bytes already taken, the bytes still owed and the
range the next byte has to lie in. -/
inductive State where
  | start
  | inside (bits taken owed low high : Nat)

/-- One part of the input: a character, a part that no character continues, or
a part that the end of the input cut off. -/
inductive Piece where
  | char (c : Char)
  | refused (size : Nat)
  | cut
  deriving DecidableEq, Repr

/-- The state after a first byte, which may be a whole character or none at all. -/
def begin (byte : Nat) : State × List Piece :=
  if byte ≤ 0x7F then (.start, [.char (Char.ofNat byte)])
  else if 0xC2 ≤ byte ∧ byte ≤ 0xDF then (.inside (byte % 0x20) 1 1 0x80 0xBF, [])
  else if byte = 0xE0 then (.inside 0 1 2 0xA0 0xBF, [])
  else if byte = 0xED then (.inside 0xD 1 2 0x80 0x9F, [])
  else if 0xE1 ≤ byte ∧ byte ≤ 0xEF then (.inside (byte % 0x10) 1 2 0x80 0xBF, [])
  else if byte = 0xF0 then (.inside 0 1 3 0x90 0xBF, [])
  else if 0xF1 ≤ byte ∧ byte ≤ 0xF3 then (.inside (byte % 0x08) 1 3 0x80 0xBF, [])
  else if byte = 0xF4 then (.inside 4 1 3 0x80 0x8F, [])
  else (.start, [.refused 1])

/-- One byte. A byte that does not continue the open character ends it as a
fault and is then read as a first byte. -/
def step (state : State) (byte : Nat) : State × List Piece :=
  match state with
  | .start => begin byte
  | .inside bits taken owed low high =>
    if low ≤ byte ∧ byte ≤ high then
      let bits := bits * 0x40 + byte % 0x40
      if owed = 1 then (.start, [.char (Char.ofNat bits)])
      else (.inside bits (taken + 1) (owed - 1) 0x80 0xBF, [])
    else
      let (next, pieces) := begin byte
      (next, .refused taken :: pieces)

/-- The pieces of an input, in order. -/
def pieces (state : State) : List UInt8 → List Piece
  | [] => match state with
    | .start => []
    | .inside .. => [.cut]
  | byte :: rest =>
    let (next, found) := step state byte.toNat
    found ++ pieces next rest

/-- The first place where bytes stop being text: how many bytes before it are
text, and the size of the refused part unless the input just ended. -/
structure Fault where
  validUpTo : Nat
  size : Option Nat
  deriving DecidableEq, Repr

def Fault.message (fault : Fault) : String :=
  match fault.size with
  | some size => s!"invalid utf-8 sequence of {size} bytes from index {fault.validUpTo}"
  | none => s!"incomplete utf-8 byte sequence from index {fault.validUpTo}"

/-- The characters of the pieces, or the first fault among them. -/
def strict (offset : Nat) : List Piece → Except Fault (List Char)
  | [] => .ok []
  | .char c :: rest => (strict (offset + c.utf8Size) rest).map (c :: ·)
  | .refused size :: _ => .error ⟨offset, some size⟩
  | .cut :: _ => .error ⟨offset, none⟩

/-- The text that the bytes are, if they are UTF-8 throughout. -/
def decode (bytes : List UInt8) : Except Fault String :=
  (strict 0 (pieces .start bytes)).map String.ofList

/-- The replacement character that stands for a part which is not text. -/
def replacement : Char := Char.ofNat 0xFFFD

def Piece.lossy : Piece → Char
  | .char c => c
  | .refused _ => replacement
  | .cut => replacement

/-- A rendering for diagnostics: one replacement character for each fault. -/
def decodeLossy (bytes : List UInt8) : String :=
  String.ofList ((pieces .start bytes).map Piece.lossy)

/-- The UTF-8 bytes of a text. -/
def encode (text : String) : List UInt8 :=
  text.toUTF8.toList

end RecordSync.Text.Utf8
