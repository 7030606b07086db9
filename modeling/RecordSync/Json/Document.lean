import RecordSync.Json.Token

/-! JSON documents: the tree that a sequence of tokens spells out. Nothing is
interpreted here, so a document may hold numbers out of range, lone surrogates
and any depth of nesting. -/

namespace RecordSync.Json

inductive Document where
  | null
  | bool (value : Bool)
  | number (numeral : Numeral)
  | text (glyphs : List Glyph)
  | array (members : List Document)
  | object (members : List (List Glyph × Document))
  deriving Repr, Inhabited

/-- An array or object that is still open, with its members newest first; in an
object the value of the last key is still to come. -/
inductive Frame where
  | array (members : List Document)
  | object (members : List (List Glyph × Document)) (key : List Glyph)

/-- What may follow the tokens read so far. The stack holds the open frames
around the place of reading, innermost first. -/
inductive Reading where
  | wanted (stack : List Frame)
  | arrayStart (stack : List Frame)
  | arrayNext (stack : List Frame) (members : List Document)
  | objectStart (stack : List Frame)
  | objectKey (stack : List Frame) (members : List (List Glyph × Document))
  | objectColon (stack : List Frame) (members : List (List Glyph × Document)) (key : List Glyph)
  | objectNext (stack : List Frame) (members : List (List Glyph × Document))
  | done (document : Document)

/-- A finished value takes its place in the innermost open frame. -/
def Reading.place (document : Document) : List Frame → Reading
  | [] => .done document
  | .array members :: stack => .arrayNext stack (document :: members)
  | .object members key :: stack => .objectNext stack ((key, document) :: members)

/-- The token at which a value starts. -/
def Reading.begin (stack : List Frame) : Token → Except Malformed Reading
  | .null => .ok (place .null stack)
  | .bool value => .ok (place (.bool value) stack)
  | .number numeral => .ok (place (.number numeral) stack)
  | .text glyphs => .ok (place (.text glyphs) stack)
  | .openArray => .ok (.arrayStart stack)
  | .openObject => .ok (.objectStart stack)
  | _ => .error .unexpected

/-- One token. -/
def Reading.step (state : Reading) (token : Token) : Except Malformed Reading :=
  match state with
  | .wanted stack => begin stack token
  | .arrayStart stack =>
    match token with
    | .closeArray => .ok (place (.array []) stack)
    | token => begin (.array [] :: stack) token
  | .arrayNext stack members =>
    match token with
    | .comma => .ok (.wanted (.array members :: stack))
    | .closeArray => .ok (place (.array members.reverse) stack)
    | _ => .error .unexpected
  | .objectStart stack =>
    match token with
    | .closeObject => .ok (place (.object []) stack)
    | .text key => .ok (.objectColon stack [] key)
    | _ => .error .unexpected
  | .objectKey stack members =>
    match token with
    | .text key => .ok (.objectColon stack members key)
    | _ => .error .unexpected
  | .objectColon stack members key =>
    match token with
    | .colon => .ok (.wanted (.object members key :: stack))
    | _ => .error .unexpected
  | .objectNext stack members =>
    match token with
    | .comma => .ok (.objectKey stack members)
    | .closeObject => .ok (place (.object members.reverse) stack)
    | _ => .error .unexpected
  | .done _ => .error .unexpected

/-- The document that tokens complete. -/
def Document.ofTokens (state : Reading) : List Token → Except Malformed Document
  | [] => match state with
    | .done document => .ok document
    | _ => .error .unfinished
  | token :: rest =>
    match state.step token with
    | .ok next => ofTokens next rest
    | .error fault => .error fault

/-- The document that a text spells out. -/
def Document.ofText (text : String) : Except Malformed Document :=
  match tokens text with
  | .ok found => ofTokens (.wanted []) found
  | .error fault => .error fault

mutual

/-- How many arrays and objects enclose the innermost value, itself included. -/
def Document.depth : Document → Nat
  | .array members => depthOfList members + 1
  | .object members => depthOfMembers members + 1
  | _ => 0

def depthOfList : List Document → Nat
  | [] => 0
  | document :: rest => max document.depth (depthOfList rest)

def depthOfMembers : List (List Glyph × Document) → Nat
  | [] => 0
  | (_, document) :: rest => max document.depth (depthOfMembers rest)

end

end RecordSync.Json
