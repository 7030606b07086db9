/-! Paths in a file system, by the names along them, and what stands where a file should be. -/

namespace RecordSync

inductive FileState where
  | missing
  | directory
  | bytes (bytes : List UInt8)
  deriving DecidableEq, Repr, Inhabited

def FileState.isPresent : FileState → Bool
  | .missing => false
  | _ => true

end RecordSync

namespace RecordSync.Files

/-- How the text of a path ends: in a name, in a slash, or in a dot that stands for
the directory itself. The path of a file ends in a name. -/
inductive Closing where
  | name
  | slash
  | dot
  deriving DecidableEq, Repr

/-- A path from the root or from the working directory. -/
structure Path where
  fromRoot : Bool
  names : List String
  closing : Closing
  deriving DecidableEq, Repr

namespace Path

/-- The pieces of a text between slashes. -/
def split (current : List Char) : List Char → List (List Char)
  | [] => [current.reverse]
  | c :: rest => if c = '/' then current.reverse :: split [] rest else split (c :: current) rest

/-- A piece without a name: nothing between two slashes, or the directory itself. -/
def isNameless (piece : List Char) : Bool :=
  piece.isEmpty || piece == ['.']

/-- The closing of a text by its pieces. Slashes behind the last dot change nothing. -/
def closingOf (pieces : List (List Char)) : Closing :=
  match (pieces.reverse.dropWhile List.isEmpty).head?, pieces.getLast? with
  | some ['.'], _ => .dot
  | _, some [] => .slash
  | _, _ => .name

def ofText (text : String) : Path :=
  let pieces := split [] text.toList
  { fromRoot := text.startsWith "/"
    names := (pieces.filter (!isNameless ·)).map String.ofList
    closing := closingOf pieces }

def closingText : Closing → String
  | .name => ""
  | .slash => "/"
  | .dot => "/."

def text (path : Path) : String :=
  (if path.fromRoot then "/" else "") ++ "/".intercalate path.names ++
    (if path.names.isEmpty then "" else closingText path.closing)

/-- The directory of what a path leads to. -/
def parent (path : Path) : Path :=
  { path with names := path.names.dropLast, closing := .name }

/-- What stands beside a file under its name with an ending. -/
def beside (path : Path) (ending : String) : Path :=
  { path with names := path.names.dropLast ++ [path.names.getLastD "" ++ ending], closing := .name }

/-- One more name after those that lead somewhere by name alone, newest first. A step
upwards undoes the name before it, if there is one. -/
def follow (fromRoot : Bool) (done : List String) (name : String) : List String :=
  if name ≠ ".." then name :: done
  else
    match done with
    | [] => if fromRoot then [] else [name]
    | last :: before => if last = ".." then name :: done else before

/-- The path that is left when the steps upwards are undone by name alone. -/
def plain (path : Path) : Path :=
  { path with names := (path.names.foldl (follow path.fromRoot) []).reverse, closing := .name }

/-- The bytes of names with a slash before each of them. -/
def extent (names : List String) : Nat :=
  names.foldl (fun bytes name => bytes + name.utf8ByteSize + 1) 0

/-- The greatest extent that comes up while the steps upwards are undone. -/
def peak (path : Path) : Nat :=
  (path.names.foldl
    (fun (done, bytes) name =>
      let done := follow path.fromRoot done name
      (done, max bytes (extent done)))
    ([], 0)).2

end Path

/-- The bytes that a name may have. -/
def longestName : Nat := 255

def isTooLong (name : String) : Bool := longestName < name.utf8ByteSize

end RecordSync.Files
