import RecordSync.Fault
import RecordSync.Files.Path
import RecordSync.Store.Basic

/-! A file system as a value: a tree of directories and files. -/

namespace RecordSync.Files

/-- Mere bytes, or a store. No bytes that are written into a file make it a store. -/
inductive Content where
  | bytes (bytes : List UInt8)
  | store (store : Store)

inductive Tree where
  | file (content : Content)
  | folder (entries : List (String × Tree))

namespace Tree

/-- The name under which the root directory stands in the working directory,
where nothing else can have it. -/
def rootName : String := "/"

/-- A file system that holds nothing but the working directory, which is the top
of the tree, and the root directory. -/
def empty : Tree := .folder [(rootName, .folder [])]

instance : Inhabited Tree := ⟨.empty⟩

/-- The names to follow from the top of the tree. -/
def steps (path : Path) : List String :=
  if path.fromRoot then rootName :: path.names else path.names

def child? (name : String) (entries : List (String × Tree)) : Option Tree :=
  (entries.find? (·.1 == name)).map (·.2)

/-- The part of a tree at a place. -/
def at? : Tree → List String → Option Tree
  | tree, [] => some tree
  | .file _, _ :: _ => none
  | .folder entries, name :: rest => (child? name entries).bind (at? · rest)

/-- Entries with one of them replaced, or added at the end. -/
def setChild (name : String) (tree : Tree) : List (String × Tree) → List (String × Tree)
  | [] => [(name, tree)]
  | (other, held) :: rest =>
    if other = name then (name, tree) :: rest else (other, held) :: setChild name tree rest

/-- The tree with a part put in. Directories on the way to it are made; a file
on the way stays, and then nothing is put in. -/
def put : Tree → List String → Tree → Tree
  | _, [], part => part
  | .file content, _ :: _, _ => .file content
  | .folder entries, name :: rest, part =>
    .folder (setChild name (put ((child? name entries).getD (.folder [])) rest part) entries)

/-- The tree without the part at a place. -/
def erase : Tree → List String → Tree
  | tree, [] => tree
  | .file content, _ :: _ => .file content
  | .folder entries, [name] => .folder (entries.filter (·.1 != name))
  | .folder entries, name :: rest =>
    match child? name entries with
    | some held => .folder (setChild name (erase held rest) entries)
    | none => .folder entries

def isFolder (tree : Tree) (place : List String) : Bool :=
  match tree.at? place with
  | some (.folder _) => true
  | _ => false

/-- One step upwards. There is nothing above the top. -/
def above (place : List String) : List String :=
  if place = [rootName] then place else place.dropLast

/-- Whether a name can be looked up in what stands at a place. -/
def enterable (tree : Tree) (place : List String) (name : String) : Except FileFault Unit :=
  if !tree.isFolder place then .error .notDirectory
  else if isTooLong name then .error .nameTooLong
  else .ok ()

/-- The place to which steps lead from another one. Each of them has to lead out of
a directory and to something that is there. -/
def walk (tree : Tree) (place : List String) : List String → Except FileFault (List String)
  | [] => .ok place
  | name :: rest =>
    match tree.enterable place name with
    | .error fault => .error fault
    | .ok () =>
      if name = ".." then walk tree (above place) rest
      else if (tree.at? (place ++ [name])).isSome then walk tree (place ++ [name]) rest
      else .error .missing

/-- What a path leads to. -/
def find (tree : Tree) (path : Path) : Except FileFault Tree :=
  match tree.walk [] (steps path) with
  | .error fault => .error fault
  | .ok place =>
    match tree.at? place with
    | none => .error .missing
    | some (.file content) =>
      if path.closing = .name then .ok (.file content) else .error .notDirectory
    | some (.folder entries) => .ok (.folder entries)

/-- The place of something that a path names in a directory that is there. -/
def placeFor (tree : Tree) (path : Path) : Except FileFault (List String) := do
  let place ← tree.walk [] (steps path.parent)
  let name := path.names.getLastD ""
  tree.enterable place name
  return place ++ [name]

/-- Whether a path ends in something other than the name of what it leads to. -/
def isIndirect (path : Path) : Bool :=
  path.closing == .dot || path.names.isEmpty || path.names.getLast? == some ".."

/-- The tree with one more directory. Where something is already, there is no room
for it, and least of all where a path only leads to what is there. -/
def makeFolder (tree : Tree) (path : Path) : Except FileFault Tree :=
  if isIndirect path then do
    let _ ← tree.find path
    throw .exists
  else do
    let place ← tree.placeFor path
    if (tree.at? place).isSome then throw .exists
    return tree.put place (.folder [])

/-- A file written whole. Its directory has to be there. -/
def write (tree : Tree) (path : Path) (content : Content) : Except FileFault Tree :=
  if isIndirect path then .error .isDirectory
  else do
    let place ← tree.placeFor path
    if tree.isFolder place then throw .isDirectory
    return tree.put place (.file content)

/-- What a path leads to, taken away. -/
def remove (tree : Tree) (path : Path) : Tree :=
  match tree.walk [] (steps path) with
  | .error _ => tree
  | .ok place => tree.erase place

end Tree

end RecordSync.Files
