import RecordSync.Files.Tree
import RecordSync.Interchange.StoreFile
import RecordSync.Store.Address

/-! The machine under the commands: its files, its clock and its source of
randomness. Any monad may carry it, so commands run on a real machine and on
one that is a mere value alike. -/

namespace RecordSync.Command

open RecordSync.Calendar RecordSync.Files RecordSync.Store

structure Machine (m : Type → Type) where
  /-- What a path leads to. -/
  look : Path → m FileState
  /-- The store in a file, if the file holds one. -/
  storeAt : Path → m (Option Store)
  /-- Makes one directory inside another that is there. -/
  makeFolder : Path → m (Except FileFault Unit)
  /-- Writes a file whole. -/
  write : Path → Content → m (Except FileFault Unit)
  /-- Takes a file away. -/
  remove : Path → m Unit
  now : m Instant
  /-- Sixteen bytes that nobody can foretell. -/
  randomBytes : m (List UInt8)

/-- What a command does. What it said before it failed stays said. -/
abbrev Action (m : Type → Type) (α : Type) := ExceptT Failure (StateT String m) α

variable {m : Type → Type} [Monad m] {α : Type}

def say (line : String) : Action m Unit :=
  modify (· ++ line ++ "\n")

def sayAll (lines : List String) : Action m Unit :=
  lines.forM say

def ask (question : m α) : Action m α :=
  liftM (n := ExceptT Failure (StateT String m)) (liftM (n := StateT String m) question)

/-- An answer that may be a fault of the file system. -/
def tryFiles (question : m (Except FileFault α)) : Action m α := do
  match ← ask question with
  | .ok value => return value
  | .error fault => throw (.file fault)

namespace Machine

variable (machine : Machine m)

/-- A directory that could not be made is no trouble if it is there anyway. -/
def orThere (path : Path) (result : Except FileFault Unit) : m (Except FileFault Unit) := do
  if (← machine.look path) == .directory then return .ok () else return result

/-- Makes the directory of a path, and before it those around it that are missing,
as many levels of them as are given. What was made before a failure stays. -/
def makeFoldersWithin : Nat → Path → m (Except FileFault Unit)
  | 0, _ => return .ok ()
  | levels + 1, path => do
    match ← machine.makeFolder path with
    | .ok () => return .ok ()
    | .error .missing =>
      match ← makeFoldersWithin levels path.parent with
      | .error fault => return .error fault
      | .ok () => machine.orThere path (← machine.makeFolder path)
    | .error fault => machine.orThere path (.error fault)

def makeFolders (path : Path) : m (Except FileFault Unit) :=
  machine.makeFoldersWithin path.names.length path

def removeFile (path : Path) : m Unit := do
  match ← machine.look path with
  | .bytes _ => machine.remove path
  | _ => return ()

end Machine

/-! Stores in files -/

/-- What a file is to somebody who looks for a store in it. -/
inductive Standing where
  | blank
  | store (store : Store)
  | foreign

/-- A file without bytes, or with a single one, is a store that is still to be made. -/
def standingOf (bytes : List UInt8) : Option Store → Standing
  | some store => .store store
  | none => if bytes.length ≤ 1 then .blank else .foreign

/-- A store together with where it is kept and what is kept there. One in memory
has no place. -/
structure Opened where
  name : String
  place : Option Path
  kept : Option Store
  store : Store

/-- The endings of the files that a writer may have beside a store: what undoes its
changes, what it still has to do, and an index of that. -/
def journalEnding : String := "-journal"
def logEnding : String := "-wal"
def indexEnding : String := "-shm"

/-- The bytes that the path of a store may have, its journal included. -/
def longestStorePath : Nat := 512

/-- Whether the path of a store is too long, be it only until its steps upwards are
undone. -/
def isTooFar (path : Path) : Bool :=
  longestStorePath ≤ path.peak ||
    longestStorePath < Path.extent path.plain.names + journalEnding.length

namespace Machine

variable (machine : Machine m)

/-- A journal with something in it is undone and gone. Against a store that is still
to be made there is nothing to undo, whatever the journal says. -/
def settleJournal (journal : Path) (standing : Standing) : Action m Unit := do
  match standing, ← ask (machine.look journal) with
  | .blank, .bytes (_ :: _) => ask (machine.remove journal)
  | .blank, _ => return ()
  | _, .directory => throw (.database .unserviceable)
  | _, .bytes (first :: _) => if first ≠ 0 then ask (machine.remove journal)
  | _, _ => return ()

/-- A store always has a log while it is open, and clears it away with its index.
Anything else has one if there is something in it. -/
def settleLog (log index : Path) (standing : Standing) : Action m Unit := do
  let clear : Action m Unit := do
    ask (machine.removeFile log)
    ask (machine.removeFile index)
  match standing, ← ask (machine.look log) with
  | .blank, .directory => throw (.database .unserviceable)
  | .blank, .bytes (_ :: _) => ask (machine.remove log)
  | .blank, _ => return ()
  | _, .directory => throw (.database .cannotOpenBeside)
  | .store _, _ => clear
  | .foreign, .bytes (_ :: _) => clear
  | .foreign, _ => return ()

/-- To make a store takes a journal for as long as that lasts, and then there is a
store, with a log and an index. -/
def makeBeside (journal log index : Path) : Action m Unit := do
  if isTooLong (journal.names.getLastD "") then throw (.database .cannotOpenBeside)
  if (← ask (machine.look journal)) == .directory then throw (.database .cannotOpenBeside)
  for path in [journal, log, index] do ask (machine.removeFile path)

/-- Makes sure that there is a file, and returns its bytes. A directory can be
opened to be read, but then it has none. -/
def fileOf (name : String) (path : Path) (access : Access) : Action m (List UInt8) := do
  let refused : Failure := .database (.cannotOpen name)
  match ← ask (machine.look path) with
  | .directory => throw (if access = .readOnly then .database .unserviceable else refused)
  | .bytes bytes => return bytes
  | .missing =>
    if access ≠ .create then throw refused
    match ← ask (machine.write path (.bytes [])) with
    | .ok () => return []
    | .error _ => throw refused

/-- Opens the store in a file. Steps upwards in its path are undone by name. -/
def openFile (name : String) (given : Path) (access : Access) : Action m Opened := do
  if isTooFar given then throw (.database (.cannotOpen name))
  let path := given.plain
  let bytes ← machine.fileOf name path access
  let standing := standingOf bytes (← ask (machine.storeAt path))
  let (journal, log, index) :=
    (path.beside journalEnding, path.beside logEnding, path.beside indexEnding)
  machine.settleJournal journal standing
  machine.settleLog log index standing
  match standing with
  | .foreign => throw (.database .notDatabase)
  | .store store =>
    if access = .readOnly then throw (.database .readOnly)
    return ⟨name, some path, some store, store⟩
  | .blank =>
    if access = .readOnly then throw (.database .readOnly)
    machine.makeBeside journal log index
    return ⟨name, some path, none, .empty⟩

/-- Opens the store with a name; a new one is empty. -/
def openStore (name : String) : Action m Opened := do
  match Address.ofText name with
  | .error fault => throw (.database (.badAddress fault))
  | .ok .memory => return ⟨name, none, none, .empty⟩
  | .ok (.file path access) => machine.openFile name (.ofText path) access

/-- Writes a store back if its file has to change. -/
def keep (opened : Opened) (store : Store) : Action m Opened := do
  match opened.place with
  | none => return { opened with store }
  | some path =>
    if opened.kept = some store then return { opened with store }
    match ← ask (machine.write path (.store store)) with
    | .ok () => return { opened with kept := some store, store }
    | .error _ => throw (.database (.cannotOpen opened.name))

/-- Opens a store that is only to be read; a new one is written all the same. -/
def openToRead (name : String) : Action m Store := do
  let opened ← machine.openStore name
  return (← machine.keep opened opened.store).store

end Machine

/-- The bytes of a file. -/
def bytesIn : Content → List UInt8
  | .bytes bytes => bytes
  | .store store => store.bytes

/-- A machine that is a value. Its clock stands still, and its random bytes are
those of a counter. -/
structure Workbench where
  tree : Tree
  clock : Instant
  drawn : Nat

namespace Workbench

def start (clock : Instant) : Workbench := ⟨.empty, clock, 0⟩

/-- A change of the files, if it succeeds. -/
def change (edit : Tree → Except FileFault Tree) : StateM Workbench (Except FileFault Unit) := do
  let bench ← get
  match edit bench.tree with
  | .ok tree =>
    set { bench with tree }
    return .ok ()
  | .error fault => return .error fault

/-- The lowest bytes of a number, lowest first. -/
def bytesOf : Nat → Nat → List UInt8
  | 0, _ => []
  | count + 1, number => (number % 256).toUInt8 :: bytesOf count (number / 256)

/-- What a path leads to in a tree. -/
def stateAt (tree : Tree) (path : Path) : FileState :=
  match tree.find path with
  | .error _ => .missing
  | .ok (.folder _) => .directory
  | .ok (.file content) => .bytes (bytesIn content)

/-- The store to which a path leads in a tree. -/
def storeIn? (tree : Tree) (path : Path) : Option Store :=
  match tree.find path with
  | .ok (.file (.store store)) => some store
  | _ => none

def machine : Machine (StateM Workbench) where
  look path := return stateAt (← get).tree path
  storeAt path := return storeIn? (← get).tree path
  makeFolder path := change (·.makeFolder path)
  write path content := change (·.write path content)
  remove path := modify fun bench => { bench with tree := bench.tree.remove path }
  now := return (← get).clock
  randomBytes := modifyGet fun bench => (bytesOf 16 bench.drawn, { bench with drawn := bench.drawn + 1 })

end Workbench

end RecordSync.Command
