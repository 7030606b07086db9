import RecordSync.Fault
import RecordSync.Text.Numeral
import RecordSync.Text.Utf8

/-! Where a store is kept, by its name: in a file, or in memory and nowhere else.

A name is the path of a file, or an address that starts with `file:`. An address
has escapes of a percent sign and two hexadecimal digits, and behind a question
mark it has parameters, some of which say how the file is opened. -/

namespace RecordSync.Store

open RecordSync.Text

/-- How a file is opened: to be read only, if it is there, or made if it is not. -/
inductive Access where
  | readOnly
  | present
  | create
  deriving DecidableEq, Repr

inductive Address where
  | memory
  | file (path : String) (access : Access)
  deriving DecidableEq, Repr

namespace Address

def scheme : List UInt8 := Utf8.encode "file:"
def memoryName : String := ":memory:"

/-- The bytes up to the first mark, and those behind it if there is one. -/
def cut (mark : UInt8) (bytes : List UInt8) : List UInt8 × Option (List UInt8) :=
  match bytes.span (· != mark) with
  | (before, []) => (before, none)
  | (before, _ :: behind) => (before, some behind)

/-- The pieces of a text between marks. -/
def pieces (mark : UInt8) (current : List UInt8) : List UInt8 → List (List UInt8)
  | [] => [current.reverse]
  | byte :: rest =>
    if byte = mark then current.reverse :: pieces mark [] rest else pieces mark (byte :: current) rest

def hexByte? (byte : UInt8) : Option Nat := hexDigit? (Char.ofNat byte.toNat)

def percent : UInt8 := 37

/-- The byte that an escape behind a percent sign stands for. -/
def escapedByte? : List UInt8 → Option UInt8
  | high :: low :: _ => do return ((← hexByte? high) * 16 + (← hexByte? low)).toUInt8
  | _ => none

/-- Bytes with their escapes resolved; an escaped zero ends them. As many bytes as
the first argument says are passed over, for they belong to an escape. -/
def unescape : Nat → List UInt8 → List UInt8
  | _, [] => []
  | passed + 1, _ :: rest => unescape passed rest
  | 0, byte :: rest =>
    match if byte = percent then escapedByte? rest else none with
    | none => byte :: unescape 0 rest
    | some 0 => []
    | some escaped => escaped :: unescape 2 rest

def spelled (bytes : List UInt8) : String := Utf8.decodeLossy (unescape 0 bytes)

/-- What is left of an address without its authority, which can only be this machine. -/
def withoutAuthority : List UInt8 → Except AddressFault (List UInt8)
  | 47 :: 47 :: rest =>
    let (authority, path) := rest.span (· != 47)
    if authority.isEmpty ∨ authority = Utf8.encode "localhost" then .ok path
    else .error (.authority (Utf8.decodeLossy authority))
  | bytes => .ok bytes

/-- The manners of opening that a parameter can ask for. -/
inductive Mode where
  | file (access : Access)
  | memory
  deriving DecidableEq, Repr

def Mode.ofName? : String → Option Mode
  | "ro" => some (.file .readOnly)
  | "rw" => some (.file .present)
  | "rwc" => some (.file .create)
  | "memory" => some .memory
  | _ => none

/-- How far a mode goes. A store in memory asks for nothing. -/
def Mode.reach : Mode → Nat
  | .memory => 0
  | .file .readOnly => 1
  | .file .present => 2
  | .file .create => 3

/-- Whether a mode may follow another one. Nothing that was given up comes back,
but a store in memory had nothing to give up. -/
def Mode.allows (before after : Mode) : Bool :=
  before == .memory || after.reach ≤ before.reach

def systems : List String := ["unix", "unix-dotfile", "unix-excl", "unix-none", "memdb"]

/-- The system that keeps its files in memory. -/
def memorySystem : String := "memdb"

/-- What the parameters read so far amount to. -/
structure Manner where
  mode : Mode
  system : Option String
  deriving DecidableEq, Repr

def Manner.standard : Manner := ⟨.file .create, none⟩

/-- One parameter with its value. A name without a meaning is passed over. -/
def Manner.take (manner : Manner) (name value : String) : Except AddressFault Manner :=
  if name = "vfs" then .ok { manner with system := some value }
  else if name = "cache" then
    if value = "shared" ∨ value = "private" then .ok manner else .error (.noSuchMode name value)
  else if name = "mode" then
    match Mode.ofName? value with
    | none => .error (.noSuchMode "access" value)
    | some mode =>
      if manner.mode.allows mode then .ok { manner with mode }
      else .error (.modeNotAllowed "access" value)
  else .ok manner

/-- The parameters of an address, each a name and perhaps a value behind an equals
sign. One without a name is none. -/
def parameters (query : List UInt8) : List (String × String) :=
  (pieces 38 [] query).filterMap fun piece =>
    let (name, value) := cut 61 piece
    if (unescape 0 name).isEmpty then none else some (spelled name, spelled (value.getD []))

def Manner.ofParameters (given : List (String × String)) : Except AddressFault Manner := do
  let manner ← given.foldlM (fun manner (name, value) => manner.take name value) Manner.standard
  match manner.system with
  | some system =>
    if systems.contains system then return manner else throw (.noSuchSystem system)
  | none => return manner

/-- A file without a name is kept in memory. -/
def ofPath (path : String) (access : Access) : Address :=
  if path.isEmpty ∨ path = memoryName then .memory else .file path access

def ofManner (path : String) (manner : Manner) : Address :=
  match manner.mode with
  | .memory => .memory
  | .file access => if manner.system = some memorySystem then .memory else ofPath path access

def ofText (text : String) : Except AddressFault Address := do
  let bytes := Utf8.encode text
  if !scheme.isPrefixOf bytes then return ofPath text .create
  let (address, _) := cut 35 (← withoutAuthority (bytes.drop scheme.length))
  let (path, query) := cut 63 address
  return ofManner (spelled path) (← Manner.ofParameters (parameters (query.getD [])))

end Address

end RecordSync.Store
