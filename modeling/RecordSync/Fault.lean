import RecordSync.Calendar.Reading
import RecordSync.Record.Entity

/-! What can go wrong between the feed and the store, by cause. -/

namespace RecordSync

open RecordSync.Calendar RecordSync.Record

/-- Why the file system refused. -/
inductive FileFault where
  | missing
  | exists
  | notDirectory
  | isDirectory
  | nameTooLong
  | reported (message : String)
  deriving DecidableEq, Repr

def FileFault.message : FileFault → String
  | .missing => "No such file or directory (os error 2)"
  | .exists => "File exists (os error 17)"
  | .notDirectory => "Not a directory (os error 20)"
  | .isDirectory => "Is a directory (os error 21)"
  | .nameTooLong => "File name too long (os error 36)"
  | .reported message => message

/-- Why a stored column has no value of its kind. -/
inductive ColumnFault where
  | unknownName (unknown : UnknownName)
  | date (fault : DateFault)
  | instant (millis : Int)
  | wrongKind (kind name : String)
  deriving DecidableEq, Repr

/-- The message about a column at a place, counted from zero. -/
def ColumnFault.message (place : Nat) : ColumnFault → String
  | .unknownName unknown =>
    "Conversion error from type Text at index: " ++ toString place ++ ", " ++ unknown.message
  | .date fault =>
    "Conversion error from type Text at index: " ++ toString place ++ ", " ++ fault.message
  | .instant millis =>
    "Integer " ++ toString millis ++ " out of range at index " ++ toString place
  | .wrongKind kind name =>
    "Invalid column type " ++ kind ++ " at index: " ++ toString place ++ ", name: " ++ name

/-- Why the name of a store leads nowhere. -/
inductive AddressFault where
  | authority (name : String)
  | noSuchMode (setting value : String)
  | modeNotAllowed (setting value : String)
  | noSuchSystem (name : String)
  deriving DecidableEq, Repr

def AddressFault.message : AddressFault → String
  | .authority name => "invalid uri authority: " ++ name
  | .noSuchMode setting value => "no such " ++ setting ++ " mode: " ++ value
  | .modeNotAllowed setting value => setting ++ " mode not allowed: " ++ value
  | .noSuchSystem name => "no such vfs: " ++ name

/-- Why the store could not serve a call. -/
inductive StoreFault where
  | locked
  | unreadable (place : Nat) (fault : ColumnFault)
  | positionTooLarge
  | full
  | notDatabase
  | badAddress (fault : AddressFault)
  | cannotOpen (path : String)
  | cannotOpenBeside
  | readOnly
  | unserviceable
  | reported (message : String)
  deriving DecidableEq, Repr

def StoreFault.message : StoreFault → String
  | .locked => "database is locked"
  | .unreadable place fault => fault.message place
  | .positionTooLarge => "number too large to fit in target type"
  | .notDatabase => "file is not a database"
  | .badAddress fault => fault.message
  | .full => "database or disk is full"
  | .cannotOpen path => "unable to open database file: " ++ path
  | .cannotOpenBeside => "unable to open database file"
  | .readOnly => "attempt to write a readonly database"
  | .unserviceable => "disk I/O error"
  | .reported message => message

/-- Why a write to a row was refused. Only another writer can bring this about. -/
inductive ConstraintFault where
  | duplicate (table : String)
  | syncOrder
  | rowGone (id : Int)
  | reported (message : String)
  deriving DecidableEq, Repr

def ConstraintFault.message : ConstraintFault → String
  | .duplicate table => "UNIQUE constraint failed: " ++ table ++ ".external_id"
  | .syncOrder => "CHECK constraint failed: first_synced_at <= last_synced_at"
  | .rowGone id => "row " ++ toString id ++ " no longer exists"
  | .reported message => message

/-- Why the feed could not be read, or a position in it not be kept. -/
inductive FeedFault where
  | unreadable (path : String) (fault : FileFault)
  | cursorOutOfRange (position : Nat)
  | reported (message : String)
  deriving DecidableEq, Repr

def FeedFault.message : FeedFault → String
  | .unreadable path fault => path ++ ": " ++ fault.message
  | .cursorOutOfRange position => "cursor out of range: " ++ toString position
  | .reported message => message

/-- What ends or delays the work on a feed. -/
inductive SyncFault where
  | file (fault : FileFault)
  | json (message : String)
  | store (fault : StoreFault)
  | constraint (entity : Entity) (externalId : String) (fault : ConstraintFault)
  | cursorMoved (entity : Entity) (expected found : Nat)
  | feed (fault : FeedFault)
  deriving DecidableEq, Repr

namespace SyncFault

def message : SyncFault → String
  | file fault => "IO error: " ++ fault.message
  | json message => "JSON error: " ++ message
  | store fault => "Database error: " ++ fault.message
  | constraint entity externalId fault =>
    "Constraint violation for " ++ entity.name ++ " " ++ externalId ++ ": " ++ fault.message
  | cursorMoved entity expected found =>
    "Cursor for " ++ entity.name ++ " moved concurrently (expected " ++ toString expected ++
      ", found " ++ toString found ++ ")"
  | feed fault => "Feed error: " ++ fault.message

/-- Faults after which the same record is worth another attempt. -/
def isTransient : SyncFault → Bool
  | store _ => true
  | constraint .. => true
  | _ => false

/-- Transient faults that may be the record's own. A refused write is a race
between writers and never is. -/
def countsTowardQuarantine : SyncFault → Bool
  | store _ => true
  | _ => false

end SyncFault

end RecordSync
