import RecordSync.Settings.Basic

/-! Failures of the program as a whole: their messages, the codes by which a
caller tells them apart, and what an operator may do next. -/

namespace RecordSync

open RecordSync.Record RecordSync.Settings

/-- Why an argument cannot be used. -/
inductive ArgumentFault where
  | emptyBatch
  | reported (message : String)
  deriving DecidableEq, Repr

def ArgumentFault.message : ArgumentFault → String
  | .emptyBatch => "--batch-size must be at least 1"
  | .reported message => message

inductive Failure where
  | notInitialized
  | alreadyInitialized (path : String)
  | quarantineNotFound (id : Int)
  | rowNotFound (entity : Entity) (externalId : String)
  | sync (fault : SyncFault)
  | runStopped (reason : String)
  | database (fault : StoreFault)
  | file (fault : FileFault)
  | json (message : String)
  | invalidArgument (fault : ArgumentFault)
  | config (fault : ConfigFault)
  | other (message : String)
  deriving DecidableEq, Repr

/-- The code of a failure; it fixes the exit status of the program. -/
inductive FailureCode where
  | notInitialized
  | alreadyInitialized
  | database
  | quarantineNotFound
  | rowNotFound
  | invalidArgument
  | sync
  | cursorConflict
  | config
  | file
  | json
  | internal
  deriving DecidableEq, Repr

namespace FailureCode

def name : FailureCode → String
  | notInitialized => "NOT_INITIALIZED"
  | alreadyInitialized => "ALREADY_INITIALIZED"
  | database => "DATABASE_ERROR"
  | quarantineNotFound => "QUARANTINE_NOT_FOUND"
  | rowNotFound => "ROW_NOT_FOUND"
  | invalidArgument => "INVALID_ARGUMENT"
  | sync => "SYNC_ERROR"
  | cursorConflict => "CURSOR_CONFLICT"
  | config => "CONFIG_ERROR"
  | file => "IO_ERROR"
  | json => "JSON_ERROR"
  | internal => "INTERNAL_ERROR"

def exitStatus : FailureCode → Nat
  | internal => 1
  | notInitialized => 2
  | alreadyInitialized => 2
  | database => 2
  | quarantineNotFound => 3
  | rowNotFound => 3
  | invalidArgument => 4
  | sync => 6
  | cursorConflict => 6
  | config => 7
  | file => 8
  | json => 8

/-- Whether the same command may succeed when it is run again later. -/
def isRetryable : FailureCode → Bool
  | database => true
  | sync => true
  | cursorConflict => true
  | _ => false

end FailureCode

/-- Whether a text holds another one. -/
def holds (part : List Char) : List Char → Bool
  | [] => part.isEmpty
  | c :: rest => part.isPrefixOf (c :: rest) || holds part rest

namespace Failure

def message : Failure → String
  | notInitialized => "Not initialized: run `trs-sync init` first"
  | alreadyInitialized path => "Already initialized at " ++ path
  | quarantineNotFound id => "Quarantine entry not found: " ++ toString id
  | rowNotFound entity externalId => "No " ++ entity.name ++ " row with external id " ++ externalId
  | sync fault => fault.message
  | runStopped reason => "Sync run stopped: " ++ reason
  | database fault => "Database error: " ++ fault.message
  | file fault => "IO error: " ++ fault.message
  | json message => "JSON error: " ++ message
  | invalidArgument fault => "Invalid argument: " ++ fault.message
  | config fault => "Configuration error: " ++ fault.message
  | other message => message

/-- The code of a fault between the feed and the store. -/
def codeOfSync : SyncFault → FailureCode
  | .cursorMoved .. => .cursorConflict
  | .store _ => .database
  | .file _ => .file
  | .json _ => .json
  | .constraint .. => .sync
  | .feed _ => .sync

def code : Failure → FailureCode
  | notInitialized => .notInitialized
  | alreadyInitialized _ => .alreadyInitialized
  | quarantineNotFound _ => .quarantineNotFound
  | rowNotFound .. => .rowNotFound
  | sync fault => codeOfSync fault
  | runStopped _ => .sync
  | database _ => .database
  | file _ => .file
  | json _ => .json
  | invalidArgument _ => .invalidArgument
  | config _ => .config
  | other _ => .internal

/-- The next step for the operator, where there is an obvious one. -/
def hint? : Failure → Option String
  | notInitialized => some "Run `trs-sync init` to create the database"
  | alreadyInitialized path => some ("Database already exists at " ++ path ++
      ". Use `--force` to reapply the schema.")
  | quarantineNotFound id => some ("No quarantine entry " ++ toString id ++
      ". Use `trs-sync quarantine list --all` to see entries.")
  | rowNotFound entity _ => some ("The " ++ entity.name ++
      " may not have synced yet. Check `trs-sync status` for pending retries.")
  | sync (.cursorMoved ..) => some
      "Another worker advanced this cursor. Applied records are durable; rerun to continue."
  | sync (.constraint ..) => some
      "A concurrent worker wrote the same row. Rerun to re-read current state."
  | runStopped _ => some
      "Inspect the logged record, then rerun with `--ignore-invalid` or fix the source."
  | invalidArgument fault =>
    if holds "entity".toList fault.message.toList then
      some "Valid entity types: contact, induction, all"
    else none
  | config _ => some "Check the config file and TRS_SYNC_* environment variables."
  | _ => none

end Failure

end RecordSync
