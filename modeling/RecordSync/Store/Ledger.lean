import RecordSync.Calendar.Instant
import RecordSync.Record.Entity

/-! Records that failed: the attempts on those still ahead of the cursor, and
the quarantine of those that were given up. -/

namespace RecordSync.Store

open RecordSync.Calendar RecordSync.Record

/-- The failed attempts on one record, which is known by its place in the feed. -/
structure Attempt where
  sequence : Nat
  externalId : Option String
  attempts : Nat
  lastError : String
  lastFailedAt : Instant
  deriving DecidableEq, Repr

/-- Counts one more failure. The external id stays as it was first given. -/
def addFailure (sequence : Nat) (externalId : Option String) (error : String) (now : Instant) :
    List Attempt → List Attempt
  | [] => [⟨sequence, externalId, 1, error, now⟩]
  | attempt :: rest =>
    if attempt.sequence = sequence then
      { attempt with attempts := attempt.attempts + 1, lastError := error, lastFailedAt := now } :: rest
    else if sequence < attempt.sequence then
      ⟨sequence, externalId, 1, error, now⟩ :: attempt :: rest
    else attempt :: addFailure sequence externalId error now rest

/-- How often a record has failed. -/
def attemptsOn (sequence : Nat) (attempts : List Attempt) : Nat :=
  ((attempts.find? (·.sequence == sequence)).map (·.attempts)).getD 0

/-- A record that was given up, with its payload for another try by hand. -/
structure Quarantined where
  id : Nat
  entity : Entity
  sequence : Nat
  externalId : Option String
  reason : String
  attempts : Nat
  payload : String
  quarantinedAt : Instant
  resolvedAt : Option Instant
  deriving DecidableEq, Repr

def Quarantined.isOpen (entry : Quarantined) : Bool :=
  entry.resolvedAt.isNone

/-- The name of a record that may lack an external id. -/
def Quarantined.subjectId (entry : Quarantined) : String :=
  entry.externalId.getD ("sequence:" ++ toString entry.sequence)

/-- The entries in the order of their ids, and the last id that was given. -/
structure Quarantine where
  entries : List Quarantined
  lastId : Nat
  deriving DecidableEq, Repr

instance : Inhabited Quarantine := ⟨⟨[], 0⟩⟩

namespace Quarantine

def empty : Quarantine := ⟨[], 0⟩

def find? (quarantine : Quarantine) (id : Int) : Option Quarantined :=
  quarantine.entries.find? fun entry => (entry.id : Int) == id

/-- The entry for a place in a feed. -/
def at? (quarantine : Quarantine) (entity : Entity) (sequence : Nat) : Option Quarantined :=
  quarantine.entries.find? fun entry => entry.entity == entity && entry.sequence == sequence

/-- An entry replaced by its successor with the same id. -/
def replace (entries : List Quarantined) (entry : Quarantined) : List Quarantined :=
  entries.map fun other => if other.id = entry.id then entry else other

/-- Takes an entry in. The one that is there for the same place gives its id
and is overwritten; even then the next id is used up. -/
def put (quarantine : Quarantine) (entry : Quarantined) : Quarantine × Quarantined :=
  let nextId := quarantine.lastId + 1
  match quarantine.at? entry.entity entry.sequence with
  | some existing =>
    let entry := { entry with id := existing.id }
    (⟨replace quarantine.entries entry, nextId⟩, entry)
  | none =>
    let entry := { entry with id := nextId }
    (⟨quarantine.entries ++ [entry], nextId⟩, entry)

def openCount (quarantine : Quarantine) : Nat :=
  (quarantine.entries.filter (·.isOpen)).length

/-- Whether an entry comes before another in a listing: the older one first. -/
def listedBefore (left right : Quarantined) : Bool :=
  left.quarantinedAt < right.quarantinedAt ||
    (left.quarantinedAt == right.quarantinedAt && left.id ≤ right.id)

/-- The entries, oldest first; those already resolved only on demand. -/
def list (quarantine : Quarantine) (withResolved : Bool) : List Quarantined :=
  (quarantine.entries.filter fun entry => withResolved || entry.isOpen).mergeSort listedBefore

end Quarantine

end RecordSync.Store
