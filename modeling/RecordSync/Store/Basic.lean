import RecordSync.Number.Word
import RecordSync.Store.Ledger
import RecordSync.Store.Log
import RecordSync.Store.Rows

/-! The store: rows, the ledger of failures, the quarantine, the cursors and the
log. Each operation is one transaction: it returns the new store, or a fault
and thereby no store at all. -/

namespace RecordSync.Store

open RecordSync.Calendar RecordSync.Record

/-- A stored position in a feed. -/
structure CursorRecord where
  position : Nat
  updatedAt : Instant
  deriving DecidableEq, Repr

end RecordSync.Store

namespace RecordSync

open RecordSync.Calendar RecordSync.Record RecordSync.Store

structure Store where
  rows : PerEntity RowTable
  attempts : PerEntity (List Attempt)
  quarantine : Quarantine
  cursors : PerEntity (Option CursorRecord)
  log : Log
  deriving DecidableEq

instance : Inhabited Store :=
  ⟨⟨.both .empty, .both [], .empty, .both none, []⟩⟩

namespace Store

def empty : Store := ⟨.both .empty, .both [], .empty, .both none, []⟩

/-- The greatest position in a feed that the store can hold. -/
def greatestPosition : Nat := Number.signed64 - 1

/-- An instant as the store keeps it. -/
def kept (instant : Instant) : Instant := .ofMillis instant.millis

def count (store : Store) (entity : Entity) : Nat :=
  (store.rows.get entity).size

/-- The row with an external id. -/
def read (store : Store) (entity : Entity) (externalId : String) :
    Except SyncFault (Option Row) :=
  match (store.rows.get entity).find? externalId with
  | none => .ok none
  | some stored =>
    match stored.read with
    | .ok row => .ok (some row)
    | .error fault => .error (.store fault)

/-- The store with a table and the log replaced. -/
def withRows (store : Store) (entity : Entity) (table : RowTable) (author : Author)
    (note : Note) : Store :=
  { store with rows := store.rows.set entity table, log := store.log.append author note }

/-- Adds a row. There has to be an id left, the external id must be new, and the
row may not have been written last before it was written first. -/
def insert (store : Store) (author : Author) (row : Row) : Except SyncFault Store :=
  let table := store.rows.get row.entity
  if table.isFull then .error (.store .full)
  else if row.lastSyncedAt.millis < row.firstSyncedAt.millis then
    .error (.constraint row.entity row.externalId .syncOrder)
  else if (table.find? row.externalId).isSome then
    .error (.constraint row.entity row.externalId (.duplicate row.entity.table))
  else
    .ok (store.withRows row.entity (table.insert row) author
      (rowNote row.entity row.externalId .created none (some row.fingerprint)))

/-- Overwrites the row with an id, which must still be there under the same
external id. The instant of its creation stays, whatever the new row says. -/
def overwrite (store : Store) (author : Author) (id : Int) (row : Row) :
    Except SyncFault Store :=
  let table := store.rows.get row.entity
  match table.findExact? id row.externalId with
  | none => .error (.constraint row.entity row.externalId (.rowGone id))
  | some existing =>
    if !existing.firstSyncedAt.atMost (instantCell row.lastSyncedAt) then
      .error (.constraint row.entity row.externalId .syncOrder)
    else
      .ok (store.withRows row.entity (table.overwrite existing row) author
        (rowNote row.entity row.externalId .updated (some existing.fingerprint)
          (some row.fingerprint)))

/-- Inserts a row without an id and overwrites the one that an id names. -/
def upsert (store : Store) (author : Author) (row : Row) : Except SyncFault Store :=
  match row.id with
  | none => store.insert author row
  | some id => store.overwrite author id row

/-- Deletes the row with an external id; says whether there was one. -/
def delete (store : Store) (author : Author) (entity : Entity) (externalId : String) :
    Bool × Store :=
  let table := store.rows.get entity
  match table.find? externalId with
  | none => (false, store)
  | some existing =>
    (true, store.withRows entity (table.erase externalId) author
      (rowNote entity externalId .deleted (some existing.fingerprint) none))

/-- Counts a failed attempt on a record; returns the attempts so far. -/
def recordFailure (store : Store) (entity : Entity) (sequence : Nat)
    (externalId : Option String) (error : String) (now : Instant) :
    Except SyncFault (Nat × Store) :=
  if greatestPosition < sequence then .error (.store .positionTooLarge)
  else
    let attempts := addFailure sequence externalId error (kept now) (store.attempts.get entity)
    .ok (attemptsOn sequence attempts, { store with attempts := store.attempts.set entity attempts })

/-- What is known of a record that is given up. -/
structure Surrender where
  entity : Entity
  sequence : Nat
  externalId : Option String
  reason : String
  attempts : Nat
  payload : String
  deriving DecidableEq, Repr

/-- Gives a record up: it enters the quarantine and leaves the ledger. Returns
the id of its entry. -/
def surrender (store : Store) (author : Author) (record : Surrender) :
    Except SyncFault (Nat × Store) :=
  if greatestPosition < record.sequence then .error (.store .positionTooLarge)
  else
    let (quarantine, entry) := store.quarantine.put {
      id := 0
      entity := record.entity
      sequence := record.sequence
      externalId := record.externalId
      reason := record.reason
      attempts := record.attempts
      payload := record.payload
      quarantinedAt := kept author.time
      resolvedAt := none }
    let attempts := (store.attempts.get record.entity).filter (·.sequence != record.sequence)
    .ok (entry.id, { store with
      quarantine
      attempts := store.attempts.set record.entity attempts
      log := store.log.append author {
        subject := record.entity.name
        subjectId := entry.subjectId
        kind := .quarantined
        oldValue := none
        newValue := some (toString entry.id)
        comment := some record.reason } })

/-- Forgets the attempts on records up to a position. -/
def clearAttempts (store : Store) (entity : Entity) (position : Nat) : Except SyncFault Store :=
  if greatestPosition < position then .error (.store .positionTooLarge)
  else
    .ok { store with
      attempts := store.attempts.update entity fun attempts =>
        attempts.filter fun attempt => position < attempt.sequence }

/-- Marks a quarantine entry as resolved. Says whether it was open; without an
entry there is no answer. -/
def resolve (store : Store) (author : Author) (id : Int) (comment : Option String) :
    Option (Bool × Store) :=
  match store.quarantine.find? id with
  | none => none
  | some entry =>
    if entry.isOpen then
      let resolved := { entry with resolvedAt := some (kept author.time) }
      some (true, { store with
        quarantine := { store.quarantine with
          entries := Quarantine.replace store.quarantine.entries resolved }
        log := store.log.append author {
          subject := entry.entity.name
          subjectId := entry.subjectId
          kind := .resolved
          oldValue := none
          newValue := some (toString entry.id)
          comment } })
    else some (false, store)

end Store

end RecordSync
