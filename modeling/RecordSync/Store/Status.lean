import RecordSync.Store.Cursor

/-! A summary of the store: how far each feed is, how many rows there are, what
waits for another attempt, and what was given up. -/

namespace RecordSync.Store

open RecordSync.Record

structure EntityStatus where
  entity : Entity
  cursor : Nat
  rows : Nat
  pendingRetries : Nat
  deriving DecidableEq, Repr

structure Status where
  entities : List EntityStatus
  pending : List (Entity × Attempt)
  openQuarantine : Nat
  deriving DecidableEq, Repr

/-- The records that failed and are still ahead of their cursor, in the order of
their feeds. -/
def pending (store : Store) : List (Entity × Attempt) :=
  Entity.all.flatMap fun entity => (store.attempts.get entity).map (entity, ·)

/-- The cursors that are stored. -/
def storedCursors (store : Store) : List (Entity × CursorRecord) :=
  Entity.all.filterMap fun entity => (store.cursors.get entity).map (entity, ·)

def status (store : Store) : Status where
  entities := Entity.all.map fun entity =>
    ⟨entity, store.cursor entity, store.count entity, (store.attempts.get entity).length⟩
  pending := store.pending
  openQuarantine := store.quarantine.openCount

def Status.totalRows (status : Status) : Nat :=
  status.entities.foldl (fun total entity => total + entity.rows) 0

/-- Nothing waits for an operator. -/
def Status.isHealthy (status : Status) : Bool :=
  status.pending.isEmpty && status.openQuarantine == 0

end RecordSync.Store
