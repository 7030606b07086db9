import RecordSync.Store.Basic

/-! Cursors: for each kind of record, how far its feed has been dealt with.

A cursor moves by comparison: the mover names the position from which it set
out, and a cursor that is elsewhere by then stays where it is. Cursors live in
the store, or in memory beside it. -/

namespace RecordSync

open RecordSync.Calendar RecordSync.Record RecordSync.Store

namespace Store

/-- The stored position, or the start. -/
def cursor (store : Store) (entity : Entity) : Nat :=
  ((store.cursors.get entity).map (·.position)).getD 0

def setCursor (store : Store) (entity : Entity) (position : Nat) (now : Instant) : Store :=
  { store with cursors := store.cursors.set entity (some ⟨position, kept now⟩) }

/-- Moves a cursor that is where the caller expects it. -/
def advanceCursor (store : Store) (entity : Entity) (expected next : Nat) (now : Instant) :
    Except SyncFault Store :=
  let found := store.cursor entity
  if found ≠ expected then .error (.cursorMoved entity expected found)
  else if greatestPosition < next then .error (.feed (.cursorOutOfRange next))
  else .ok (store.setCursor entity next now)

/-- Puts a cursor back to the start and logs it; returns where it was. -/
def resetCursor (store : Store) (author : Author) (entity : Entity) : Nat × Store :=
  let previous := store.cursor entity
  let rewound := store.setCursor entity 0 author.time
  (previous, { rewound with
    log := rewound.log.append author {
      subject := "feed_cursor"
      subjectId := entity.name
      kind := .cursorReset
      oldValue := some (toString previous)
      newValue := some (toString 0)
      comment := none } })

end Store

/-- Cursors in memory. They have no greatest position and no log. -/
abbrev MemoryCursors := PerEntity Nat

namespace MemoryCursors

def start : MemoryCursors := .both 0

def advance (cursors : MemoryCursors) (entity : Entity) (expected next : Nat) :
    Except SyncFault MemoryCursors :=
  let found := cursors.get entity
  if found ≠ expected then .error (.cursorMoved entity expected found)
  else .ok (cursors.set entity next)

def reset (cursors : MemoryCursors) (entity : Entity) : Nat × MemoryCursors :=
  (cursors.get entity, cursors.set entity 0)

end MemoryCursors

end RecordSync
