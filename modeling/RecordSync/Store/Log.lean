import RecordSync.Calendar.Instant
import RecordSync.Record.Entity

/-! The log of what was done to rows, quarantine entries and cursors. -/

namespace RecordSync.Store

open RecordSync.Calendar RecordSync.Record

inductive EventKind where
  | created
  | updated
  | deleted
  | quarantined
  | resolved
  | cursorReset
  deriving DecidableEq, Repr

namespace EventKind

def all : List EventKind := [.created, .updated, .deleted, .quarantined, .resolved, .cursorReset]

def name : EventKind → String
  | created => "sync_created"
  | updated => "sync_updated"
  | deleted => "sync_deleted"
  | quarantined => "sync_quarantined"
  | resolved => "quarantine_resolved"
  | cursorReset => "cursor_reset"

def ofName (text : String) : Except UnknownName EventKind :=
  match all.find? (·.name == text) with
  | some kind => .ok kind
  | none => .error ⟨"event type", text⟩

end EventKind

/-- Who writes, and when. -/
structure Author where
  actor : String
  time : Instant
  deriving DecidableEq, Repr

/-- What is said of one event: the subject's kind and id, and the values before
and after. For a row the values are fingerprints. -/
structure Note where
  subject : String
  subjectId : String
  kind : EventKind
  oldValue : Option String
  newValue : Option String
  comment : Option String
  deriving DecidableEq, Repr

/-- The time of an event is in milliseconds. -/
structure Event where
  id : Nat
  note : Note
  actor : String
  time : Int
  deriving DecidableEq, Repr

/-- Events, newest first. Nothing is ever taken out, so an event's id is its
place counted from the oldest. -/
abbrev Log := List Event

def Log.append (log : Log) (author : Author) (note : Note) : Log :=
  ⟨log.length + 1, note, author.actor, author.time.millis⟩ :: log

/-- The events of one subject, newest first. -/
def Log.about (log : Log) (subject subjectId : String) : List Event :=
  log.filter fun event => event.note.subject == subject && event.note.subjectId == subjectId

/-- How many events are listed unless another number is asked for. -/
def standardLimit : Nat := 100

/-- The latest events of one subject, newest first. -/
def Log.latest (log : Log) (subject subjectId : String) (limit : Option Nat) : List Event :=
  (log.about subject subjectId).take (limit.getD standardLimit)

/-- An event that says how the fingerprint of a row changed. -/
def rowNote (entity : Entity) (externalId : String) (kind : EventKind)
    (oldValue newValue : Option String) : Note :=
  ⟨entity.name, externalId, kind, oldValue, newValue, none⟩

end RecordSync.Store
