import RecordSync.Change.Payload
import RecordSync.Record.Fingerprint
import RecordSync.Record.Mapping

/-! What a change does to the row of its record.

| change   | no row          | row                      |
|----------|-----------------|--------------------------|
| upserted | insert          | overwrite                |
| removed  | already absent  | delete                   |
| invalid  | nothing         | nothing                  |

A snapshot that cannot become a row changes nothing either. -/

namespace RecordSync.Change

open RecordSync.Calendar RecordSync.Record

/-- How the handling of a change ended. An update is stale when its snapshot is
older than the one that the row came from. -/
inductive Outcome where
  | created
  | updated (stale changed : Bool)
  | deleted
  | alreadyAbsent
  | invalid (reason : String)
  | rejected (fault : MappingFault)
  deriving DecidableEq, Repr

/-- Whether the store now agrees with the change. -/
def Outcome.isApplied : Outcome → Bool
  | .invalid _ => false
  | .rejected _ => false
  | _ => true

def Outcome.label : Outcome → String
  | .created => "created"
  | .updated .. => "updated"
  | .deleted => "deleted"
  | .alreadyAbsent => "already_absent"
  | .invalid _ => "invalid"
  | .rejected _ => "mapping_failed"

/-- The one write that a change calls for, or its outcome when it calls for none. -/
inductive Plan where
  | insert (row : Row)
  | update (row : Row) (stale changed : Bool) (previous : String)
  | delete (entity : Entity) (externalId : String)
  | skip (outcome : Outcome)
  deriving DecidableEq, Repr

/-- The outcome once a plan is carried out. -/
def Plan.outcome : Plan → Outcome
  | .insert _ => .created
  | .update _ stale changed _ => .updated stale changed
  | .delete .. => .deleted
  | .skip outcome => outcome

/-- A row that is not yet stored. -/
def newRow (origin : Origin) (mapped : Mapped) (now : Instant) : Row where
  id := none
  externalId := origin.externalId
  content := mapped.content
  state := mapped.state
  createdOn := origin.createdOn
  modifiedOn := origin.modifiedOn
  firstSyncedAt := now
  lastSyncedAt := now
  fingerprint := fingerprint mapped.content mapped.state origin.createdOn origin.modifiedOn

/-- A row overwritten by a later version: it keeps its ids and the instant of
its creation, and the instant of its last write never moves back. -/
def Row.overwritten (existing fresh : Row) : Row :=
  { fresh with
    id := existing.id
    externalId := existing.externalId
    firstSyncedAt := existing.firstSyncedAt
    lastSyncedAt := Instant.latest fresh.lastSyncedAt existing.lastSyncedAt }

def planSnapshot (snapshot : Snapshot) (current : Option Row) (now : Instant) : Plan :=
  match snapshot.mapped with
  | .error fault => .skip (.rejected fault)
  | .ok mapped =>
    let fresh := newRow snapshot.origin mapped now
    match current with
    | none => .insert fresh
    | some existing =>
      .update (Row.overwritten existing fresh) (decide (fresh.modifiedOn < existing.modifiedOn))
        (differs fresh.fingerprint (some existing.fingerprint)) existing.fingerprint

/-- The plan for a change, given the row of its record. -/
def plan (change : Change) (current : Option Row) (now : Instant) : Plan :=
  match change with
  | .invalid _ _ fault => .skip (.invalid fault.message)
  | .removed entity externalId =>
    match current with
    | some _ => .delete entity externalId
    | none => .skip .alreadyAbsent
  | .upserted snapshot => planSnapshot snapshot current now

end RecordSync.Change
