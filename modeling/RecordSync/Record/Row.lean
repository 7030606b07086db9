import RecordSync.Calendar.Instant
import RecordSync.Record.Vocabulary

/-! Rows of the store. -/

namespace RecordSync.Record

open RecordSync.Calendar

structure Person where
  trn : Option String
  firstName : String
  middleName : Option String
  lastName : String
  dateOfBirth : Option Date
  emailAddress : Option String
  nationalInsuranceNumber : Option String
  mergedIntoExternalId : Option String
  deriving DecidableEq, Repr

structure Induction where
  personExternalId : String
  status : InductionStatus
  startDate : Option Date
  completionDate : Option Date
  deriving DecidableEq, Repr

/-- What a row says about its subject. -/
inductive Content where
  | person (person : Person)
  | induction (induction : Induction)
  deriving DecidableEq, Repr

def Content.entity : Content → Entity
  | .person _ => .contact
  | .induction _ => .induction

/-- A record as the store has it. The row's own id is missing until the row is
stored; the fingerprint stands for all that comes from the source. -/
structure Row where
  id : Option Int
  externalId : String
  content : Content
  state : RecordState
  createdOn : Instant
  modifiedOn : Instant
  firstSyncedAt : Instant
  lastSyncedAt : Instant
  fingerprint : String
  deriving DecidableEq, Repr

def Row.entity (row : Row) : Entity :=
  row.content.entity

end RecordSync.Record
