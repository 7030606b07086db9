import RecordSync.Calendar.Instant
import RecordSync.Record.Entity

/-! Records as the source describes them. -/

namespace RecordSync.Record

open RecordSync.Calendar

/-- What the source says of any record. The external id is the source's own and
never changes; the state is given by its code. -/
structure Origin where
  externalId : String
  createdOn : Instant
  modifiedOn : Instant
  stateCode : Int
  deriving DecidableEq, Repr, Inhabited

/-- A teacher. The stated names are those in use; the date of birth is an
instant that may lie some hours beside the midnight it stands for. -/
structure ContactDetails where
  trn : Option String
  firstName : Option String
  middleName : Option String
  lastName : Option String
  statedFirstName : Option String
  statedMiddleName : Option String
  statedLastName : Option String
  birthDate : Option Instant
  emailAddress : Option String
  nationalInsuranceNumber : Option String
  mergedInto : Option String
  deriving DecidableEq, Repr, Inhabited

/-- An induction of the contact that it names. -/
structure InductionDetails where
  personExternalId : String
  statusCode : Option Int
  startDate : Option Instant
  completionDate : Option Instant
  deriving DecidableEq, Repr, Inhabited

inductive Details where
  | contact (details : ContactDetails)
  | induction (details : InductionDetails)
  deriving DecidableEq, Repr

def Details.entity : Details → Entity
  | .contact _ => .contact
  | .induction _ => .induction

/-- One version of a record. -/
structure Snapshot where
  origin : Origin
  details : Details
  deriving DecidableEq, Repr

def Snapshot.entity (snapshot : Snapshot) : Entity :=
  snapshot.details.entity

def Snapshot.externalId (snapshot : Snapshot) : String :=
  snapshot.origin.externalId

end RecordSync.Record
