import RecordSync.Calendar.Text
import RecordSync.Fault
import RecordSync.Record.Row
import RecordSync.Store.Number

/-! Rows in the form in which they are stored: dates and statuses as text, and
instants as milliseconds. A row that this library wrote can always be read; one
that something else changed may hold a column without meaning. -/

namespace RecordSync.Store

open RecordSync.Calendar RecordSync.Record

structure PersonColumns where
  trn : Option String
  firstName : String
  middleName : Option String
  lastName : String
  dateOfBirth : Option String
  emailAddress : Option String
  nationalInsuranceNumber : Option String
  mergedIntoExternalId : Option String
  deriving DecidableEq, Repr

structure InductionColumns where
  personExternalId : String
  status : String
  startDate : Option String
  completionDate : Option String
  deriving DecidableEq, Repr

inductive ContentColumns where
  | person (columns : PersonColumns)
  | induction (columns : InductionColumns)
  deriving DecidableEq, Repr

structure StoredRow where
  id : Int
  externalId : String
  content : ContentColumns
  state : RecordState
  createdOn : NumberCell
  modifiedOn : NumberCell
  firstSyncedAt : NumberCell
  lastSyncedAt : NumberCell
  fingerprint : String
  deriving DecidableEq, Repr

def personColumns (person : Person) : PersonColumns where
  trn := person.trn
  firstName := person.firstName
  middleName := person.middleName
  lastName := person.lastName
  dateOfBirth := person.dateOfBirth.map Date.text
  emailAddress := person.emailAddress
  nationalInsuranceNumber := person.nationalInsuranceNumber
  mergedIntoExternalId := person.mergedIntoExternalId

def inductionColumns (induction : Induction) : InductionColumns where
  personExternalId := induction.personExternalId
  status := induction.status.name
  startDate := induction.startDate.map Date.text
  completionDate := induction.completionDate.map Date.text

def contentColumns : Content → ContentColumns
  | .person person => .person (personColumns person)
  | .induction induction => .induction (inductionColumns induction)

/-- An instant as it is stored. -/
def instantCell (instant : Instant) : NumberCell := .integer instant.millis

/-- A row as it is stored under an id. -/
def StoredRow.ofRow (id : Int) (row : Row) : StoredRow where
  id := id
  externalId := row.externalId
  content := contentColumns row.content
  state := row.state
  createdOn := instantCell row.createdOn
  modifiedOn := instantCell row.modifiedOn
  firstSyncedAt := instantCell row.firstSyncedAt
  lastSyncedAt := instantCell row.lastSyncedAt
  fingerprint := row.fingerprint

def readDate (place : Nat) (text : Option String) : Except StoreFault (Option Date) :=
  match text with
  | none => .ok none
  | some text =>
    match Date.read text with
    | .ok date => .ok (some date)
    | .error fault => .error (.unreadable place (.date fault))

def readStatus (place : Nat) (text : String) : Except StoreFault InductionStatus :=
  match InductionStatus.ofName text with
  | .ok status => .ok status
  | .error unknown => .error (.unreadable place (.unknownName unknown))

/-- The instant of a millisecond count within the calendar. -/
def readInstant (place : Nat) (name : String) : NumberCell → Except StoreFault Instant
  | .integer millis =>
    if firstMillis ≤ millis ∧ millis ≤ lastMillis then .ok (.ofMillis millis)
    else .error (.unreadable place (.instant millis))
  | cell => .error (.unreadable place (.wrongKind cell.kind name))

/-- The names of the columns that hold instants, in their order. -/
def createdOnName : String := "source_created_on"
def modifiedOnName : String := "source_modified_on"
def firstSyncedAtName : String := "first_synced_at"
def lastSyncedAtName : String := "last_synced_at"

/-- The content of a row. Places count the columns of its table from zero. -/
def ContentColumns.read : ContentColumns → Except StoreFault Content
  | .person columns => do
    let dateOfBirth ← readDate 6 columns.dateOfBirth
    return .person {
      dateOfBirth
      trn := columns.trn
      firstName := columns.firstName
      middleName := columns.middleName
      lastName := columns.lastName
      emailAddress := columns.emailAddress
      nationalInsuranceNumber := columns.nationalInsuranceNumber
      mergedIntoExternalId := columns.mergedIntoExternalId }
  | .induction columns => do
    let status ← readStatus 3 columns.status
    let startDate ← readDate 4 columns.startDate
    let completionDate ← readDate 5 columns.completionDate
    return .induction {
      status, startDate, completionDate
      personExternalId := columns.personExternalId }

/-- The place of the state's column; the columns of the instants follow it. -/
def ContentColumns.statePlace : ContentColumns → Nat
  | .person _ => 10
  | .induction _ => 6

/-- The row, or the first column in reading order that has no meaning. -/
def StoredRow.read (stored : StoredRow) : Except StoreFault Row := do
  let content ← stored.content.read
  let place := stored.content.statePlace
  let createdOn ← readInstant (place + 1) createdOnName stored.createdOn
  let modifiedOn ← readInstant (place + 2) modifiedOnName stored.modifiedOn
  let firstSyncedAt ← readInstant (place + 3) firstSyncedAtName stored.firstSyncedAt
  let lastSyncedAt ← readInstant (place + 4) lastSyncedAtName stored.lastSyncedAt
  return {
    id := some stored.id
    externalId := stored.externalId
    content
    state := stored.state
    createdOn, modifiedOn, firstSyncedAt, lastSyncedAt
    fingerprint := stored.fingerprint }

end RecordSync.Store
