import RecordSync.Calendar.Text
import RecordSync.Record.Row
import RecordSync.Record.Snapshot

/-! From the source's description of a record to the content of a row. -/

namespace RecordSync.Record

open RecordSync.Calendar RecordSync.Text

/-- Why a snapshot cannot become a row. -/
inductive MappingFault where
  | unknownState (code : Int)
  | unknownStatus (code : Int)
  | missing (field : String)
  | malformedTrn (text : String)
  | completedBeforeStart (completed start : Date)
  deriving DecidableEq, Repr

def MappingFault.message : MappingFault → String
  | .unknownState code => "Unknown state code: " ++ toString code
  | .unknownStatus code => "Unknown induction status: " ++ toString code
  | .missing field => "Missing required field: " ++ field
  | .malformedTrn text => "Invalid trn: expected 7 digits, got '" ++ text ++ "'"
  | .completedBeforeStart completed start =>
    "completion date " ++ completed.text ++ " precedes start date " ++ start.text

def RecordState.ofCode (code : Int) : Except MappingFault RecordState :=
  match ofCode? code with
  | some state => .ok state
  | none => .error (.unknownState code)

def InductionStatus.ofCode (code : Int) : Except MappingFault InductionStatus :=
  match ofCode? code with
  | some status => .ok status
  | none => .error (.unknownStatus code)

/-- The date whose midnight is nearest. The source keeps a date as local
midnight, which lies less than twelve hours beside midnight in universal time. -/
def nearestDate (instant : Instant) : Date :=
  (instant.addSeconds 43200).date

/-- The text without the blanks around it, if there is one and it is not blank. -/
def cleaned (text : Option String) : Option String :=
  text.bind clean

/-- The stated name unless it is blank, else the primary one. -/
def resolveName (stated primary : Option String) : Option String :=
  (cleaned stated).or (cleaned primary)

def present {α : Type} (field : String) (value : Option α) : Except MappingFault α :=
  match value with
  | some value => .ok value
  | none => .error (.missing field)

/-- A teacher reference number has exactly seven digits. -/
def checkTrn (trn : Option String) : Except MappingFault (Option String) :=
  match trn with
  | none => .ok none
  | some text =>
    if text.toList.length = 7 ∧ text.toList.all Char.isDigit then .ok (some text)
    else .error (.malformedTrn text)

def ContactDetails.person (details : ContactDetails) : Except MappingFault Person := do
  let firstName ← present "first_name" (resolveName details.statedFirstName details.firstName)
  let middleName := resolveName details.statedMiddleName details.middleName
  let lastName ← present "last_name" (resolveName details.statedLastName details.lastName)
  let trn ← checkTrn (cleaned details.trn)
  return {
    trn, firstName, middleName, lastName
    dateOfBirth := details.birthDate.map nearestDate
    emailAddress := cleaned details.emailAddress
    nationalInsuranceNumber := (cleaned details.nationalInsuranceNumber).map upper
    mergedIntoExternalId := cleaned details.mergedInto }

/-- An induction may not be completed before it starts. -/
def checkOrder (start completed : Option Date) : Except MappingFault Unit :=
  match start, completed with
  | some start, some completed =>
    if completed < start then .error (.completedBeforeStart completed start) else .ok ()
  | _, _ => .ok ()

def InductionDetails.induction (details : InductionDetails) : Except MappingFault Induction := do
  let personExternalId ← present "person_external_id" (clean details.personExternalId)
  let status ← InductionStatus.ofCode (← present "status" details.statusCode)
  let startDate := details.startDate.map nearestDate
  let completionDate := details.completionDate.map nearestDate
  checkOrder startDate completionDate
  return { personExternalId, status, startDate, completionDate }

def Details.content : Details → Except MappingFault Content
  | .contact details => details.person.map .person
  | .induction details => details.induction.map .induction

/-- What a row takes from a snapshot. -/
structure Mapped where
  content : Content
  state : RecordState
  deriving DecidableEq, Repr

def Snapshot.mapped (snapshot : Snapshot) : Except MappingFault Mapped := do
  let state ← RecordState.ofCode snapshot.origin.stateCode
  let content ← snapshot.details.content
  return { content, state }

end RecordSync.Record
