import RecordSync.Change.Plan

/-! Snapshots, rows and plans as JSON values. -/

namespace RecordSync.Interchange

open RecordSync.Calendar RecordSync.Change RecordSync.Json RecordSync.Record

def integer (value : Int) : Value := .number (.integer value)

def natural (value : Nat) : Value := integer value

def instant (value : Instant) : Value := .text value.text

def orNull {α : Type} (encode : α → Value) (value : Option α) : Value :=
  value.elim .null encode

def originJson (origin : Origin) : Value := .object [
  ("external_id", .text origin.externalId),
  ("created_on", instant origin.createdOn),
  ("modified_on", instant origin.modifiedOn),
  ("state_code", integer origin.stateCode)]

def detailsJson : Details → Value
  | .contact details => .object [
      ("trn", textOrNull details.trn),
      ("first_name", textOrNull details.firstName),
      ("middle_name", textOrNull details.middleName),
      ("last_name", textOrNull details.lastName),
      ("stated_first_name", textOrNull details.statedFirstName),
      ("stated_middle_name", textOrNull details.statedMiddleName),
      ("stated_last_name", textOrNull details.statedLastName),
      ("birth_date", orNull instant details.birthDate),
      ("email_address", textOrNull details.emailAddress),
      ("national_insurance_number", textOrNull details.nationalInsuranceNumber),
      ("merged_into", textOrNull details.mergedInto)]
  | .induction details => .object [
      ("person_external_id", .text details.personExternalId),
      ("status_code", orNull integer details.statusCode),
      ("start_date", orNull instant details.startDate),
      ("completion_date", orNull instant details.completionDate)]

def snapshotJson (snapshot : Snapshot) : Value := .object [
  ("entity_type", .text snapshot.entity.name),
  ("meta", originJson snapshot.origin),
  ("attributes", detailsJson snapshot.details)]

def rowJson (row : Row) : Value := .object [
  ("id", orNull integer row.id),
  ("external_id", .text row.externalId),
  ("fields", row.content.json),
  ("source_state", .text row.state.name),
  ("source_created_on", instant row.createdOn),
  ("source_modified_on", instant row.modifiedOn),
  ("first_synced_at", instant row.firstSyncedAt),
  ("last_synced_at", instant row.lastSyncedAt),
  ("content_hash", .text row.fingerprint)]

/-- The member of an object, unless it is missing or null. -/
def member? (value : Value) (key : String) : Option Value :=
  match value.get? key with
  | some .null => none
  | found => found

def textMember? (value : Value) (key : String) : Option String :=
  (member? value key).bind Value.text?

def integerMember? (value : Value) (key : String) : Option Int :=
  (member? value key).bind Value.integer?

def instantMember? (value : Value) (key : String) : Option Instant :=
  (textMember? value key).bind Instant.ofText?

def dateMember? (value : Value) (key : String) : Option Date :=
  (textMember? value key).bind Date.ofText?

def entityMember? (value : Value) (key : String) : Option Entity :=
  (textMember? value key).bind fun name => (Entity.ofName name).toOption

def stateMember? (value : Value) (key : String) : Option RecordState :=
  (textMember? value key).bind fun name => (RecordState.ofName name).toOption

def originOf? (value : Value) : Option Origin := do
  return {
    externalId := ← textMember? value "external_id"
    createdOn := ← instantMember? value "created_on"
    modifiedOn := ← instantMember? value "modified_on"
    stateCode := ← integerMember? value "state_code" }

def detailsOf? (entity : Entity) (value : Value) : Option Details :=
  match entity with
  | .contact => some (.contact {
      trn := textMember? value "trn"
      firstName := textMember? value "first_name"
      middleName := textMember? value "middle_name"
      lastName := textMember? value "last_name"
      statedFirstName := textMember? value "stated_first_name"
      statedMiddleName := textMember? value "stated_middle_name"
      statedLastName := textMember? value "stated_last_name"
      birthDate := instantMember? value "birth_date"
      emailAddress := textMember? value "email_address"
      nationalInsuranceNumber := textMember? value "national_insurance_number"
      mergedInto := textMember? value "merged_into" })
  | .induction => do
    let personExternalId ← textMember? value "person_external_id"
    return .induction {
      personExternalId
      statusCode := integerMember? value "status_code"
      startDate := instantMember? value "start_date"
      completionDate := instantMember? value "completion_date" }

def snapshotOf? (value : Value) : Option Snapshot := do
  let entity ← entityMember? value "entity_type"
  let origin ← originOf? (← member? value "meta")
  let details ← detailsOf? entity (← member? value "attributes")
  return { origin, details }

def contentOf? (value : Value) : Option Content := do
  match ← entityMember? value "entity_type" with
  | .contact =>
    return .person {
      trn := textMember? value "trn"
      firstName := ← textMember? value "first_name"
      middleName := textMember? value "middle_name"
      lastName := ← textMember? value "last_name"
      dateOfBirth := dateMember? value "date_of_birth"
      emailAddress := textMember? value "email_address"
      nationalInsuranceNumber := textMember? value "national_insurance_number"
      mergedIntoExternalId := textMember? value "merged_into_external_id" }
  | .induction =>
    let status ← textMember? value "status"
    return .induction {
      personExternalId := ← textMember? value "person_external_id"
      status := ← (InductionStatus.ofName status).toOption
      startDate := dateMember? value "start_date"
      completionDate := dateMember? value "completion_date" }

def rowOf? (value : Value) : Option Row := do
  return {
    id := integerMember? value "id"
    externalId := ← textMember? value "external_id"
    content := ← contentOf? (← member? value "fields")
    state := ← stateMember? value "source_state"
    createdOn := ← instantMember? value "source_created_on"
    modifiedOn := ← instantMember? value "source_modified_on"
    firstSyncedAt := ← instantMember? value "first_synced_at"
    lastSyncedAt := ← instantMember? value "last_synced_at"
    fingerprint := ← textMember? value "content_hash" }

end RecordSync.Interchange
