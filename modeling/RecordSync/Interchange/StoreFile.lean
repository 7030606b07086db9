import RecordSync.Interchange.Report
import RecordSync.Store.Column

/-! The file of a store: a mark, and behind it one line of JSON that names its
format. Instants are in milliseconds, just as the store keeps them, and a row is
written as it is stored, so a file can hold a row that cannot be read. -/

namespace RecordSync.Interchange

open RecordSync.Calendar RecordSync.Json RecordSync.Record RecordSync.Store RecordSync.Text

def formatName : String := "trs-sync store"
def formatVersion : Nat := 1

def naturalMember? (value : Value) (key : String) : Option Nat :=
  match integerMember? value key with
  | some (.ofNat number) => some number
  | _ => none

def millisMember? (value : Value) (key : String) : Option Instant :=
  (integerMember? value key).map .ofMillis

/-- The members of an array, each of which has to be readable. -/
def listMember? {α : Type} (decode : Value → Option α) (value : Value) (key : String) :
    Option (List α) :=
  match member? value key with
  | some (.array members) => members.mapM decode
  | _ => none

def arrayJson {α : Type} (encode : α → Value) (values : List α) : Value :=
  .array (values.map encode)

/-- An object with a member for each kind of record. -/
def perEntityJson {α : Type} (encode : α → Value) (values : PerEntity α) : Value :=
  .object (Entity.all.map fun entity => (entity.name, encode (values.get entity)))

def perEntityOf? {α : Type} (decode : Value → Option α) (value : Value) : Option (PerEntity α) := do
  let contact ← decode (← value.get? Entity.contact.name)
  let induction ← decode (← value.get? Entity.induction.name)
  return ⟨contact, induction⟩

def columnsJson : ContentColumns → List (String × Value)
  | .person columns => [
      ("trn", textOrNull columns.trn),
      ("first_name", .text columns.firstName),
      ("middle_name", textOrNull columns.middleName),
      ("last_name", .text columns.lastName),
      ("date_of_birth", textOrNull columns.dateOfBirth),
      ("email_address", textOrNull columns.emailAddress),
      ("national_insurance_number", textOrNull columns.nationalInsuranceNumber),
      ("merged_into_external_id", textOrNull columns.mergedIntoExternalId)]
  | .induction columns => [
      ("person_external_id", .text columns.personExternalId),
      ("status", .text columns.status),
      ("start_date", textOrNull columns.startDate),
      ("completion_date", textOrNull columns.completionDate)]

def columnsOf? (entity : Entity) (value : Value) : Option ContentColumns :=
  match entity with
  | .contact => do
    return .person {
      trn := textMember? value "trn"
      firstName := ← textMember? value "first_name"
      middleName := textMember? value "middle_name"
      lastName := ← textMember? value "last_name"
      dateOfBirth := textMember? value "date_of_birth"
      emailAddress := textMember? value "email_address"
      nationalInsuranceNumber := textMember? value "national_insurance_number"
      mergedIntoExternalId := textMember? value "merged_into_external_id" }
  | .induction => do
    return .induction {
      personExternalId := ← textMember? value "person_external_id"
      status := ← textMember? value "status"
      startDate := textMember? value "start_date"
      completionDate := textMember? value "completion_date" }

/-- The magnitude of a binary number; there is none beyond the format. -/
def magnitudeJson : Option Number.Binary64 → Value :=
  orNull fun magnitude : Number.Binary64 => .object [
    ("mantissa", natural magnitude.mantissa),
    ("exponent", integer magnitude.exponent)]

def magnitudeOf? : Value → Option (Option Number.Binary64)
  | .null => some none
  | value => do
    let mantissa ← naturalMember? value "mantissa"
    let exponent ← integerMember? value "exponent"
    return some ⟨mantissa, exponent⟩

def numberCellJson : NumberCell → Value
  | .integer value => integer value
  | .text value => .text value
  | .real value => .object [
      ("negative", .bool value.negative),
      ("magnitude", magnitudeJson value.magnitude)]

def numberCellOf? : Value → Option NumberCell
  | .number (.integer value) => some (.integer value)
  | .text value => some (.text value)
  | value => do
    let .bool negative ← value.get? "negative" | none
    let magnitude ← magnitudeOf? (← value.get? "magnitude")
    return .real { negative, magnitude }

def storedRowJson (row : StoredRow) : Value := .object (
  ("id", integer row.id) :: ("external_id", .text row.externalId) :: columnsJson row.content ++ [
  ("source_state", .text row.state.name),
  ("source_created_on", numberCellJson row.createdOn),
  ("source_modified_on", numberCellJson row.modifiedOn),
  ("first_synced_at", numberCellJson row.firstSyncedAt),
  ("last_synced_at", numberCellJson row.lastSyncedAt),
  ("content_hash", .text row.fingerprint)])

def storedRowOf? (entity : Entity) (value : Value) : Option StoredRow := do
  return {
    id := ← integerMember? value "id"
    externalId := ← textMember? value "external_id"
    content := ← columnsOf? entity value
    state := ← stateMember? value "source_state"
    createdOn := ← numberCellOf? (← value.get? "source_created_on")
    modifiedOn := ← numberCellOf? (← value.get? "source_modified_on")
    firstSyncedAt := ← numberCellOf? (← value.get? "first_synced_at")
    lastSyncedAt := ← numberCellOf? (← value.get? "last_synced_at")
    fingerprint := ← textMember? value "content_hash" }

def tableJson (table : RowTable) : Value := .object [
  ("last_id", natural table.lastId),
  ("rows", arrayJson storedRowJson table.rows)]

def tableOf? (entity : Entity) (value : Value) : Option RowTable := do
  let rows ← listMember? (storedRowOf? entity) value "rows"
  let lastId ← naturalMember? value "last_id"
  return { rows, lastId }

def tablesOf? (value : Value) : Option (PerEntity RowTable) := do
  let contact ← tableOf? .contact (← value.get? Entity.contact.name)
  let induction ← tableOf? .induction (← value.get? Entity.induction.name)
  return ⟨contact, induction⟩

def storedAttemptJson (attempt : Attempt) : Value := .object [
  ("sequence", natural attempt.sequence),
  ("external_id", textOrNull attempt.externalId),
  ("attempts", natural attempt.attempts),
  ("last_error", .text attempt.lastError),
  ("last_failed_at", integer attempt.lastFailedAt.millis)]

def storedAttemptOf? (value : Value) : Option Attempt := do
  return {
    sequence := ← naturalMember? value "sequence"
    externalId := textMember? value "external_id"
    attempts := ← naturalMember? value "attempts"
    lastError := ← textMember? value "last_error"
    lastFailedAt := ← millisMember? value "last_failed_at" }

def storedAttemptsOf? : Value → Option (List Attempt)
  | .array members => members.mapM storedAttemptOf?
  | _ => none

def storedEntryJson (entry : Quarantined) : Value := .object [
  ("id", natural entry.id),
  ("entity_type", .text entry.entity.name),
  ("sequence", natural entry.sequence),
  ("external_id", textOrNull entry.externalId),
  ("reason", .text entry.reason),
  ("attempts", natural entry.attempts),
  ("payload", .text entry.payload),
  ("quarantined_at", integer entry.quarantinedAt.millis),
  ("resolved_at", orNull (fun time => integer time.millis) entry.resolvedAt)]

def storedEntryOf? (value : Value) : Option Quarantined := do
  return {
    id := ← naturalMember? value "id"
    entity := ← entityMember? value "entity_type"
    sequence := ← naturalMember? value "sequence"
    externalId := textMember? value "external_id"
    reason := ← textMember? value "reason"
    attempts := ← naturalMember? value "attempts"
    payload := ← textMember? value "payload"
    quarantinedAt := ← millisMember? value "quarantined_at"
    resolvedAt := millisMember? value "resolved_at" }

def quarantineJson (quarantine : Quarantine) : Value := .object [
  ("last_id", natural quarantine.lastId),
  ("entries", arrayJson storedEntryJson quarantine.entries)]

def quarantineOf? (value : Value) : Option Quarantine := do
  let entries ← listMember? storedEntryOf? value "entries"
  let lastId ← naturalMember? value "last_id"
  return { entries, lastId }

def storedCursorJson (cursor : Option CursorRecord) : Value :=
  orNull (fun cursor : CursorRecord => .object [
    ("position", natural cursor.position),
    ("updated_at", integer cursor.updatedAt.millis)]) cursor

def storedCursorOf? : Value → Option (Option CursorRecord)
  | .null => some none
  | value => do
    let position ← naturalMember? value "position"
    let updatedAt ← millisMember? value "updated_at"
    return some ⟨position, updatedAt⟩

def eventOf? (value : Value) : Option Event := do
  let kind ← textMember? value "event_type"
  return {
    id := ← naturalMember? value "id"
    note := {
      subject := ← textMember? value "entity_type"
      subjectId := ← textMember? value "entity_id"
      kind := ← (EventKind.ofName kind).toOption
      oldValue := textMember? value "old_value"
      newValue := textMember? value "new_value"
      comment := textMember? value "comment" }
    actor := ← textMember? value "actor"
    time := ← integerMember? value "created_at" }

def storeJson (store : Store) : Value := .object [
  ("format", .text formatName),
  ("version", natural formatVersion),
  ("rows", perEntityJson tableJson store.rows),
  ("attempts", perEntityJson (arrayJson storedAttemptJson) store.attempts),
  ("quarantine", quarantineJson store.quarantine),
  ("cursors", perEntityJson storedCursorJson store.cursors),
  ("events", arrayJson eventJson store.log)]

/-- The store that a value describes, if it is in this format. -/
def storeOf? (value : Value) : Option Store := do
  guard (textMember? value "format" = some formatName)
  guard (naturalMember? value "version" = some formatVersion)
  return {
    rows := ← tablesOf? (← value.get? "rows")
    attempts := ← perEntityOf? storedAttemptsOf? (← value.get? "attempts")
    quarantine := ← quarantineOf? (← value.get? "quarantine")
    cursors := ← perEntityOf? storedCursorOf? (← value.get? "cursors")
    log := ← listMember? eventOf? value "events" }

end RecordSync.Interchange

namespace RecordSync.Store

open RecordSync.Interchange RecordSync.Json RecordSync.Text

/-- The first byte of a store's file, which is the first byte of no text. -/
def fileMark : UInt8 := 0x89

/-- The store as the bytes of a file. -/
def bytes (store : Store) : List UInt8 :=
  fileMark :: Utf8.encode ((storeJson store).render ++ "\n")

/-- The store that a line describes. -/
def ofLine? (line : List UInt8) : Option Store := do
  let text ← (Utf8.decode line).toOption
  let document ← (Document.ofText text).toOption
  storeOf? (← document.value.toOption)

/-- The store in a file. What follows the first line is not looked at. -/
def ofBytes? : List UInt8 → Option Store
  | [] => none
  | mark :: bytes =>
    if mark = fileMark then ofLine? (bytes.takeWhile (· != 10)) else none

end RecordSync.Store
