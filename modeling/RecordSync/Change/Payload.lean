import RecordSync.Calendar.Reading
import RecordSync.Json.Text
import RecordSync.Number.Word
import RecordSync.Record.Snapshot
import RecordSync.Text.Utf8

/-! Changes as the feed delivers them.

A payload is a JSON object that names a record, the kind of change and, unless
the record is removed, its whole new state. Reading one always gives a change:
what cannot be used is an invalid change that says why. -/

namespace RecordSync.Change

open RecordSync.Calendar RecordSync.Json RecordSync.Record RecordSync.Text

/-- Why a delivery cannot be used. -/
inductive PayloadFault where
  | unreadable (fault : Utf8.Fault)
  | unsupportedEntity (name : String)
  | malformed (cause : Malformed)
  | notObject
  | missing (field : String)
  | notText (field kind : String)
  | notNumber (field kind : String)
  | notCode (field : String) (number : Number)
  | notTimestamp (field text : String)
  | notDate (field text : String)
  | unsupportedChange (kind : String)
  | attributesNotObject
  deriving DecidableEq, Repr

def PayloadFault.message : PayloadFault → String
  | .unreadable fault => "payload is not valid UTF-8: " ++ fault.message
  | .unsupportedEntity name => "unsupported entity type '" ++ name ++ "'"
  | .malformed cause => "malformed payload: " ++ cause.message
  | .notObject => "payload is not a JSON object"
  | .missing field => "missing field '" ++ field ++ "'"
  | .notText field kind => "field '" ++ field ++ "' must be a string, got " ++ kind
  | .notNumber field kind => "field '" ++ field ++ "' must be an integer, got " ++ kind
  | .notCode field number => "field '" ++ field ++ "' is not a 32-bit integer: " ++ number.text
  | .notTimestamp field text => "field '" ++ field ++ "' is not an RFC 3339 timestamp: " ++ text
  | .notDate field text => "field '" ++ field ++ "' is not a date: " ++ text
  | .unsupportedChange kind => "unsupported change kind '" ++ kind ++ "'"
  | .attributesNotObject => "field 'attributes' must be an object"

end RecordSync.Change

namespace RecordSync

open RecordSync.Change RecordSync.Record

/-- What the feed reports about one record. -/
inductive Change where
  | upserted (snapshot : Snapshot)
  | removed (entity : Entity) (externalId : String)
  | invalid (entityName : String) (externalId : Option String) (fault : PayloadFault)
  deriving DecidableEq, Repr

end RecordSync

namespace RecordSync.Change

open RecordSync.Calendar RecordSync.Json RecordSync.Record RecordSync.Text

/-- The record that a change is about, as far as it is known. -/
def externalId? : Change → Option String
  | .upserted snapshot => some snapshot.externalId
  | .removed _ externalId => some externalId
  | .invalid _ externalId _ => externalId

/-- The key of the row that a change may touch. -/
def target? : Change → Option (Entity × String)
  | .upserted snapshot => some (snapshot.entity, snapshot.externalId)
  | .removed entity externalId => some (entity, externalId)
  | .invalid .. => none

/-- What the feed delivers for one record. The payload of an unreadable delivery
is only a rendering of its bytes. -/
structure Delivery where
  entityName : String
  payload : String
  unreadable : Option Utf8.Fault
  deriving DecidableEq, Repr

def Delivery.ofText (entityName payload : String) : Delivery :=
  ⟨entityName, payload, none⟩

def Delivery.ofBytes (entityName : String) (bytes : List UInt8) : Delivery :=
  match Utf8.decode bytes with
  | .ok payload => ⟨entityName, payload, none⟩
  | .error fault => ⟨entityName, Utf8.decodeLossy bytes, some fault⟩

abbrev Members := List (String × Value)

/-- A text field. A field that is missing, null or blank is absent. -/
def optionalText (members : Members) (field : String) : Except PayloadFault (Option String) :=
  match lookup? field members with
  | none => .ok none
  | some .null => .ok none
  | some (.text text) => .ok (if (clean text).isSome then some text else none)
  | some other => .error (.notText field other.kind)

/-- A text field that has to be there, without the blanks around it. -/
def requiredText (members : Members) (field : String) : Except PayloadFault String := do
  match (← optionalText members field).bind clean with
  | some text => return text
  | none => throw (.missing field)

/-- A code of 32 bits. A field that is missing or null is absent. -/
def optionalCode (members : Members) (field : String) : Except PayloadFault (Option Int) :=
  match lookup? field members with
  | none => .ok none
  | some .null => .ok none
  | some (.number number) =>
    match number with
    | .integer value =>
      if -(Number.signed32 : Int) ≤ value ∧ value < Number.signed32 then .ok (some value)
      else .error (.notCode field number)
    | .float .. => .error (.notCode field number)
  | some other => .error (.notNumber field other.kind)

def requiredCode (members : Members) (field : String) : Except PayloadFault Int := do
  match ← optionalCode members field with
  | some code => return code
  | none => throw (.missing field)

def requiredTimestamp (members : Members) (field : String) : Except PayloadFault Instant := do
  let text ← requiredText members field
  match Instant.ofTimestamp? text with
  | some instant => return instant
  | none => throw (.notTimestamp field text)

/-- A date field, given as a timestamp or as a bare date. -/
def optionalDate (members : Members) (field : String) : Except PayloadFault (Option Instant) := do
  match ← optionalText members field with
  | none => return none
  | some text =>
    match Instant.ofTimestampOrDate? (trim text) with
    | some instant => return some instant
    | none => throw (.notDate field text)

def contactDetails (attributes : Members) : Except PayloadFault ContactDetails := do
  return {
    trn := ← optionalText attributes "dfeta_trn"
    firstName := ← optionalText attributes "firstname"
    middleName := ← optionalText attributes "middlename"
    lastName := ← optionalText attributes "lastname"
    statedFirstName := ← optionalText attributes "dfeta_statedfirstname"
    statedMiddleName := ← optionalText attributes "dfeta_statedmiddlename"
    statedLastName := ← optionalText attributes "dfeta_statedlastname"
    birthDate := ← optionalDate attributes "birthdate"
    emailAddress := ← optionalText attributes "emailaddress1"
    nationalInsuranceNumber := ← optionalText attributes "dfeta_ninumber"
    mergedInto := ← optionalText attributes "masterid" }

def inductionDetails (attributes : Members) : Except PayloadFault InductionDetails := do
  return {
    personExternalId := ← requiredText attributes "dfeta_personid"
    statusCode := ← optionalCode attributes "dfeta_inductionstatus"
    startDate := ← optionalDate attributes "dfeta_startdate"
    completionDate := ← optionalDate attributes "dfeta_completiondate" }

/-- The attributes of a payload; none are given when the field is missing or null. -/
def attributesOf (members : Members) : Except PayloadFault Members :=
  match lookup? "attributes" members with
  | none => .ok []
  | some .null => .ok []
  | some (.object attributes) => .ok attributes
  | some _ => .error .attributesNotObject

def readSnapshot (entity : Entity) (externalId : String) (members : Members) :
    Except PayloadFault Snapshot := do
  let createdOn ← requiredTimestamp members "createdon"
  let modifiedOn ← requiredTimestamp members "modifiedon"
  let stateCode ← requiredCode members "statecode"
  let attributes ← attributesOf members
  let details ← match entity with
    | .contact => (contactDetails attributes).map .contact
    | .induction => (inductionDetails attributes).map .induction
  return ⟨⟨externalId, createdOn, modifiedOn, stateCode⟩, details⟩

/-- A payload object. Without a kind of change the record is upserted. -/
def readMembers (entity : Entity) (members : Members) : Except PayloadFault Change := do
  let externalId ← requiredText members "id"
  match (← optionalText members "change").map lower with
  | none => (readSnapshot entity externalId members).map .upserted
  | some "upsert" => (readSnapshot entity externalId members).map .upserted
  | some "remove" => return .removed entity externalId
  | some kind => throw (.unsupportedChange kind)

/-- The id in a payload, whether or not the rest of it can be used. -/
def recoveredId (parsed : Except Malformed Value) : Option String :=
  match parsed with
  | .ok value => ((value.get? "id").bind Value.text?).bind clean
  | .error _ => none

def readValue (delivery : Delivery) (parsed : Except Malformed Value) :
    Except PayloadFault Change := do
  let entity ← match Entity.ofName delivery.entityName with
    | .ok entity => pure entity
    | .error _ => throw (.unsupportedEntity delivery.entityName)
  match parsed with
  | .error cause => throw (.malformed cause)
  | .ok (.object members) => readMembers entity members
  | .ok _ => throw .notObject

/-- The change that a delivery reports. -/
def decode (delivery : Delivery) : Change :=
  match delivery.unreadable with
  | some fault => .invalid delivery.entityName none (.unreadable fault)
  | none =>
    let parsed := Value.ofText delivery.payload
    match readValue delivery parsed with
    | .ok change => change
    | .error fault => .invalid delivery.entityName (recoveredId parsed) fault

end RecordSync.Change
