import RecordSync.Calendar.Text
import RecordSync.Digest.Sha256
import RecordSync.Json.Text
import RecordSync.Record.Row
import RecordSync.Text.Utf8

/-! The fingerprint of what a row takes from the source: the digest of a JSON
text. The row's own bookkeeping is left out, so one snapshot always has one
fingerprint. -/

namespace RecordSync.Record

open RecordSync.Calendar RecordSync.Json RecordSync.Text

/-- The digest of a text. -/
def digestText (text : String) : String :=
  Digest.Sha256.hex (Utf8.encode text)

/-- The digest of a JSON value, whatever the order of its members. -/
def digestValue (value : Value) : String :=
  digestText value.sorted.render

def textOrNull (value : Option String) : Value :=
  value.elim .null .text

def dateOrNull (value : Option Date) : Value :=
  textOrNull (value.map Date.text)

def Content.json : Content → Value
  | .person details => .object [
      ("entity_type", .text "contact"),
      ("trn", textOrNull details.trn),
      ("first_name", .text details.firstName),
      ("middle_name", textOrNull details.middleName),
      ("last_name", .text details.lastName),
      ("date_of_birth", dateOrNull details.dateOfBirth),
      ("email_address", textOrNull details.emailAddress),
      ("national_insurance_number", textOrNull details.nationalInsuranceNumber),
      ("merged_into_external_id", textOrNull details.mergedIntoExternalId)]
  | .induction details => .object [
      ("entity_type", .text "induction"),
      ("person_external_id", .text details.personExternalId),
      ("status", .text details.status.name),
      ("start_date", dateOrNull details.startDate),
      ("completion_date", dateOrNull details.completionDate)]

/-- The text that is digested; the source's instants stand in it as milliseconds. -/
def fingerprintText (content : Content) (state : RecordState) (createdOn modifiedOn : Instant) :
    String :=
  (Value.object [
    ("fields", content.json),
    ("source_state", .text state.name),
    ("source_created_on", .number (.integer createdOn.millis)),
    ("source_modified_on", .number (.integer modifiedOn.millis))]).render

def fingerprint (content : Content) (state : RecordState) (createdOn modifiedOn : Instant) :
    String :=
  digestText (fingerprintText content state createdOn modifiedOn)

/-- Whether a fingerprint differs from the stored one, or there is none. -/
def differs (current : String) (stored : Option String) : Bool :=
  stored != some current

end RecordSync.Record
