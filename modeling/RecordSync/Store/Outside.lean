import RecordSync.Store.Basic

/-! What another program may do to the tables: overwrite one column of a row.
The constraints of the tables hold for it too, but nothing else does, so the
row may be unreadable afterwards. -/

namespace RecordSync.Store

open RecordSync.Record

inductive Cell where
  | integer (value : Int)
  | text (value : String)
  deriving DecidableEq, Repr

/-- A text column keeps a number as its decimal text. -/
def Cell.asText : Cell → String
  | .integer value => toString value
  | .text value => value

/-- A number column makes a number of a text that spells one. -/
def Cell.asNumber : Cell → NumberCell
  | .integer value => .integer value
  | .text value => .ofText value

def PersonColumns.set? (columns : PersonColumns) (name text : String) : Option PersonColumns :=
  match name with
  | "trn" => some { columns with trn := some text }
  | "first_name" => some { columns with firstName := text }
  | "middle_name" => some { columns with middleName := some text }
  | "last_name" => some { columns with lastName := text }
  | "date_of_birth" => some { columns with dateOfBirth := some text }
  | "email_address" => some { columns with emailAddress := some text }
  | "national_insurance_number" => some { columns with nationalInsuranceNumber := some text }
  | "merged_into_external_id" => some { columns with mergedIntoExternalId := some text }
  | _ => none

def InductionColumns.set? (columns : InductionColumns) (name text : String) :
    Option InductionColumns :=
  match name with
  | "person_external_id" => some { columns with personExternalId := text }
  | "status" => some { columns with status := text }
  | "start_date" => some { columns with startDate := some text }
  | "completion_date" => some { columns with completionDate := some text }
  | _ => none

def ContentColumns.set? (content : ContentColumns) (name text : String) : Option ContentColumns :=
  match content with
  | .person columns => (columns.set? name text).map .person
  | .induction columns => (columns.set? name text).map .induction

def StoredRow.setNumber? (stored : StoredRow) (name : String) (cell : NumberCell) :
    Option StoredRow :=
  if name = createdOnName then some { stored with createdOn := cell }
  else if name = modifiedOnName then some { stored with modifiedOn := cell }
  else if name = firstSyncedAtName then some { stored with firstSyncedAt := cell }
  else if name = lastSyncedAtName then some { stored with lastSyncedAt := cell }
  else none

def stateCheck : StoreFault :=
  .reported "CHECK constraint failed: source_state IN ('active', 'inactive', 'merged')"

def idName : String := "id"

def idMismatch : StoreFault := .reported "datatype mismatch"

/-- A row with one column overwritten. The id is a number in any case. -/
def StoredRow.set (stored : StoredRow) (name : String) (cell : Cell) :
    Except StoreFault StoredRow :=
  if name = idName then
    match cell.asNumber with
    | .integer id => .ok { stored with id }
    | _ => .error idMismatch
  else if name = "external_id" then .ok { stored with externalId := cell.asText }
  else if name = "content_hash" then .ok { stored with fingerprint := cell.asText }
  else if name = "source_state" then
    match RecordState.ofName cell.asText with
    | .ok state => .ok { stored with state }
    | .error _ => .error stateCheck
  else
    match (stored.content.set? name cell.asText).map fun content => { stored with content } with
    | some changed => .ok changed
    | none =>
      match stored.setNumber? name cell.asNumber with
      | some changed => .ok changed
      | none => .error (.reported ("no such column: " ++ name))

/-- What the constraints of a table say to a row in the place of another one. -/
def RowTable.refusal? (table : RowTable) (entity : Entity) (existing changed : StoredRow) :
    Option StoreFault :=
  let others := table.rows.filter (·.id != existing.id)
  if !changed.firstSyncedAt.atMost changed.lastSyncedAt then
    some (.reported ConstraintFault.syncOrder.message)
  else if others.any (·.id == changed.id) then
    some (.reported ("UNIQUE constraint failed: " ++ entity.table ++ "." ++ idName))
  else if others.any (·.externalId == changed.externalId) then
    some (.reported (ConstraintFault.duplicate entity.table).message)
  else none

/-- Overwrites a column of the row with an external id; returns how many rows
that changed. -/
def overwriteColumn (store : Store) (entity : Entity) (externalId name : String) (cell : Cell) :
    Except StoreFault (Nat × Store) :=
  let table := store.rows.get entity
  match table.find? externalId with
  | none => .ok (0, store)
  | some existing =>
    match existing.set name cell with
    | .error fault => .error fault
    | .ok changed =>
      match table.refusal? entity existing changed with
      | some fault => .error fault
      | none => .ok (1, { store with rows := store.rows.set entity (table.replace existing changed) })

end RecordSync.Store
