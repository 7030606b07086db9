import RecordSync.Calendar.Text
import RecordSync.Command.Style
import RecordSync.Run.Tally
import RecordSync.Store.Replay
import RecordSync.Store.Status
import RecordSync.Text.Numeral

/-! Reports for a reader at a terminal, line by line. -/

namespace RecordSync.Command.Report

open RecordSync.Calendar RecordSync.Record RecordSync.Run RecordSync.Store RecordSync.Text

/-- The lines of a list that is not empty. -/
def linesIf (condition : Bool) (lines : List String) : List String :=
  if condition then lines else []

/-- What became of the entries of one feed. -/
def ofTally (styled : Bool) (tally : Tally) : List String :=
  let title := tally.entity.name ++ (if tally.dryRun then " (dry run)" else "")
  let stop := if tally.stop.isFatal then paint styled [.bold, .red] tally.stop.text else tally.stop.text
  [paint styled [.bold] title,
    "  Cursor:      " ++ toString tally.cursorBefore ++ " -> " ++ toString tally.cursorAfter ++
      " (" ++ toString tally.batches ++ " batches)",
    "  Applied:     " ++ toString tally.applied ++ " (created " ++ toString tally.created ++
      ", updated " ++ toString tally.updated ++ ", deleted " ++ toString tally.deleted ++
      ", already absent " ++ toString tally.alreadyAbsent ++ ")"] ++
  linesIf (0 < tally.unchanged || 0 < tally.stale)
    ["  " ++ paint styled [.dimmed] (toString tally.unchanged ++ " updates unchanged, " ++
      toString tally.stale ++ " stale")] ++
  linesIf (0 < tally.invalid)
    ["  " ++ paint styled [.yellow] "Invalid:" ++ "     " ++ toString tally.invalid] ++
  linesIf (0 < tally.failed)
    ["  " ++ paint styled [.red] "Failed:" ++ "      " ++ toString tally.failed ++ " (" ++
      toString tally.quarantined ++ " quarantined)"] ++
  linesIf (0 < tally.deferred)
    ["  " ++ paint styled [.yellow] "Deferred:" ++ "    " ++ toString tally.deferred] ++
  ["  Stopped:     " ++ stop]

def ofEntityStatus (status : EntityStatus) : String :=
  "  " ++ status.entity.name ++ " cursor " ++ toString status.cursor ++ "  rows " ++
    padLeft 8 (toString status.rows)

def ofAttempt (styled : Bool) (entity : Entity) (attempt : Attempt) : String :=
  "  " ++ entity.name ++ " #" ++ toString attempt.sequence ++ " " ++ attempt.externalId.getD "-" ++
    " (" ++ toString attempt.attempts ++ " attempts): " ++ paint styled [.dimmed] attempt.lastError

def ofStatus (styled : Bool) (status : Status) : List String :=
  [paint styled [.bold, .underlined] "Sync Status", "", paint styled [.bold, .blue] "Feeds:"] ++
  status.entities.map ofEntityStatus ++ [""] ++
  (if status.pending.isEmpty then [paint styled [.green] "No records waiting on a retry."]
    else paint styled [.bold, .yellow] "Pending Retries:" ::
      status.pending.map fun (entity, attempt) => ofAttempt styled entity attempt) ++
  linesIf (0 < status.openQuarantine)
    ["", paint styled [.bold, .red] "Quarantined:" ++ " " ++ toString status.openQuarantine,
      paint styled [.dimmed] "Run 'trs-sync quarantine list' to inspect them."]

/-- A label in a column of its own, and a value. -/
def labelled (label value : String) : String :=
  "  " ++ padRight 14 (label ++ ":") ++ " " ++ value

/-- Nothing at all if there is no value. -/
def labelledIf (label : String) (value : Option String) : List String :=
  (value.map (labelled label)).toList

def ofContent : Content → List String
  | .person person =>
    let names := [some person.firstName, person.middleName, some person.lastName].filterMap id
    [labelled "Name" (" ".intercalate names)] ++
    labelledIf "TRN" person.trn ++
    labelledIf "Date of birth" (person.dateOfBirth.map Date.text) ++
    labelledIf "Email" person.emailAddress ++
    labelledIf "NI number" person.nationalInsuranceNumber ++
    labelledIf "Merged into" person.mergedIntoExternalId
  | .induction induction =>
    [labelled "Person" induction.personExternalId, labelled "Status" induction.status.name] ++
    labelledIf "Start date" (induction.startDate.map Date.text) ++
    labelledIf "Completed" (induction.completionDate.map Date.text)

def ofRow (styled : Bool) (row : Row) : List String :=
  [paint styled [.bold] row.entity.name ++ " " ++ paint styled [.bold] row.externalId] ++
  ofContent row.content ++
  [labelled "State" row.state.name,
    labelled "Modified" row.modifiedOn.offsetText,
    "  " ++ paint styled [.dimmed] ("first synced " ++ row.firstSyncedAt.offsetText ++
      ", last synced " ++ row.lastSyncedAt.offsetText)]

/-- The time of an event, as a number if the calendar does not reach so far. -/
def eventTime (time : Int) : String :=
  if firstMillis ≤ time ∧ time ≤ lastMillis then (Instant.ofMillis time).offsetText
  else toString time

def ofEvent (styled : Bool) (event : Event) : String :=
  "  " ++ eventTime event.time ++ "  " ++ padRight 20 event.note.kind.name ++ " " ++
    paint styled [.dimmed] event.actor

def ofEvents (styled : Bool) (events : List Event) : List String :=
  "" :: paint styled [.bold, .blue] "Events:" :: events.map (ofEvent styled)

def ofQuarantined (styled : Bool) (entry : Quarantined) : List String :=
  let state := if entry.isOpen then paint styled [.red] "open" else paint styled [.green] "resolved"
  ["[" ++ toString entry.id ++ "] " ++ state ++ " " ++ entry.entity.name ++ " seq " ++
      toString entry.sequence ++ " " ++ entry.externalId.getD "-" ++ " (" ++
      toString entry.attempts ++ " attempts)",
    "     " ++ paint styled [.dimmed] entry.reason]

def ofQuarantine (styled : Bool) (entries : List Quarantined) : List String :=
  if entries.isEmpty then [paint styled [.green] "Quarantine is empty."]
  else entries.flatMap (ofQuarantined styled)

def ofReplay (styled : Bool) (report : ReplayReport) : String :=
  let done := "Replayed entry " ++ toString report.id ++ ": "
  if report.resolved then done ++ report.outcome.label ++ " (resolved)"
  else
    done ++ paint styled [.yellow] report.outcome.label ++ " (" ++
      report.reason.getD "still failing" ++ ")"

end RecordSync.Command.Report
