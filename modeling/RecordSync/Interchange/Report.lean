import RecordSync.Interchange.Record
import RecordSync.Run.Tally
import RecordSync.Settings.File
import RecordSync.Store.Replay
import RecordSync.Store.Status

/-! Reports of the store and of runs as JSON values. -/

namespace RecordSync.Interchange

open RecordSync.Json RecordSync.Record RecordSync.Run RecordSync.Store

def stopJson (stop : Stop) : Value :=
  match stop with
  | .exhausted => .object [("reason", .text "exhausted")]
  | .windowFull => .object [("reason", .text "window_full")]
  | .cancelled => .object [("reason", .text "cancelled")]
  | .deferred sequence =>
    .object [("reason", .text "deferred"), ("sequence", natural sequence)]
  | .tooManyInvalid count =>
    .object [("reason", .text "invalid_threshold"), ("invalid", natural count)]
  | .mappingError sequence =>
    .object [("reason", .text "mapping_error"), ("sequence", natural sequence)]

def stopOf? (value : Value) : Option Stop := do
  match ← textMember? value "reason" with
  | "exhausted" => return .exhausted
  | "window_full" => return .windowFull
  | "cancelled" => return .cancelled
  | "deferred" => return .deferred (← integerMember? value "sequence").toNat
  | "invalid_threshold" => return .tooManyInvalid (← integerMember? value "invalid").toNat
  | "mapping_error" => return .mappingError (← integerMember? value "sequence").toNat
  | _ => none

def tallyMembers (tally : Tally) : List (String × Value) := [
  ("entity_type", .text tally.entity.name),
  ("batches", natural tally.batches),
  ("applied", natural tally.applied),
  ("created", natural tally.created),
  ("updated", natural tally.updated),
  ("unchanged", natural tally.unchanged),
  ("stale", natural tally.stale),
  ("deleted", natural tally.deleted),
  ("already_absent", natural tally.alreadyAbsent),
  ("invalid", natural tally.invalid),
  ("failed", natural tally.failed),
  ("deferred", natural tally.deferred),
  ("quarantined", natural tally.quarantined),
  ("cursor_before", natural tally.cursorBefore),
  ("cursor_after", natural tally.cursorAfter),
  ("stop", stopJson tally.stop),
  ("dry_run", .bool tally.dryRun)]

def eventJson (event : Event) : Value := .object [
  ("id", natural event.id),
  ("entity_type", .text event.note.subject),
  ("entity_id", .text event.note.subjectId),
  ("event_type", .text event.note.kind.name),
  ("actor", .text event.actor),
  ("old_value", textOrNull event.note.oldValue),
  ("new_value", textOrNull event.note.newValue),
  ("comment", textOrNull event.note.comment),
  ("created_at", integer event.time)]

def attemptJson (entity : Entity) (attempt : Attempt) : Value := .object [
  ("entity_type", .text entity.name),
  ("sequence", natural attempt.sequence),
  ("external_id", textOrNull attempt.externalId),
  ("attempts", natural attempt.attempts),
  ("last_error", .text attempt.lastError),
  ("last_failed_at", instant attempt.lastFailedAt)]

def quarantinedJson (entry : Quarantined) : Value := .object [
  ("id", natural entry.id),
  ("entity_type", .text entry.entity.name),
  ("sequence", natural entry.sequence),
  ("external_id", textOrNull entry.externalId),
  ("reason", .text entry.reason),
  ("attempts", natural entry.attempts),
  ("payload", .text entry.payload),
  ("quarantined_at", instant entry.quarantinedAt),
  ("resolved_at", orNull instant entry.resolvedAt)]

def cursorJson (entity : Entity) (cursor : CursorRecord) : Value := .object [
  ("entity_type", .text entity.name),
  ("position", natural cursor.position),
  ("updated_at", instant cursor.updatedAt)]

def replayJson (report : ReplayReport) : Value := .object ([
  ("id", natural report.id),
  ("outcome", .text report.outcome.label),
  ("resolved", .bool report.resolved)] ++
  (report.reason.map fun reason => ("reason", Value.text reason)).toList)

def entityStatusJson (status : EntityStatus) : Value := .object [
  ("entity_type", .text status.entity.name),
  ("cursor", natural status.cursor),
  ("rows", natural status.rows),
  ("pending_retries", natural status.pendingRetries)]

def statusJson (status : Status) : Value := .object [
  ("entities", .array (status.entities.map entityStatusJson)),
  ("pending", .array (status.pending.map fun (entity, attempt) => attemptJson entity attempt)),
  ("open_quarantine", natural status.openQuarantine)]

def retryJson (retry : RetryPolicy) : Value := .object [
  ("max_attempts", natural retry.maxAttempts),
  ("attempts_per_run", natural retry.attemptsPerRun),
  ("base_delay_ms", natural retry.baseDelay),
  ("max_delay_ms", natural retry.maxDelay)]

def optionsJson (options : Options) : Value := .object [
  ("batch_size", natural options.batchSize),
  ("ignore_invalid", .bool options.ignoreInvalid),
  ("max_invalid_per_batch", orNull natural options.maxInvalid),
  ("abort_on_mapping_error", .bool options.abortOnMappingError),
  ("dry_run", .bool options.dryRun),
  ("retry", retryJson options.retry)]

def settingsJson (settings : Settings) : Value := .object [
  ("batch_size", natural settings.batchSize),
  ("max_invalid_per_batch", orNull natural settings.maxInvalid),
  ("abort_on_mapping_error", .bool settings.abortOnMappingError),
  ("poll_interval_secs", natural settings.pollSeconds),
  ("retry", retryJson settings.retry)]

/-- A failure with its code, its exit status and its hint, if there is one. -/
def failureJson (failure : Failure) : Value := .object [("error", .object ([
  ("code", .text failure.code.name),
  ("message", .text failure.message),
  ("retryable", .bool failure.code.isRetryable),
  ("exit_code", natural failure.code.exitStatus)] ++
  (failure.hint?.map fun hint => ("hint", Value.text hint)).toList))]

end RecordSync.Interchange
