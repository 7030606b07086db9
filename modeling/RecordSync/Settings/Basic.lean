import RecordSync.Fault
import RecordSync.Files.Path
import RecordSync.Json.Value
import RecordSync.Run.Options
import RecordSync.Text.Utf8

/-! The policy of a run: standard values, what the settings file says, and what
the environment overrides. Whatever passes can be worked with. -/

namespace RecordSync.Settings

open RecordSync.Json RecordSync.Run RecordSync.Text

/-- Why settings cannot be used. -/
inductive ConfigFault where
  | notFound (path : String)
  | unreadable (fault : FileFault)
  | notText
  | malformed (cause : Malformed)
  | misfit
  | notPositive (key raw : String)
  | emptyBatch
  | noAttempts
  | delaysReversed
  | reported (message : String)
  deriving DecidableEq, Repr

def ConfigFault.message : ConfigFault → String
  | .notFound path => "Config file not found: " ++ path
  | .unreadable fault => "Failed to read config file: " ++ fault.message
  | .notText => "Failed to read config file: stream did not contain valid UTF-8"
  | .malformed cause => "Failed to parse config file: " ++ cause.message
  | .misfit => "Failed to parse config file: a value does not fit its field"
  | .notPositive key raw => key ++ " must be a positive integer, got '" ++ raw ++ "'"
  | .emptyBatch => "batch_size must be at least 1"
  | .noAttempts => "retry.max_attempts and retry.attempts_per_run must be at least 1"
  | .delaysReversed => "retry.base_delay_ms must not exceed retry.max_delay_ms"
  | .reported message => message

end RecordSync.Settings

namespace RecordSync

open RecordSync.Run

/-- The poll interval is in seconds. -/
structure Settings where
  batchSize : Nat
  maxInvalid : Option Nat
  abortOnMappingError : Bool
  pollSeconds : Nat
  retry : RetryPolicy
  deriving DecidableEq, Repr

namespace Settings

def standard : Settings := ⟨100, some 25, false, 30, .standard⟩

/-- The interval between polls is never shorter than a second. -/
def pollInterval (settings : Settings) : Nat := max settings.pollSeconds 1

/-- The options of an ordinary run. -/
def options (settings : Settings) : Options where
  batchSize := settings.batchSize
  ignoreInvalid := false
  maxInvalid := settings.maxInvalid
  abortOnMappingError := settings.abortOnMappingError
  dryRun := false
  retry := settings.retry

/-- Settings that a run can work with. -/
def validate (settings : Settings) : Except ConfigFault Settings :=
  if settings.batchSize = 0 then .error .emptyBatch
  else if settings.retry.maxAttempts = 0 ∨ settings.retry.attemptsPerRun = 0 then .error .noAttempts
  else if settings.retry.maxDelay < settings.retry.baseDelay then .error .delaysReversed
  else .ok settings

end Settings

end RecordSync
