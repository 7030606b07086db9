import RecordSync.Number.Word
import RecordSync.Settings.Basic

/-! The settings file: a JSON object by field names, or a JSON array of the
fields in their order. A field that is not given keeps its value, a name that
is no field's is passed over with whatever stands there, and no field is given
twice. -/

namespace RecordSync.Settings

open RecordSync.Json RecordSync.Number RecordSync.Run RecordSync.Text

/-- A named part of a record and how to set it; there is no result when the
document does not fit the field. -/
structure Field (α : Type) where
  name : String
  set : Document → α → Option α

variable {α : Type}

/-- Fields in their order. -/
def readArray (value : α) : List (Field α) → List Document → Option α
  | _, [] => some value
  | [], _ :: _ => none
  | field :: fields, document :: rest => do readArray (← field.set document value) fields rest

/-- Fields by name. -/
def readObject (fields : List (Field α)) (given : List String) (value : α) :
    List (List Glyph × Document) → Option α
  | [] => some value
  | (key, document) :: rest => do
    let name ← (textOf key).toOption
    match fields.find? (·.name == name) with
    | none => readObject fields given value rest
    | some field =>
      if given.contains name then none
      else readObject fields (name :: given) (← field.set document value) rest

/-- A record given as an array or as an object. -/
def readRecord (fields : List (Field α)) (value : α) : Document → Option α
  | .array members => readArray value fields members
  | .object members => readObject fields [] value members
  | _ => none

/-- A whole number below a bound, written without sign, fraction and exponent. -/
def readNatural (bound : Nat) : Document → Option Nat
  | .number numeral =>
    match numeral.integer? with
    | some (.ofNat value) => if value < bound then some value else none
    | _ => none
  | _ => none

def readFlag : Document → Option Bool
  | .bool value => some value
  | _ => none

/-- A number, or null for no limit. -/
def readLimit : Document → Option (Option Nat)
  | .null => some none
  | document => (readNatural word64 document).map some

def retryFields : List (Field RetryPolicy) := [
  ⟨"max_attempts", fun document retry => do
    return { retry with maxAttempts := ← readNatural word32 document }⟩,
  ⟨"attempts_per_run", fun document retry => do
    return { retry with attemptsPerRun := ← readNatural word32 document }⟩,
  ⟨"base_delay_ms", fun document retry => do
    return { retry with baseDelay := ← readNatural word64 document }⟩,
  ⟨"max_delay_ms", fun document retry => do
    return { retry with maxDelay := ← readNatural word64 document }⟩]

def settingsFields : List (Field Settings) := [
  ⟨"batch_size", fun document settings => do
    return { settings with batchSize := ← readNatural word64 document }⟩,
  ⟨"max_invalid_per_batch", fun document settings => do
    return { settings with maxInvalid := ← readLimit document }⟩,
  ⟨"abort_on_mapping_error", fun document settings => do
    return { settings with abortOnMappingError := ← readFlag document }⟩,
  ⟨"poll_interval_secs", fun document settings => do
    return { settings with pollSeconds := ← readNatural word64 document }⟩,
  ⟨"retry", fun document settings => do
    return { settings with retry := ← readRecord retryFields .standard document }⟩]

/-- The settings that the text of a file gives. -/
def ofText (text : String) : Except ConfigFault Settings :=
  match Document.ofText text with
  | .error cause => .error (.malformed cause)
  | .ok document =>
    match readRecord settingsFields .standard document with
    | some settings => .ok settings
    | none => .error .misfit

/-- The settings of a file. One that was asked for by its path has to exist. -/
def ofFile (explicit : Option String) : FileState → Except ConfigFault Settings
  | .missing =>
    match explicit with
    | some path => .error (.notFound path)
    | none => .ok .standard
  | .directory => .error (.unreadable .isDirectory)
  | .bytes bytes =>
    match Utf8.decode bytes with
    | .ok text => ofText text
    | .error _ => .error .notText

def batchSizeKey : String := "TRS_SYNC_BATCH_SIZE"
def maxAttemptsKey : String := "TRS_SYNC_MAX_ATTEMPTS"

/-- A positive number in the environment, if the variable is set. -/
def positive? (key : String) (bound : Nat) (environment : String → Option String) :
    Except ConfigFault (Option Nat) :=
  match environment key with
  | none => .ok none
  | some raw =>
    match readUnsigned bound (trim raw) with
    | some (value + 1) => .ok (some (value + 1))
    | _ => .error (.notPositive key raw)

/-- The settings with what the environment overrides. -/
def override (settings : Settings) (environment : String → Option String) :
    Except ConfigFault Settings := do
  let batchSize ← positive? batchSizeKey word64 environment
  let maxAttempts ← positive? maxAttemptsKey word32 environment
  return { settings with
    batchSize := batchSize.getD settings.batchSize
    retry := { settings.retry with maxAttempts := maxAttempts.getD settings.retry.maxAttempts } }

/-- The settings of a file under an environment, if a run can work with them. -/
def load (explicit : Option String) (file : FileState) (environment : String → Option String) :
    Except ConfigFault Settings := do
  (← (← ofFile explicit file).override environment).validate

end RecordSync.Settings
