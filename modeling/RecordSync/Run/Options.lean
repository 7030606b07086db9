import RecordSync.Calendar.Duration

/-! What a caller may choose about a run. -/

namespace RecordSync.Run

open RecordSync.Calendar

/-- Bounded retries. Delays are in milliseconds; the ceiling counts attempts
over all runs, the other number those within one run. -/
structure RetryPolicy where
  maxAttempts : Nat
  attemptsPerRun : Nat
  baseDelay : Nat
  maxDelay : Nat
  deriving DecidableEq, Repr

namespace RetryPolicy

def standard : RetryPolicy := ⟨5, 3, 250, 5000⟩

/-- A policy that never waits. -/
def immediate (maxAttempts attemptsPerRun : Nat) : RetryPolicy := ⟨maxAttempts, attemptsPerRun, 0, 0⟩

/-- The factor doubles with each retry, as one bit moves up a 32-bit word. Past its end
the factor is the greatest there is. -/
def factor (retry : Nat) : UInt32 :=
  if retry < 32 then 1 <<< UInt32.ofNat retry else 4294967295

/-- The delay before a retry, counted from zero: so many times the base delay, and no
longer than the most. -/
def backoff? (base most : Duration) (retry : Nat) : Option Duration := do
  return min (← base.times? (factor retry)) most

theorem backoff?_isSome (base most : Duration) (retry : Nat) :
    (backoff? base most retry).isSome := by
  obtain ⟨multiple, found, -⟩ := base.times?_totalNanos (factor retry)
  simp [backoff?, found]

/-- The delay that there always is. -/
def backoff (base most : Duration) (retry : Nat) : Duration :=
  (backoff? base most retry).get (backoff?_isSome base most retry)

/-- The delay before a retry in milliseconds. -/
def delay (policy : RetryPolicy) (retry : Nat) : Nat :=
  (backoff (.ofMillis (UInt64.ofNat policy.baseDelay)) (.ofMillis (UInt64.ofNat policy.maxDelay))
    retry).millis

end RetryPolicy

structure Options where
  /-- How many entries a window holds; none counts as one. -/
  batchSize : Nat
  /-- Invalid records never stop a window. -/
  ignoreInvalid : Bool
  /-- Otherwise more than this many of them in one window do. -/
  maxInvalid : Option Nat
  /-- A snapshot that cannot become a row stops a window. -/
  abortOnMappingError : Bool
  /-- Plan and count, and write nothing. -/
  dryRun : Bool
  retry : RetryPolicy
  deriving DecidableEq, Repr

def Options.standard : Options := ⟨100, false, some 25, false, false, .standard⟩

def Options.window (options : Options) : Nat := max options.batchSize 1

end RecordSync.Run
