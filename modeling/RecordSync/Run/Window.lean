import RecordSync.Run.Planned
import RecordSync.Run.Tally

/-! One window of a feed: load the cursor, fetch, deal with the records one by
one, and move the cursor.

A record ends as terminal when it was applied, is invalid, cannot become a row
or was given up. It is put off when a transient fault outlasted the attempts of
this run; then the window stops before it. The cursor only moves past records
that are terminal, all of them, from where it stood. -/

namespace RecordSync.Run

open RecordSync.Calendar RecordSync.Change RecordSync.Feed RecordSync.Record RecordSync.Store

/-- How the handling of one record ended. -/
inductive Ending where
  | terminal (outcome : Outcome)
  | quarantined
  | deferred
  deriving DecidableEq, Repr

/-- A window under way: the counts, the last record that is terminal, and the
reason to stop once there is one. -/
structure Progress where
  tally : Tally
  through : Nat
  stop : Option Stop
  planned : Planned

variable {σ : Type}

namespace Worker

/-- A record whose attempts in this run are used up. A fault that may be its
own is counted, and at the ceiling the record is given up. -/
def deferOrSurrender (worker : Worker σ) (entity : Entity) (entry : Entry) (change : Change)
    (fault : SyncFault) (now : Instant) : Work σ Ending := do
  if fault.countsTowardQuarantine then
    worker.meet (.recordFailure entity change.externalId?)
    let attempts ← onStore fun store =>
      store.recordFailure entity entry.sequence change.externalId? fault.message now
    if worker.options.retry.maxAttempts ≤ attempts then
      worker.meet (.surrender entity change.externalId?)
      let _ ← onStore fun store => store.surrender ⟨worker.actor, now⟩ {
        entity
        sequence := entry.sequence
        externalId := change.externalId?
        reason := fault.message
        attempts
        payload := entry.delivery.payload }
      return .quarantined
  return .deferred

/-- One attempt to apply a change. A transient fault is returned with the time
of the attempt, any other ends the work. -/
def applyOnce (worker : Worker σ) (change : Change) :
    Work σ (Except (SyncFault × Instant) Outcome) := do
  let now ← worker.now
  match ← attempt (worker.apply change now) with
  | .ok outcome => return .ok outcome
  | .error fault => if fault.isTransient then return .error (fault, now) else throw fault

/-- Attempts to apply a change: one, and up to `left` more. -/
def applyWithRetries (worker : Worker σ) (entity : Entity) (entry : Entry) (change : Change) :
    Nat → Nat → Work σ Ending
  | _, 0 => do
    match ← worker.applyOnce change with
    | .ok outcome => return .terminal outcome
    | .error (fault, now) => worker.deferOrSurrender entity entry change fault now
  | retry, left + 1 => do
    match ← worker.applyOnce change with
    | .ok outcome => return .terminal outcome
    | .error (fault, now) =>
      if ← worker.isCancelled then worker.deferOrSurrender entity entry change fault now
      else
        worker.wait (worker.options.retry.delay retry)
        worker.applyWithRetries entity entry change (retry + 1) left

/-- Deals with one record. A dry run only plans. -/
def dealWith (worker : Worker σ) (entity : Entity) (planned : Planned) (entry : Entry) :
    Work σ (Ending × Planned) := do
  let change := decode entry.delivery
  if worker.options.dryRun then
    let now ← worker.now
    let (plan, planned) ← worker.planOn planned change now
    return (.terminal plan.outcome, planned)
  else
    let ending ← worker.applyWithRetries entity entry change 0
      (worker.options.retry.attemptsPerRun - 1)
    return (ending, planned)

end Worker

/-- Whether the caller's policy stops a window after an outcome. -/
def Options.stopAfter (options : Options) (sequence : Nat) (tally : Tally) : Outcome → Option Stop
  | .invalid _ =>
    match options.ignoreInvalid, options.maxInvalid with
    | false, some limit => if limit < tally.invalid then some (.tooManyInvalid tally.invalid) else none
    | _, _ => none
  | .rejected _ => if options.abortOnMappingError then some (.mappingError sequence) else none
  | _ => none

/-- Takes the ending of a record into account. -/
def Progress.note (progress : Progress) (options : Options) (sequence : Nat) :
    Ending → Progress
  | .terminal outcome =>
    let tally := progress.tally.record outcome
    { progress with tally, through := sequence, stop := options.stopAfter sequence tally outcome }
  | .quarantined =>
    { progress with tally := progress.tally.recordQuarantined, through := sequence }
  | .deferred =>
    { progress with tally := progress.tally.recordDeferred, stop := some (.deferred sequence) }

namespace Worker

/-- One record of a window. Once there is a reason to stop, the records that
follow are left alone. -/
def step (worker : Worker σ) (entity : Entity) (progress : Progress) (entry : Entry) :
    Work σ Progress := do
  if progress.stop.isSome then return progress
  if ← worker.isCancelled then return { progress with stop := some .cancelled }
  let (ending, planned) ← worker.dealWith entity progress.planned entry
  return { progress.note worker.options entry.sequence ending with planned }

/-- The window's counts, and where the cursor belongs. -/
def conclude (worker : Worker σ) (page : Page) (progress : Progress) : Tally :=
  let next := if progress.stop.isSome then progress.through else max page.next progress.through
  let reached :=
    if page.entries.length < worker.options.window then Stop.exhausted else Stop.windowFull
  { progress.tally with stop := progress.stop.getD reached, cursorAfter := next }

/-- Moves the cursor, unless the run is dry or the window got nowhere. The
ledger is cleared up to it; a failure to do so does no harm. -/
def settle (worker : Worker σ) (entity : Entity) (tally : Tally) : Work σ Unit := do
  if !worker.options.dryRun && tally.cursorBefore < tally.cursorAfter then
    worker.advanceCursor entity tally.cursorBefore tally.cursorAfter
    let _ ← attempt (do
      worker.meet (.clearAttempts entity)
      onStore fun store => (store.clearAttempts entity tally.cursorAfter).map ((), ·))

/-- A window from a position on, given the rows that are planned so far. -/
def windowFrom (worker : Worker σ) (entity : Entity) (cursor : Nat) (planned : Planned) :
    Work σ (Tally × Planned) := do
  let opened := { Tally.start entity cursor with batches := 1, dryRun := worker.options.dryRun }
  let page ← worker.fetch entity cursor
  let progress ← page.entries.foldlM (worker.step entity) ⟨opened, cursor, none, planned⟩
  let tally := worker.conclude page progress
  worker.settle entity tally
  return (tally, progress.planned)

/-- One window from the stored cursor. -/
def processBatch (worker : Worker σ) (entity : Entity) : Work σ Tally := do
  let cursor ← worker.loadCursor entity
  return (← worker.windowFrom entity cursor []).1

end Worker

end RecordSync.Run
