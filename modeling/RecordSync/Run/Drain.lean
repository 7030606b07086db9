import RecordSync.Run.Window

/-! Windows one after the other, until the feed is drained or the run stops. -/

namespace RecordSync.Run

open RecordSync.Feed RecordSync.Record

variable {σ : Type}

/-- No more entries than this can follow a position. -/
def entryBound (source : Source) (entity : Entity) : Nat :=
  match source with
  | .memory feed => feed.length entity
  | .lines feed =>
    match feed.files.get entity with
    | .bytes bytes => bytes.length
    | _ => 0

namespace Worker

/-- Where the next window starts. A dry run never stores its cursor, so it goes
on from where its last window ended. -/
def nextCursor (worker : Worker σ) (entity : Entity) (total : Tally) : Work σ Nat :=
  if worker.options.dryRun then return total.cursorAfter else worker.loadCursor entity

/-- Whether a run goes on after its last window. -/
def goesOn (maxBatches : Option Nat) (total : Tally) : Bool :=
  total.stop == .windowFull && maxBatches.all (total.batches < ·)

/-- The windows after the first, at most `fuel` of them. -/
def drainOn (worker : Worker σ) (entity : Entity) (maxBatches : Option Nat) :
    Nat → Tally → Planned → Work σ Tally
  | 0, total, _ => return total
  | fuel + 1, total, planned => do
    if goesOn maxBatches total then
      let cursor ← worker.nextCursor entity total
      let (batch, planned) ← worker.windowFrom entity cursor planned
      worker.drainOn entity maxBatches fuel (total.absorb batch) planned
    else return total

/-- A run whose first cursor is already loaded. Each full window moves past an
entry at least, so there are no more windows than entries. -/
def drainFrom (worker : Worker σ) (entity : Entity) (maxBatches : Option Nat) (cursor : Nat) :
    Work σ Tally := do
  let bound := entryBound (← get).source entity
  let (first, planned) ← worker.windowFrom entity cursor []
  worker.drainOn entity maxBatches bound first planned

/-- Windows until none is full, the run stops, or as many were consumed as the
caller allows; at least one. -/
def runUntilIdle (worker : Worker σ) (entity : Entity) (maxBatches : Option Nat) : Work σ Tally := do
  worker.drainFrom entity maxBatches (← worker.loadCursor entity)

/-- Several feeds drained one after the other, up to the first fault. -/
def drainAll (worker : Worker σ) (entities : List Entity) (maxBatches : Option Nat) :
    Work σ (List Tally) :=
  entities.mapM (worker.runUntilIdle · maxBatches)

end Worker

end RecordSync.Run
