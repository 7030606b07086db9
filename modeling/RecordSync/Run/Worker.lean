import RecordSync.Feed.Lines
import RecordSync.Run.Options
import RecordSync.Store.Apply
import RecordSync.Store.Cursor

/-! A worker and what surrounds it.

Whatever a worker does not decide itself comes from its surroundings: the time,
whether it was told to stop, and whether a call meets a fault. They carry a
state of any kind, so they may be as simple as a clock that stands still or as
contrary as a fault at every call. A call that meets a fault changes nothing. -/

namespace RecordSync.Run

open RecordSync.Calendar RecordSync.Change RecordSync.Feed RecordSync.Record RecordSync.Store

/-- The calls of a worker, with the record that each is about. -/
inductive Call where
  | fetch (entity : Entity)
  | loadCursor (entity : Entity)
  | advanceCursor (entity : Entity)
  | read (entity : Entity) (externalId : String)
  | write (entity : Entity) (externalId : String)
  | delete (entity : Entity) (externalId : String)
  | recordFailure (entity : Entity) (externalId : Option String)
  | surrender (entity : Entity) (externalId : Option String)
  | clearAttempts (entity : Entity)
  deriving DecidableEq, Repr

structure Surroundings (σ : Type) where
  now : σ → Instant × σ
  cancelled : σ → Bool × σ
  meet : Call → σ → Option SyncFault × σ
  wait : Nat → σ → σ

/-- Surroundings in which nothing happens: a clock that only waiting moves, no faults,
and nobody who tells the worker to stop. -/
def quiet : Surroundings Instant where
  now clock := (clock, clock)
  cancelled clock := (false, clock)
  meet _ clock := (none, clock)
  wait millis clock := clock.addMillis millis

/-- Where a worker keeps its cursors. -/
inductive CursorPlace where
  | memory
  | store
  deriving DecidableEq, Repr

structure Worker (σ : Type) where
  surroundings : Surroundings σ
  actor : String
  cursors : CursorPlace
  options : Options

/-- All that a worker's calls may change. -/
structure Desk (σ : Type) where
  store : Store
  memory : MemoryCursors
  source : Source
  around : σ

/-- A part of a worker's work. What was done before a fault stays done. -/
abbrev Work (σ α : Type) := ExceptT SyncFault (StateM (Desk σ)) α

variable {σ α : Type}

namespace Worker

/-- A question to the surroundings. -/
def ask (question : σ → α × σ) : Work σ α := do
  let desk ← get
  let (answer, around) := question desk.around
  set { desk with around }
  return answer

def now (worker : Worker σ) : Work σ Instant := ask worker.surroundings.now

def isCancelled (worker : Worker σ) : Work σ Bool := ask worker.surroundings.cancelled

def wait (worker : Worker σ) (millis : Nat) : Work σ Unit :=
  ask fun around => ((), worker.surroundings.wait millis around)

/-- A call about to be made. -/
def meet (worker : Worker σ) (call : Call) : Work σ Unit := do
  match ← ask (worker.surroundings.meet call) with
  | some fault => throw fault
  | none => return ()

/-- A store operation that returns a value. -/
def onStore (operation : Store → Except SyncFault (α × Store)) : Work σ α := do
  let desk ← get
  match operation desk.store with
  | .ok (value, store) =>
    set { desk with store }
    return value
  | .error fault => throw fault

/-- What becomes of a part of the work, as a value. -/
def attempt (work : Work σ α) : Work σ (Except SyncFault α) :=
  ExceptT.mk (do return .ok (← work.run))

def fetch (worker : Worker σ) (entity : Entity) (position : Nat) : Work σ Page := do
  worker.meet (.fetch entity)
  let desk ← get
  match desk.source.fetch entity position worker.options.window with
  | .ok (page, source) =>
    set { desk with source }
    return page
  | .error fault => throw fault

def loadCursor (worker : Worker σ) (entity : Entity) : Work σ Nat := do
  worker.meet (.loadCursor entity)
  let desk ← get
  match worker.cursors with
  | .memory => return desk.memory.get entity
  | .store => return desk.store.cursor entity

def advanceCursor (worker : Worker σ) (entity : Entity) (expected next : Nat) : Work σ Unit := do
  worker.meet (.advanceCursor entity)
  match worker.cursors with
  | .memory =>
    let desk ← get
    match desk.memory.advance entity expected next with
    | .ok memory => set { desk with memory }
    | .error fault => throw fault
  | .store =>
    let now ← worker.now
    onStore fun store => (store.advanceCursor entity expected next now).map ((), ·)

def resetCursor (worker : Worker σ) (entity : Entity) : Work σ Nat := do
  let desk ← get
  match worker.cursors with
  | .memory =>
    let (previous, memory) := desk.memory.reset entity
    set { desk with memory }
    return previous
  | .store =>
    let now ← worker.now
    onStore fun store => .ok (store.resetCursor ⟨worker.actor, now⟩ entity)

/-- Reads the row of a record. -/
def readRow (worker : Worker σ) (entity : Entity) (externalId : String) : Work σ (Option Row) := do
  worker.meet (.read entity externalId)
  onStore fun store => (store.read entity externalId).map (·, store)

/-- The plan for a change against the present rows. -/
def preview (worker : Worker σ) (change : Change) (now : Instant) : Work σ Plan := do
  match change.target? with
  | none => return plan change none now
  | some (entity, externalId) =>
    return plan change (← worker.readRow entity externalId) now

/-- The call that carries a plan out, if it takes one. -/
def callFor : Plan → Option Call
  | .insert row => some (.write row.entity row.externalId)
  | .update row .. => some (.write row.entity row.externalId)
  | .delete entity externalId => some (.delete entity externalId)
  | .skip _ => none

def carryOut (worker : Worker σ) (plan : Plan) (now : Instant) : Work σ Outcome := do
  match callFor plan with
  | some call => worker.meet call
  | none => pure ()
  onStore fun store => store.carryOut ⟨worker.actor, now⟩ plan

/-- Applies a change: one reading, one plan, at most one write. -/
def apply (worker : Worker σ) (change : Change) (now : Instant) : Work σ Outcome := do
  worker.carryOut (← worker.preview change now) now

end Worker

end RecordSync.Run
