import RecordSync.Change.Plan

/-! What a window, or several windows of one run, amounted to. -/

namespace RecordSync.Run

open RecordSync.Change RecordSync.Record

/-- Why a window ended. -/
inductive Stop where
  | exhausted
  | windowFull
  | cancelled
  | deferred (sequence : Nat)
  | tooManyInvalid (count : Nat)
  | mappingError (sequence : Nat)
  deriving DecidableEq, Repr

namespace Stop

def text : Stop → String
  | exhausted => "caught up"
  | windowFull => "window full"
  | cancelled => "cancelled"
  | deferred sequence => "deferred at sequence " ++ toString sequence
  | tooManyInvalid count => "too many invalid records (" ++ toString count ++ ")"
  | mappingError sequence => "mapping error at sequence " ++ toString sequence

/-- The caller's policy ended the run, so the run counts as failed. -/
def isFatal : Stop → Bool
  | tooManyInvalid _ => true
  | mappingError _ => true
  | _ => false

end Stop

/-- Counts of the ways in which records ended. Applied are those with which the
store now agrees. Failed are those that could not become rows and those that were
given up. -/
structure Tally where
  entity : Entity
  batches : Nat
  applied : Nat
  created : Nat
  updated : Nat
  unchanged : Nat
  stale : Nat
  deleted : Nat
  alreadyAbsent : Nat
  invalid : Nat
  failed : Nat
  deferred : Nat
  quarantined : Nat
  cursorBefore : Nat
  cursorAfter : Nat
  stop : Stop
  dryRun : Bool
  deriving DecidableEq, Repr

namespace Tally

def start (entity : Entity) (cursor : Nat) : Tally :=
  ⟨entity, 0, 0, 0, 0, 0, 0, 0, 0, 0, 0, 0, 0, cursor, cursor, .exhausted, false⟩

/-- All records that ended in any way or were put off. -/
def processed (tally : Tally) : Nat :=
  tally.applied + tally.invalid + tally.failed + tally.deferred

/-- Counts the way in which a record ended. -/
def recordKind (tally : Tally) : Outcome → Tally
  | .created => { tally with created := tally.created + 1 }
  | .updated stale changed =>
    { tally with
      updated := tally.updated + 1
      stale := tally.stale + stale.toNat
      unchanged := tally.unchanged + (!changed).toNat }
  | .deleted => { tally with deleted := tally.deleted + 1 }
  | .alreadyAbsent => { tally with alreadyAbsent := tally.alreadyAbsent + 1 }
  | .invalid _ => { tally with invalid := tally.invalid + 1 }
  | .rejected _ => { tally with failed := tally.failed + 1 }

/-- Counts one outcome. -/
def record (tally : Tally) (outcome : Outcome) : Tally :=
  let counted := tally.recordKind outcome
  { counted with applied := counted.applied + outcome.isApplied.toNat }

def recordQuarantined (tally : Tally) : Tally :=
  { tally with failed := tally.failed + 1, quarantined := tally.quarantined + 1 }

def recordDeferred (tally : Tally) : Tally :=
  { tally with deferred := tally.deferred + 1 }

/-- Takes in a later window of the same run. -/
def absorb (tally later : Tally) : Tally :=
  { tally with
    batches := tally.batches + later.batches
    applied := tally.applied + later.applied
    created := tally.created + later.created
    updated := tally.updated + later.updated
    unchanged := tally.unchanged + later.unchanged
    stale := tally.stale + later.stale
    deleted := tally.deleted + later.deleted
    alreadyAbsent := tally.alreadyAbsent + later.alreadyAbsent
    invalid := tally.invalid + later.invalid
    failed := tally.failed + later.failed
    deferred := tally.deferred + later.deferred
    quarantined := tally.quarantined + later.quarantined
    cursorAfter := later.cursorAfter
    stop := later.stop }

end Tally

end RecordSync.Run
