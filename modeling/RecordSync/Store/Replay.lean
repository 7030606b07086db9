import RecordSync.Failure
import RecordSync.Store.Apply

/-! Quarantined records tried again. The payload is decoded anew and applied
beside the feed, whose cursor has long moved on. -/

namespace RecordSync.Store

open RecordSync.Calendar RecordSync.Change RecordSync.Record

/-- What a replay did; a reason is given when the record still cannot be applied. -/
structure ReplayReport where
  id : Nat
  outcome : Outcome
  resolved : Bool
  reason : Option String
  deriving DecidableEq, Repr

/-- Why an outcome left the record unapplied. -/
def reasonOf : Outcome → Option String
  | .invalid reason => some reason
  | .rejected fault => some fault.message
  | _ => none

/-- What the feed delivered for a quarantined record. -/
def Quarantined.delivery (entry : Quarantined) : Delivery :=
  .ofText entry.entity.name entry.payload

/-- Replays an entry, resolved or not, and resolves it when the record could be
applied. The row's event carries one actor, the resolution the other. -/
def replay (store : Store) (rowActor resolver : String) (id : Int) (now : Instant) :
    Except Failure (ReplayReport × Store) :=
  match store.quarantine.find? id with
  | none => .error (.quarantineNotFound id)
  | some entry =>
    match store.apply rowActor (decode entry.delivery) now with
    | .error fault => .error (.sync fault)
    | .ok (outcome, store) =>
      if outcome.isApplied then
        let store := ((store.resolve ⟨resolver, now⟩ id (some "replayed")).map (·.2)).getD store
        .ok (⟨entry.id, outcome, true, none⟩, store)
      else .ok (⟨entry.id, outcome, false, reasonOf outcome⟩, store)

end RecordSync.Store
