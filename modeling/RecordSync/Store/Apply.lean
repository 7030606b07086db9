import RecordSync.Change.Plan
import RecordSync.Store.Basic

/-! Changes applied to the store: read the row, plan, and make at most one write. -/

namespace RecordSync.Store

open RecordSync.Calendar RecordSync.Change RecordSync.Record

/-- The plan for a change against the present rows. -/
def preview (store : Store) (change : Change) (now : Instant) : Except SyncFault Plan :=
  match change.target? with
  | none => .ok (plan change none now)
  | some (entity, externalId) =>
    (store.read entity externalId).map fun current => plan change current now

/-- Carries a plan out. The row to delete may be gone since it was read. -/
def carryOut (store : Store) (author : Author) (plan : Plan) : Except SyncFault (Outcome × Store) :=
  match plan with
  | .insert row => (store.upsert author row).map fun store => (plan.outcome, store)
  | .update row .. => (store.upsert author row).map fun store => (plan.outcome, store)
  | .delete entity externalId =>
    let (found, store) := store.delete author entity externalId
    .ok (if found then .deleted else .alreadyAbsent, store)
  | .skip outcome => .ok (outcome, store)

/-- Applies a change at an instant on behalf of an actor. -/
def apply (store : Store) (actor : String) (change : Change) (now : Instant) :
    Except SyncFault (Outcome × Store) :=
  match store.preview change now with
  | .ok plan => store.carryOut ⟨actor, now⟩ plan
  | .error fault => .error fault

end RecordSync.Store
