import RecordSync.Run.Worker

/-! Rows as a dry run would have left them. -/

namespace RecordSync.Run

open RecordSync.Calendar RecordSync.Change RecordSync.Record

/-- For each key with a planned write the row that it would leave, if any. The
latest plan for a key comes first. -/
abbrev Planned := List ((Entity × String) × Option Row)

namespace Planned

def row? (planned : Planned) (key : Entity × String) : Option (Option Row) :=
  (List.find? (·.1 == key) planned).map (·.2)

/-- Takes the write of a plan in. -/
def note (planned : Planned) (key : Entity × String) : Plan → Planned
  | .insert row => (key, some row) :: planned
  | .update row .. => (key, some row) :: planned
  | .delete .. => (key, none) :: planned
  | .skip _ => planned

end Planned

variable {σ : Type}

/-- The plan for a change on top of earlier plans. Only a row without a plan is
read from the store. -/
def Worker.planOn (worker : Worker σ) (planned : Planned) (change : Change) (now : Instant) :
    Work σ (Plan × Planned) := do
  match change.target? with
  | none => return (plan change none now, planned)
  | some key =>
    let current ← match planned.row? key with
      | some row => pure row
      | none => worker.readRow key.1 key.2
    let next := plan change current now
    return (next, planned.note key next)

end RecordSync.Run
