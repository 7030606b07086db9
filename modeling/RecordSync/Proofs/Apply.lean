import RecordSync.Store.Apply

/-! What applying a change depends on, and what it leaves alone: it reads and
writes rows and the log, and nothing else of the store. -/

namespace RecordSync.Store

open RecordSync.Calendar RecordSync.Change RecordSync.Record

def withRecordsOf (store records : Store) : Store :=
  { store with rows := records.rows, log := records.log }

/-- The same rows and the same log. -/
structure SameRecords (left right : Store) : Prop where
  rows : left.rows = right.rows
  log : left.log = right.log

theorem SameRecords.refl (store : Store) : store.SameRecords store := ⟨rfl, rfl⟩

theorem SameRecords.symm {left right : Store} (same : left.SameRecords right) :
    right.SameRecords left := ⟨same.rows.symm, same.log.symm⟩

theorem SameRecords.trans {first second third : Store} (one : first.SameRecords second)
    (two : second.SameRecords third) : first.SameRecords third :=
  ⟨one.rows.trans two.rows, one.log.trans two.log⟩

theorem SameRecords.withRecordsOf_eq {left right : Store} (same : left.SameRecords right) :
    right.withRecordsOf left = right := by
  cases right
  simp [withRecordsOf, same.rows, same.log]

theorem withRecordsOf_sameRecords (store records : Store) :
    records.SameRecords (store.withRecordsOf records) := ⟨rfl, rfl⟩

private theorem upsert_withRecordsOf (store records : Store) (author : Author) (row : Row) :
    (store.withRecordsOf records).upsert author row =
      (records.upsert author row).map store.withRecordsOf := by
  unfold upsert
  cases row.id with
  | none =>
    unfold insert
    dsimp only [withRecordsOf]
    split
    · rfl
    · split
      · rfl
      · split <;> rfl
  | some id =>
    unfold overwrite
    dsimp only [withRecordsOf]
    split
    · rfl
    · split <;> rfl

private theorem delete_withRecordsOf (store records : Store) (author : Author) (entity : Entity)
    (externalId : String) :
    (store.withRecordsOf records).delete author entity externalId =
      ((records.delete author entity externalId).1,
        store.withRecordsOf (records.delete author entity externalId).2) := by
  unfold delete
  dsimp only [withRecordsOf]
  split <;> rfl

theorem carryOut_withRecordsOf (store records : Store) (author : Author) (plan : Plan) :
    (store.withRecordsOf records).carryOut author plan =
      (records.carryOut author plan).map fun (outcome, after) =>
        (outcome, store.withRecordsOf after) := by
  cases plan with
  | insert row =>
    simp only [carryOut, upsert_withRecordsOf]
    cases records.upsert author row <;> rfl
  | update row stale changed previous =>
    simp only [carryOut, upsert_withRecordsOf]
    cases records.upsert author row <;> rfl
  | delete entity externalId =>
    simp only [carryOut, delete_withRecordsOf]
    rfl
  | skip outcome => rfl

/-- A change does to the rows and the log of a store what it does to the same
rows and log in any other store. -/
theorem apply_withRecordsOf (store records : Store) (actor : String) (change : Change)
    (now : Instant) :
    (store.withRecordsOf records).apply actor change now =
      (records.apply actor change now).map fun (outcome, after) =>
        (outcome, store.withRecordsOf after) := by
  have planned : (store.withRecordsOf records).preview change now = records.preview change now :=
    rfl
  unfold apply
  rw [planned]
  cases records.preview change now with
  | error fault => rfl
  | ok plan => exact carryOut_withRecordsOf store records ⟨actor, now⟩ plan

variable {store after : Store} {actor : String} {change : Change} {now : Instant}
  {outcome : Outcome}

/-- What is applied is the plan for some row. -/
theorem apply_planned (applied : store.apply actor change now = .ok (outcome, after)) :
    ∃ current, store.carryOut ⟨actor, now⟩ (plan change current now) = .ok (outcome, after) := by
  unfold apply preview at applied
  cases target : change.target? with
  | none =>
    simp only [target] at applied
    exact ⟨none, applied⟩
  | some key =>
    simp only [target] at applied
    cases read : store.read key.1 key.2 with
    | error fault =>
      simp only [read, Except.map] at applied
      cases applied
    | ok current =>
      simp only [read, Except.map] at applied
      exact ⟨current, applied⟩

/-- Stores with the same rows and log still have the same ones after a change. -/
theorem apply_congr {other : Store} (same : store.SameRecords other)
    (applied : store.apply actor change now = .ok (outcome, after)) :
    ∃ later, other.apply actor change now = .ok (outcome, later) ∧ after.SameRecords later := by
  refine ⟨other.withRecordsOf after, ?_, withRecordsOf_sameRecords other after⟩
  rw [← same.withRecordsOf_eq, apply_withRecordsOf, applied]
  rfl

/-- Applying a change touches neither the ledger, nor the quarantine, nor the cursors. -/
theorem apply_eq_withRecordsOf (applied : store.apply actor change now = .ok (outcome, after)) :
    after = store.withRecordsOf after := by
  have same := apply_withRecordsOf store store actor change now
  rw [(SameRecords.refl store).withRecordsOf_eq, applied] at same
  injection same with same
  injection same

/-- Neither does a write of a row. -/
theorem upsert_eq_withRecordsOf {author : Author} {row : Row}
    (written : store.upsert author row = .ok after) : after = store.withRecordsOf after := by
  have same := upsert_withRecordsOf store store author row
  rw [(SameRecords.refl store).withRecordsOf_eq, written] at same
  injection same

theorem apply_cursors (applied : store.apply actor change now = .ok (outcome, after)) :
    after.cursors = store.cursors := by
  rw [apply_eq_withRecordsOf applied]
  rfl

theorem apply_attempts (applied : store.apply actor change now = .ok (outcome, after)) :
    after.attempts = store.attempts := by
  rw [apply_eq_withRecordsOf applied]
  rfl

theorem apply_quarantine (applied : store.apply actor change now = .ok (outcome, after)) :
    after.quarantine = store.quarantine := by
  rw [apply_eq_withRecordsOf applied]
  rfl

end RecordSync.Store
