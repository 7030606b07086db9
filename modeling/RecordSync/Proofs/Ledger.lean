import RecordSync.Proofs.Apply
import RecordSync.Store.Cursor

/-! What the ledger of failures, the quarantine and the cursors have to do with
the rest of the store: nothing. -/

namespace RecordSync.Store

open RecordSync.Calendar RecordSync.Record

/-- Nothing changed but the ledger of failures. -/
structure OnlyAttempts (before after : Store) : Prop where
  rows : after.rows = before.rows
  log : after.log = before.log
  cursors : after.cursors = before.cursors
  quarantine : after.quarantine = before.quarantine

theorem OnlyAttempts.of_eq {before after : Store} (same : after = before) :
    before.OnlyAttempts after := by
  subst same
  exact ⟨rfl, rfl, rfl, rfl⟩

theorem OnlyAttempts.trans {first second third : Store} (one : first.OnlyAttempts second)
    (two : second.OnlyAttempts third) : first.OnlyAttempts third :=
  ⟨two.rows.trans one.rows, two.log.trans one.log, two.cursors.trans one.cursors,
    two.quarantine.trans one.quarantine⟩

theorem OnlyAttempts.sameRecords {before after : Store} (only : before.OnlyAttempts after) :
    before.SameRecords after := ⟨only.rows.symm, only.log.symm⟩

theorem recordFailure_onlyAttempts {store after : Store} {entity : Entity} {sequence attempts : Nat}
    {externalId : Option String} {error : String} {now : Instant}
    (recorded : store.recordFailure entity sequence externalId error now = .ok (attempts, after)) :
    store.OnlyAttempts after := by
  unfold recordFailure at recorded
  split at recorded
  · cases recorded
  · cases recorded
    exact ⟨rfl, rfl, rfl, rfl⟩

theorem clearAttempts_onlyAttempts {store after : Store} {entity : Entity} {position : Nat}
    (cleared : store.clearAttempts entity position = .ok after) : store.OnlyAttempts after := by
  unfold clearAttempts at cleared
  split at cleared
  · cases cleared
  · cases cleared
    exact ⟨rfl, rfl, rfl, rfl⟩

theorem Quarantine.put_entries_ne_nil (quarantine : Quarantine) (entry : Quarantined) :
    (quarantine.put entry).1.entries ≠ [] := by
  unfold put
  split
  · rename_i existing found
    have member : existing ∈ quarantine.entries := List.mem_of_find?_eq_some found
    intro empty
    simp only [replace, List.map_eq_nil_iff] at empty
    rw [empty] at member
    cases member
  · simp

/-- A record that is given up is in the quarantine from then on; the rows and
the cursors are as before. -/
theorem surrender_spec {store after : Store} {author : Author} {record : Surrender} {id : Nat}
    (given : store.surrender author record = .ok (id, after)) :
    after.rows = store.rows ∧ after.cursors = store.cursors ∧
      after.quarantine.entries ≠ [] := by
  unfold surrender at given
  split at given
  · cases given
  · cases given
    exact ⟨rfl, rfl, Quarantine.put_entries_ne_nil _ _⟩

/-- A cursor moves only from where it was expected, and nothing else changes. -/
theorem advanceCursor_eq_ok {store after : Store} {entity : Entity} {expected next : Nat}
    {now : Instant} (moved : store.advanceCursor entity expected next now = .ok after) :
    store.cursor entity = expected ∧ next ≤ greatestPosition ∧
      after = store.setCursor entity next now := by
  simp only [advanceCursor] at moved
  split at moved
  · cases moved
  · rename_i there
    split at moved
    · cases moved
    · rename_i held
      cases moved
      exact ⟨Decidable.not_not.mp there, Nat.le_of_not_lt held, rfl⟩

end RecordSync.Store
