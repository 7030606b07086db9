import RecordSync.Proofs.Mirror
import RecordSync.Proofs.Orderly

/-! What becomes of rows while a table is written to, by whomever. An id stands
for one row: it keeps its external id and the instant of its creation for as
long as it is there, and once it is gone it never comes back. -/

namespace RecordSync.Store

open RecordSync.Calendar RecordSync.Change RecordSync.Record

/-- A cell that comes no later than a number comes no later than a greater one. -/
theorem NumberCell.atMost_of_le {cell : NumberCell} {early late : Int}
    (atMost : cell.atMost (.integer early) = true) (le : early ≤ late) :
    cell.atMost (.integer late) = true := by
  cases cell with
  | integer value =>
    simp only [NumberCell.atMost, NumberCell.ratio?, decide_eq_true_eq] at atMost ⊢
    omega
  | real value =>
    simp only [NumberCell.atMost, NumberCell.ratio?, decide_eq_true_eq] at atMost ⊢
    exact Int.le_trans atMost (Int.mul_le_mul_of_nonneg_right le (Int.natCast_nonneg _))
  | text value => cases atMost

/-- The same row at a later time, whatever was written to it since. -/
structure StoredRow.Continues (old stored : StoredRow) : Prop where
  id : stored.id = old.id
  externalId : stored.externalId = old.externalId
  firstSyncedAt : stored.firstSyncedAt = old.firstSyncedAt

theorem StoredRow.Continues.refl (stored : StoredRow) : stored.Continues stored := ⟨rfl, rfl, rfl⟩

theorem StoredRow.Continues.trans {first second third : StoredRow} (one : first.Continues second)
    (two : second.Continues third) : first.Continues third :=
  ⟨two.id.trans one.id, two.externalId.trans one.externalId,
    two.firstSyncedAt.trans one.firstSyncedAt⟩

theorem StoredRow.renewed_continues {stored : StoredRow} {row : Row}
    (named : row.externalId = stored.externalId) : stored.Continues (stored.renewed row) :=
  ⟨rfl, named, rfl⟩

namespace RowTable

/-- What the conditions on a table guard: no id or external id is there twice,
no id is above the last one that was given, and no row was written last before it
was written first. -/
structure Guarded (table : RowTable) : Prop where
  keyed : table.Keyed
  numbered : ∀ stored ∈ table.rows, stored.id ≤ table.lastId
  ordered : ∀ stored ∈ table.rows, stored.firstSyncedAt.atMost stored.lastSyncedAt = true

/-- What a single write makes of a table. -/
inductive Written (table : RowTable) : RowTable → Prop where
  | unchanged : Written table table
  | inserted {row : Row} (absent : table.find? row.externalId = none)
      (ordered : row.firstSyncedAt.millis ≤ row.lastSyncedAt.millis) :
      Written table (table.insert row)
  | overwritten {existing : StoredRow} {row : Row} (there : existing ∈ table.rows)
      (named : row.externalId = existing.externalId)
      (ordered : existing.firstSyncedAt.atMost (instantCell row.lastSyncedAt) = true) :
      Written table (table.overwrite existing row)
  | erased (externalId : String) : Written table (table.erase externalId)

/-- A table at a later time: each row is one from before or has an id that was
not yet given. -/
structure Succeeds (table later : RowTable) : Prop where
  lastId_le : table.lastId ≤ later.lastId
  rows : ∀ stored ∈ later.rows,
    table.lastId < stored.id ∨ ∃ old ∈ table.rows, old.Continues stored

variable {table after later : RowTable} {old stored : StoredRow}

theorem Guarded.nextId (guarded : table.Guarded) : table.nextId = table.lastId + 1 := by
  apply Nat.le_antisymm
  · apply nextId_le (Nat.lt_succ_self _)
    intro stored member
    have given := guarded.numbered stored member
    omega
  · exact table.lastId_lt_nextId

theorem Written.guarded (guarded : table.Guarded) (written : table.Written after) :
    after.Guarded := by
  have last := guarded.nextId
  cases written with
  | unchanged => exact guarded
  | @inserted row absent ordered =>
    refine ⟨guarded.keyed.insert absent, ?_, ?_⟩
    · intro stored member
      show stored.id ≤ (table.nextId : Int)
      rcases mem_insert.mp member with inside | rfl
      · have given := guarded.numbered stored inside
        omega
      · exact Int.le_refl _
    · intro stored member
      rcases mem_insert.mp member with inside | rfl
      · exact guarded.ordered stored inside
      · simpa [StoredRow.ofRow, instantCell, NumberCell.atMost, NumberCell.ratio?] using ordered
  | @overwritten existing row there named ordered =>
    refine ⟨guarded.keyed.overwrite there named, ?_, ?_⟩
    · intro stored member
      rcases of_mem_overwrite guarded.keyed there member with rfl | inside
      · exact guarded.numbered existing there
      · exact guarded.numbered stored inside
    · intro stored member
      rcases of_mem_overwrite guarded.keyed there member with rfl | inside
      · exact ordered
      · exact guarded.ordered stored inside
  | erased externalId =>
    refine ⟨guarded.keyed.erase externalId, ?_, ?_⟩
    · intro stored member
      exact guarded.numbered stored (mem_erase.mp member).1
    · intro stored member
      exact guarded.ordered stored (mem_erase.mp member).1

theorem Succeeds.refl (table : RowTable) : table.Succeeds table :=
  ⟨Nat.le_refl _, fun stored member => .inr ⟨stored, member, .refl stored⟩⟩

theorem Succeeds.trans (one : table.Succeeds after) (two : after.Succeeds later) :
    table.Succeeds later := by
  refine ⟨Nat.le_trans one.lastId_le two.lastId_le, ?_⟩
  intro stored member
  rcases two.rows stored member with fresh | ⟨middle, inside, continues⟩
  · have given := one.lastId_le
    exact .inl (by omega)
  · rcases one.rows middle inside with fresh | ⟨old, there, before⟩
    · exact .inl (continues.id ▸ fresh)
    · exact .inr ⟨old, there, before.trans continues⟩

theorem Written.succeeds (guarded : table.Guarded) (written : table.Written after) :
    table.Succeeds after := by
  have last := guarded.nextId
  cases written with
  | unchanged => exact .refl table
  | inserted absent ordered =>
    refine ⟨Nat.le_of_lt table.lastId_lt_nextId, ?_⟩
    intro stored member
    rcases mem_insert.mp member with inside | rfl
    · exact .inr ⟨stored, inside, .refl stored⟩
    · simp only [StoredRow.ofRow]
      exact .inl (by omega)
  | @overwritten existing row there named ordered =>
    refine ⟨Nat.le_refl _, ?_⟩
    intro stored member
    rcases of_mem_overwrite guarded.keyed there member with rfl | inside
    · exact .inr ⟨existing, there, StoredRow.renewed_continues named⟩
    · exact .inr ⟨stored, inside, .refl stored⟩
  | erased externalId =>
    refine ⟨Nat.le_refl _, ?_⟩
    intro stored member
    exact .inr ⟨stored, (mem_erase.mp member).1, .refl stored⟩

/-- A row with the id of one from before is that row. -/
theorem Succeeds.continues (succeeds : table.Succeeds later) (guarded : table.Guarded)
    (there : old ∈ table.rows) (member : stored ∈ later.rows) (same : stored.id = old.id) :
    old.Continues stored := by
  rcases succeeds.rows stored member with fresh | ⟨other, inside, continues⟩
  · have given := guarded.numbered old there
    omega
  · have one : other = old :=
      List.inj_on_of_nodup_map guarded.keyed.ids inside there (continues.id.symm.trans same)
    exact one ▸ continues

/-- An id that was given and is gone stays gone. -/
theorem Succeeds.stays_gone (succeeds : table.Succeeds later) {id : Int}
    (given : id ≤ table.lastId) (gone : ∀ stored ∈ table.rows, stored.id ≠ id) :
    ∀ stored ∈ later.rows, stored.id ≠ id := by
  intro stored member same
  rcases succeeds.rows stored member with fresh | ⟨other, inside, continues⟩
  · omega
  · exact gone other inside (continues.id.symm.trans same)

/-- A single write does not put another row in the place of one with the same
external id. -/
theorem Written.same_id (guarded : table.Guarded) (written : table.Written after)
    (there : old ∈ table.rows) (member : stored ∈ after.rows)
    (same : stored.externalId = old.externalId) : stored.id = old.id := by
  have alone {stored : StoredRow} (inside : stored ∈ table.rows)
      (same : stored.externalId = old.externalId) : stored.id = old.id := by
    rw [List.inj_on_of_nodup_map guarded.keyed.names inside there same]
  cases written with
  | unchanged => exact alone member same
  | @inserted row absent ordered =>
    rcases mem_insert.mp member with inside | rfl
    · exact alone inside same
    · have unnamed := List.find?_eq_none.mp absent old there
      simp only [beq_iff_eq] at unnamed
      exact absurd same.symm unnamed
  | @overwritten existing row inside named ordered =>
    rcases of_mem_overwrite guarded.keyed inside member with rfl | inside
    · exact @alone existing inside (named.symm.trans same)
    · exact alone inside same
  | erased externalId => exact alone (mem_erase.mp member).1 same

/-- A write uses up one id at most. -/
theorem Written.lastId_le (guarded : table.Guarded) (written : table.Written after) :
    after.lastId ≤ table.lastId + 1 := by
  cases written with
  | unchanged => exact Nat.le_succ _
  | inserted absent ordered => exact Nat.le_of_eq guarded.nextId
  | overwritten there named ordered => exact Nat.le_succ _
  | erased externalId => exact Nat.le_succ _

end RowTable

/-- All tables are guarded, and no id was given without an event in the log. -/
structure Guarded (store : Store) : Prop where
  tables : ∀ entity, (store.rows.get entity).Guarded
  logged : ∀ entity, (store.rows.get entity).lastId ≤ store.log.length

variable {store after : Store} {author : Author} {plan : Plan} {outcome : Outcome}

theorem Guarded.keyed (guarded : store.Guarded) : store.Keyed := fun entity =>
  (guarded.tables entity).keyed

theorem empty_guarded : empty.Guarded := by
  have bare (entity : Entity) : empty.rows.get entity = .empty := PerEntity.get_both _ entity
  constructor
  · intro entity
    rw [bare]
    refine ⟨RowTable.empty_keyed, ?_, ?_⟩
    · intro stored impossible
      cases impossible
    · intro stored impossible
      cases impossible
  · intro entity
    rw [bare]
    exact Nat.zero_le _

/-- As long as the log is not as long as there are ids, each table has one left. -/
theorem Guarded.notFull (guarded : store.Guarded) (room : store.log.length < RowTable.greatestId)
    (entity : Entity) : (store.rows.get entity).isFull = false := by
  have next := (guarded.tables entity).nextId
  have logged := guarded.logged entity
  simp only [RowTable.isFull, decide_eq_false_iff_not]
  omega

/-- A plan that is carried out writes to one table, and the log says so, or it
changes nothing. -/
theorem carryOut_spec (keyed : store.Keyed)
    (done : store.carryOut author plan = .ok (outcome, after)) :
    after = store ∨ ∃ entity table note, (store.rows.get entity).Written table ∧
      after = store.withRows entity table author note := by
  have upserted {row : Row} {outcome : Outcome}
      (done : (store.upsert author row).map (fun store => (plan.outcome, store)) =
        .ok (outcome, after)) :
      ∃ entity table note, (store.rows.get entity).Written table ∧
        after = store.withRows entity table author note := by
    obtain ⟨written, done, same⟩ := map_eq_ok_iff.mp done
    cases same
    unfold Store.upsert at done
    split at done
    · obtain ⟨absent, ordered, same⟩ := insert_spec done
      exact ⟨_, _, _, .inserted absent ordered, same⟩
    · obtain ⟨existing, exact, ordered, same⟩ := overwrite_spec done
      obtain ⟨there, _⟩ := (keyed _).find?_of_findExact? exact
      obtain ⟨member, named⟩ := RowTable.mem_of_find? there
      exact ⟨_, _, _, .overwritten member named.symm ordered, same⟩
  cases plan with
  | insert row => exact .inr (upserted done)
  | update row stale changed previous => exact .inr (upserted done)
  | delete entity externalId =>
    unfold Store.carryOut Store.delete at done
    dsimp only at done
    split at done
    · cases done
      exact .inl rfl
    · cases done
      exact .inr ⟨_, _, _, .erased externalId, rfl⟩
  | skip outcome =>
    cases done
    exact .inl rfl

theorem carryOut_written (keyed : store.Keyed)
    (done : store.carryOut author plan = .ok (outcome, after)) (entity : Entity) :
    (store.rows.get entity).Written (after.rows.get entity) := by
  obtain rfl | ⟨about, table, note, written, rfl⟩ := carryOut_spec keyed done
  · exact .unchanged
  · by_cases same : entity = about
    · subst same
      simpa [withRows] using written
    · simp only [withRows, PerEntity.get_set_of_ne _ _ same]
      exact .unchanged

/-- Whatever plan is carried out, the tables stay guarded. -/
theorem Guarded.carryOut (guarded : store.Guarded)
    (done : store.carryOut author plan = .ok (outcome, after)) : after.Guarded := by
  refine ⟨fun entity => (carryOut_written guarded.keyed done entity).guarded
    (guarded.tables entity), ?_⟩
  intro entity
  have logged := guarded.logged entity
  obtain rfl | ⟨about, table, note, written, rfl⟩ := carryOut_spec guarded.keyed done
  · exact logged
  · have longer : (store.withRows about table author note).log.length = store.log.length + 1 := rfl
    by_cases same : entity = about
    · subst same
      have used := written.lastId_le (guarded.tables entity)
      simp only [withRows, PerEntity.get_set_same] at longer ⊢
      omega
    · simp only [withRows, PerEntity.get_set_of_ne _ _ same] at longer ⊢
      omega

end RecordSync.Store
