import Mathlib.Data.List.Nodup
import RecordSync.Store.Rows

/-! Tables of rows: no two rows have one id or one external id, and each
operation changes what is found under one external id alone. -/

namespace RecordSync.Store

open RecordSync.Record

/-- A row as it is stored, overwritten by another one. -/
def StoredRow.renewed (stored : StoredRow) (row : Row) : StoredRow :=
  { StoredRow.ofRow stored.id row with firstSyncedAt := stored.firstSyncedAt }

namespace RowTable

/-- Each row has its own id and its own external id. -/
structure Keyed (table : RowTable) : Prop where
  ids : (table.rows.map (·.id)).Nodup
  names : (table.rows.map (·.externalId)).Nodup

variable {table : RowTable} {stored existing : StoredRow} {externalId other : String} {row : Row}

theorem empty_keyed : empty.Keyed := ⟨List.nodup_nil, List.nodup_nil⟩

theorem mem_of_find? (found : table.find? externalId = some stored) :
    stored ∈ table.rows ∧ stored.externalId = externalId :=
  ⟨List.mem_of_find?_eq_some found, by simpa using List.find?_some found⟩

theorem Keyed.find?_of_mem (keyed : table.Keyed) (member : stored ∈ table.rows) :
    table.find? stored.externalId = some stored := by
  cases found : table.find? stored.externalId with
  | none => simpa using List.find?_eq_none.mp found stored member
  | some other =>
    obtain ⟨there, same⟩ := mem_of_find? found
    rw [List.inj_on_of_nodup_map keyed.names there member same]

theorem Keyed.find?_of_findExact? {id : Int} (keyed : table.Keyed)
    (found : table.findExact? id externalId = some stored) :
    table.find? externalId = some stored ∧ stored.id = id := by
  have member : stored ∈ table.rows := List.mem_of_find?_eq_some found
  have both := List.find?_some found
  simp only [Bool.and_eq_true, beq_iff_eq] at both
  exact ⟨both.2 ▸ keyed.find?_of_mem member, both.1⟩

/-- A row is found by its external id alone as by both ids. -/
theorem Keyed.findExact?_of_find? (keyed : table.Keyed)
    (found : table.find? externalId = some stored) :
    table.findExact? stored.id externalId = some stored := by
  obtain ⟨member, named⟩ := mem_of_find? found
  cases exact : table.findExact? stored.id externalId with
  | none =>
    have absent := List.find?_eq_none.mp exact stored member
    simp [named] at absent
  | some other =>
    have same := (keyed.find?_of_findExact? exact).1
    rw [found] at same
    exact same.symm

private theorem foldl_next (rows : List StoredRow) (next : Nat) :
    let found := rows.foldl (fun next stored => max next (stored.id + 1).toNat) next
    next ≤ found ∧ (∀ stored ∈ rows, stored.id < found) ∧
      ∀ bound : Nat, next ≤ bound → (∀ stored ∈ rows, stored.id < bound) → found ≤ bound := by
  induction rows generalizing next with
  | nil => simp
  | cons first rest ih =>
    obtain ⟨grown, others, least⟩ := ih (max next (first.id + 1).toNat)
    simp only [List.foldl_cons, List.mem_cons, forall_eq_or_imp]
    refine ⟨by omega, ⟨by omega, others⟩, ?_⟩
    intro bound start inside
    exact least bound (by omega) inside.2

/-- No row has the next id or a later one. -/
theorem id_lt_nextId (member : stored ∈ table.rows) : stored.id < table.nextId :=
  (foldl_next table.rows (table.lastId + 1)).2.1 stored member

theorem lastId_lt_nextId (table : RowTable) : table.lastId < table.nextId :=
  (foldl_next table.rows (table.lastId + 1)).1

/-- The next id is the first one above all ids. -/
theorem nextId_le {bound : Nat} (last : table.lastId < bound)
    (ids : ∀ stored ∈ table.rows, stored.id < bound) : table.nextId ≤ bound :=
  (foldl_next table.rows (table.lastId + 1)).2.2 bound last ids

theorem mem_insert : stored ∈ (table.insert row).rows ↔
    stored ∈ table.rows ∨ stored = .ofRow table.nextId row := by
  simp [RowTable.insert]

theorem mem_erase : stored ∈ (table.erase externalId).rows ↔
    stored ∈ table.rows ∧ stored.externalId ≠ externalId := by
  simp [RowTable.erase]

theorem nextId_insert_le (table : RowTable) (row : Row) :
    (table.insert row).nextId ≤ table.nextId + 1 := by
  apply nextId_le
  · exact Nat.lt_succ_self _
  · intro stored member
    rcases mem_insert.mp member with old | rfl
    · have := id_lt_nextId old
      omega
    · simp only [StoredRow.ofRow]
      omega

theorem nextId_erase_le (table : RowTable) (externalId : String) :
    (table.erase externalId).nextId ≤ table.nextId :=
  nextId_le table.lastId_lt_nextId fun _ member => id_lt_nextId (mem_erase.mp member).1

theorem Keyed.insert (keyed : table.Keyed) (absent : table.find? row.externalId = none) :
    (table.insert row).Keyed := by
  have unnamed := List.find?_eq_none.mp absent
  simp only [beq_iff_eq] at unnamed
  refine ⟨?_, ?_⟩
  · have fresh : ∀ stored ∈ table.rows, stored.id ≠ table.nextId := by
      intro stored member
      have := id_lt_nextId member
      omega
    simpa [RowTable.insert, StoredRow.ofRow, List.nodup_append, keyed.ids] using fresh
  · simpa [RowTable.insert, StoredRow.ofRow, List.nodup_append, keyed.names] using unnamed

theorem find?_insert_same (absent : table.find? row.externalId = none) :
    (table.insert row).find? row.externalId = some (.ofRow table.nextId row) := by
  unfold find? at absent
  simp [find?, RowTable.insert, List.find?_append, absent, StoredRow.ofRow]

theorem find?_insert_of_ne (different : other ≠ row.externalId) :
    (table.insert row).find? other = table.find? other := by
  simp [find?, RowTable.insert, List.find?_append, StoredRow.ofRow, different.symm]

/-- What overwriting does to each row of the table. -/
theorem overwrite_rows (keyed : table.Keyed) (member : existing ∈ table.rows)
    (row : Row) : (table.overwrite existing row).rows = table.rows.map fun stored =>
      if stored = existing then existing.renewed row else stored := by
  apply List.map_congr_left
  intro stored there
  by_cases same : stored = existing
  · subst same
    simp [StoredRow.renewed]
  · have different : stored.id ≠ existing.id := fun one =>
      same (List.inj_on_of_nodup_map keyed.ids there member one)
    simp [same, different]

/-- A row of the table is either the one that was written or one from before. -/
theorem of_mem_overwrite (keyed : table.Keyed) (member : existing ∈ table.rows)
    (written : stored ∈ (table.overwrite existing row).rows) :
    stored = existing.renewed row ∨ stored ∈ table.rows := by
  rw [overwrite_rows keyed member] at written
  obtain ⟨old, inside, same⟩ := List.mem_map.mp written
  split at same
  · exact .inl same.symm
  · exact .inr (same ▸ inside)

theorem nextId_overwrite_le (keyed : table.Keyed) (member : existing ∈ table.rows) (row : Row) :
    (table.overwrite existing row).nextId ≤ table.nextId := by
  refine @nextId_le (table.overwrite existing row) _ table.lastId_lt_nextId ?_
  intro stored written
  rcases of_mem_overwrite keyed member written with rfl | inside
  · exact @id_lt_nextId _ existing member
  · exact id_lt_nextId inside

theorem Keyed.overwrite (keyed : table.Keyed) (member : existing ∈ table.rows)
    (named : row.externalId = existing.externalId) : (table.overwrite existing row).Keyed := by
  have rows := overwrite_rows keyed member row
  have ids : (table.overwrite existing row).rows.map (·.id) = table.rows.map (·.id) := by
    rw [rows, List.map_map]
    apply List.map_congr_left
    intro stored _
    by_cases same : stored = existing
    · simp [same, StoredRow.renewed, StoredRow.ofRow]
    · simp [same]
  have names : (table.overwrite existing row).rows.map (·.externalId) =
      table.rows.map (·.externalId) := by
    rw [rows, List.map_map]
    apply List.map_congr_left
    intro stored _
    by_cases same : stored = existing
    · simp [same, StoredRow.renewed, StoredRow.ofRow, named]
    · simp [same]
  exact ⟨ids ▸ keyed.ids, names ▸ keyed.names⟩

theorem find?_overwrite_same (keyed : table.Keyed) (member : existing ∈ table.rows)
    (named : row.externalId = existing.externalId) :
    (table.overwrite existing row).find? row.externalId = some (existing.renewed row) := by
  have there : existing.renewed row ∈ (table.overwrite existing row).rows := by
    rw [overwrite_rows keyed member row, List.mem_map]
    exact ⟨existing, member, by simp⟩
  exact (keyed.overwrite member named).find?_of_mem there

theorem find?_overwrite_of_ne (keyed : table.Keyed) (member : existing ∈ table.rows)
    (named : row.externalId = existing.externalId) (different : other ≠ row.externalId) :
    (table.overwrite existing row).find? other = table.find? other := by
  have unnamed : (row.externalId == other) = false := by simpa using different.symm
  unfold find?
  rw [overwrite_rows keyed member row]
  induction table.rows with
  | nil => rfl
  | cons first rest ih =>
    rw [List.map_cons, List.find?_cons, List.find?_cons, ih]
    by_cases same : first = existing
    · subst same
      simp [StoredRow.renewed, StoredRow.ofRow, unnamed, ← named]
    · simp [same]

theorem Keyed.erase (keyed : table.Keyed) (externalId : String) : (table.erase externalId).Keyed :=
  ⟨keyed.ids.sublist (List.filter_sublist.map _), keyed.names.sublist (List.filter_sublist.map _)⟩

theorem find?_erase_same : (table.erase externalId).find? externalId = none := by
  simp [find?, RowTable.erase]

theorem find?_erase_of_ne (different : other ≠ externalId) :
    (table.erase externalId).find? other = table.find? other := by
  unfold find? RowTable.erase
  rw [List.find?_filter]
  congr 1
  funext stored
  by_cases same : stored.externalId = other
  · simp [same, different]
  · simp [same]

end RowTable

end RecordSync.Store
