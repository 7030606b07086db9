import Mathlib.Data.Set.Card
import RecordSync.Proofs.Chronicle
import RecordSync.Proofs.Orderly

/-! The rows as a map from keys. What is written is read back whole, under its own
key only, and a write that is refused leaves everything as it was. -/

namespace RecordSync

open RecordSync.Calendar RecordSync.Record RecordSync.Store

structure Record.Row.Kept (row : Row) : Prop where
  content : row.content.Kept
  createdOn : row.createdOn.Kept
  modifiedOn : row.modifiedOn.Kept
  firstSyncedAt : row.firstSyncedAt.Kept
  lastSyncedAt : row.lastSyncedAt.Kept

/-- A row as it is read back under its id: each instant is that of its milliseconds. -/
def Record.Row.readBack (row : Row) (id : Int) : Row :=
  { row with
    id := some id
    createdOn := kept row.createdOn
    modifiedOn := kept row.modifiedOn
    firstSyncedAt := kept row.firstSyncedAt
    lastSyncedAt := kept row.lastSyncedAt }

namespace Store

/-- An operation that writes no row outside the calendar. -/
def Operation.Kept : Operation → Prop
  | .upsert _ row => row.Kept
  | _ => True

/-- The id of the row that an operation inserts for an entity, as it is read. -/
def insertedId? (store : Store) (entity : Entity) : Operation → Option Int
  | .upsert author row =>
    if row.entity = entity ∧ row.id = none then
      match store.upsert author row with
      | .ok after =>
        match after.read entity row.externalId with
        | .ok (some found) => found.id
        | _ => none
      | .error _ => none
    else none
  | _ => none

def insertedIds (entity : Entity) (store : Store) : List Operation → List Int
  | [] => []
  | operation :: rest =>
    (store.insertedId? entity operation).toList ++
      insertedIds entity (store.perform operation) rest

/-- Every row but one is read as before. -/
def SameBeside (store after : Store) (entity : Entity) (externalId : String) : Prop :=
  ∀ other name, (other, name) ≠ (entity, externalId) →
    after.read other name = store.read other name

/-- A store whose rows are a map from keys, without loss. -/
structure IsRowMap (store : Store) : Prop where
  reads : ∀ entity externalId, ∃ found, store.read entity externalId = .ok found
  inserts : ∀ author (row : Row) after, row.Kept → row.id = none →
    store.upsert author row = .ok after →
      store.read row.entity row.externalId = .ok none ∧
      (∃ id, after.read row.entity row.externalId = .ok (some (row.readBack id))) ∧
      store.SameBeside after row.entity row.externalId
  updates : ∀ author (row : Row) after id, row.Kept → row.id = some id →
    store.upsert author row = .ok after →
      ∃ old, store.read row.entity row.externalId = .ok (some old) ∧ old.id = some id ∧
        after.read row.entity row.externalId =
          .ok (some { row.readBack id with firstSyncedAt := old.firstSyncedAt }) ∧
        store.SameBeside after row.entity row.externalId
  deletes : ∀ author entity externalId,
    let (there, after) := store.delete author entity externalId
    (there = true ↔ ∃ row, store.read entity externalId = .ok (some row)) ∧
      after.read entity externalId = .ok none ∧ store.SameBeside after entity externalId
  refuses : ∀ author row fault, store.upsert author row = .error fault →
    store.perform (.upsert author row) = store
  counts : ∀ entity,
    store.count entity = {name | ∃ row, store.read entity name = .ok (some row)}.ncard

/-- A stored row that says what a kept row says is read as that row. -/
theorem StoredRow.read_ofRow {row : Row} (kept : row.Kept) (id : Int) :
    (StoredRow.ofRow id row).read = .ok (row.readBack id) := by
  simp only [StoredRow.read, StoredRow.ofRow, contentColumns_read kept.content,
    readInstant_cell kept.createdOn, readInstant_cell kept.modifiedOn,
    readInstant_cell kept.firstSyncedAt, readInstant_cell kept.lastSyncedAt, bind, Except.bind,
    pure, Except.pure]
  rfl

/-- An instant that is read from a cell is read from it in any column. -/
theorem readInstant_anywhere {place : Nat} {name : String} {cell : NumberCell} {instant : Instant}
    (read : readInstant place name cell = .ok instant) (other : Nat) (title : String) :
    readInstant other title cell = .ok instant := by
  unfold readInstant at read
  split at read
  · split at read
    · rename_i inside
      cases read
      simp only [readInstant, inside, and_self, ↓reduceIte]
    · cases read
  · cases read

/-- A stored row that is overwritten with a kept row is read as that row, but for
the instant of its creation. -/
theorem StoredRow.read_renewed {stored : StoredRow} {old row : Row} (kept : row.Kept)
    (read : stored.read = .ok old) : (stored.renewed row).read =
      .ok { row.readBack stored.id with firstSyncedAt := old.firstSyncedAt } := by
  simp only [StoredRow.read, bind_eq_ok_iff] at read
  obtain ⟨_, _, _, _, _, _, _, first, _, _, same⟩ := read
  cases same
  simp only [StoredRow.read, StoredRow.renewed, StoredRow.ofRow, contentColumns_read kept.content,
    readInstant_cell kept.createdOn, readInstant_cell kept.modifiedOn, readInstant_anywhere first,
    readInstant_cell kept.lastSyncedAt, bind, Except.bind, pure, Except.pure]
  rfl

/-- Rows that can all be read, each with its own ids. -/
structure Legible (store : Store) : Prop where
  keyed : store.Keyed
  rows : ∀ entity, ∀ stored ∈ (store.rows.get entity).rows, ∃ row, stored.read = .ok row

variable {store after : Store} {entity about : Entity} {externalId : String} {row : Row}
  {author : Author}

theorem empty_legible : empty.Legible := by
  refine ⟨empty_orderly.keyed, fun entity stored member => ?_⟩
  obtain ⟨row, _, _, read, _⟩ := ((empty_orderly entity).rows stored member).reads
  exact ⟨row, read⟩

/-- What is read depends on what is found under the key alone. -/
theorem read_congr (same : (after.rows.get entity).find? externalId =
    (store.rows.get entity).find? externalId) :
    after.read entity externalId = store.read entity externalId := by
  rw [Store.read, Store.read, same]

theorem read_of_find? {stored : StoredRow}
    (there : (store.rows.get entity).find? externalId = some stored)
    (read : stored.read = .ok row) : store.read entity externalId = .ok (some row) := by
  rw [Store.read, there]
  simp only [read]

theorem read_of_absent (absent : (store.rows.get entity).find? externalId = none) :
    store.read entity externalId = .ok none := by
  rw [Store.read, absent]

/-- A table that changes under one key leaves every other key as it was. -/
theorem sameBeside_withRows {table : RowTable} {note : Note}
    (others : ∀ name, name ≠ externalId →
      table.find? name = (store.rows.get entity).find? name) :
    store.SameBeside (store.withRows entity table author note) entity externalId := by
  intro other name different
  apply read_congr
  by_cases here : other = entity
  · subst here
    rw [withRows, PerEntity.get_set_same]
    exact others name fun same => different (by rw [same])
  · rw [withRows, PerEntity.get_set_of_ne _ _ here]

namespace Legible

/-- A legible store stays so if a table is given rows that can be read. -/
theorem withRows (legible : store.Legible) {table : RowTable} {note : Note}
    (keyed : table.Keyed) (rows : ∀ stored ∈ table.rows, ∃ row, stored.read = .ok row) :
    (store.withRows entity table author note).Legible := by
  have both (about : Entity) : ((store.withRows entity table author note).rows.get about).Keyed ∧
      ∀ stored ∈ ((store.withRows entity table author note).rows.get about).rows,
        ∃ row, stored.read = .ok row := by
    by_cases here : about = entity
    · subst here
      rw [Store.withRows, PerEntity.get_set_same]
      exact ⟨keyed, rows⟩
    · rw [Store.withRows, PerEntity.get_set_of_ne _ _ here]
      exact ⟨legible.keyed about, legible.rows about⟩
  exact ⟨fun about => (both about).1, fun about => (both about).2⟩

theorem reads (legible : store.Legible) (entity : Entity) (externalId : String) :
    (store.rows.get entity).find? externalId = none ∧ store.read entity externalId = .ok none ∨
      ∃ stored row, (store.rows.get entity).find? externalId = some stored ∧
        stored.read = .ok row ∧ store.read entity externalId = .ok (some row) := by
  cases there : (store.rows.get entity).find? externalId with
  | none => exact .inl ⟨rfl, read_of_absent there⟩
  | some stored =>
    obtain ⟨row, read⟩ := legible.rows entity stored (RowTable.mem_of_find? there).1
    exact .inr ⟨stored, row, rfl, read, read_of_find? there read⟩

/-- An inserted row is read back under the next id. -/
theorem insert (legible : store.Legible) (kept : row.Kept)
    (done : store.insert author row = .ok after) :
    after.Legible ∧ store.read row.entity row.externalId = .ok none ∧
      after.read row.entity row.externalId =
        .ok (some (row.readBack (store.rows.get row.entity).nextId)) ∧
      store.SameBeside after row.entity row.externalId := by
  obtain ⟨absent, _, rfl⟩ := insert_spec done
  refine ⟨legible.withRows ((legible.keyed _).insert absent) ?_, read_of_absent absent, ?_,
    sameBeside_withRows fun name different => RowTable.find?_insert_of_ne different⟩
  · intro stored member
    rcases RowTable.mem_insert.mp member with inside | rfl
    · exact legible.rows _ stored inside
    · exact ⟨_, StoredRow.read_ofRow kept _⟩
  · refine read_of_find? ?_ (StoredRow.read_ofRow kept _)
    rw [Store.withRows, PerEntity.get_set_same]
    exact RowTable.find?_insert_same absent

/-- An overwritten row is read back with the instant of its creation. -/
theorem overwrite (legible : store.Legible) {id : Int} (kept : row.Kept)
    (done : store.overwrite author id row = .ok after) :
    after.Legible ∧ ∃ old, store.read row.entity row.externalId = .ok (some old) ∧
      old.id = some id ∧ after.read row.entity row.externalId =
        .ok (some { row.readBack id with firstSyncedAt := old.firstSyncedAt }) ∧
      store.SameBeside after row.entity row.externalId := by
  obtain ⟨existing, exact, _, rfl⟩ := overwrite_spec done
  have keyed := legible.keyed row.entity
  obtain ⟨there, rfl⟩ := keyed.find?_of_findExact? exact
  obtain ⟨member, named⟩ := RowTable.mem_of_find? there
  obtain ⟨old, read⟩ := legible.rows _ existing member
  have readAfter := StoredRow.read_renewed kept read
  refine ⟨legible.withRows (keyed.overwrite member named.symm) ?_, old, read_of_find? there read,
    (StoredRow.read_spec read).1, ?_,
    sameBeside_withRows fun name different =>
      RowTable.find?_overwrite_of_ne keyed member named.symm different⟩
  · intro stored written
    rcases RowTable.of_mem_overwrite keyed member written with rfl | inside
    · exact ⟨_, readAfter⟩
    · exact legible.rows _ stored inside
  · refine read_of_find? ?_ readAfter
    rw [Store.withRows, PerEntity.get_set_same]
    exact RowTable.find?_overwrite_same keyed member named.symm

theorem delete (legible : store.Legible) (author : Author) (entity : Entity)
    (externalId : String) :
    let (there, after) := store.delete author entity externalId
    after.Legible ∧ (there = true ↔ ∃ row, store.read entity externalId = .ok (some row)) ∧
      after.read entity externalId = .ok none ∧ store.SameBeside after entity externalId := by
  unfold Store.delete
  rcases legible.reads entity externalId with ⟨absent, nothing⟩ | ⟨stored, row, there, _, found⟩
  · simp only [absent, nothing]
    exact ⟨legible, by simp, trivial, fun _ _ _ => rfl⟩
  · simp only [there, found]
    refine ⟨legible.withRows ((legible.keyed entity).erase externalId) ?_, by simp,
      read_of_absent ?_,
      sameBeside_withRows fun name different => RowTable.find?_erase_of_ne different⟩
    · intro stored member
      exact legible.rows entity stored (RowTable.mem_erase.mp member).1
    · rw [Store.withRows, PerEntity.get_set_same]
      exact RowTable.find?_erase_same

/-- The rows of a table are as many as the keys under which one is read. -/
theorem count_eq (legible : store.Legible) (entity : Entity) :
    store.count entity = {name | ∃ row, store.read entity name = .ok (some row)}.ncard := by
  have keyed := legible.keyed entity
  have present : {name | ∃ row, store.read entity name = .ok (some row)} =
      (((store.rows.get entity).rows.map (·.externalId)).toFinset : Set String) := by
    ext name
    simp only [Set.mem_ofPred_eq, List.coe_toFinset, List.mem_map]
    constructor
    · rintro ⟨row, found⟩
      obtain ⟨stored, there, _⟩ := read_spec found
      exact ⟨stored, RowTable.mem_of_find? there⟩
    · rintro ⟨stored, member, rfl⟩
      obtain ⟨row, read⟩ := legible.rows entity stored member
      exact ⟨row, read_of_find? (keyed.find?_of_mem member) read⟩
  rw [present, Set.ncard_coe_finset, List.toFinset_card_of_nodup keyed.names, List.length_map]
  rfl

theorem isRowMap (legible : store.Legible) : store.IsRowMap where
  reads entity externalId := by
    rcases legible.reads entity externalId with ⟨_, nothing⟩ | ⟨_, row, _, _, found⟩
    · exact ⟨none, nothing⟩
    · exact ⟨some row, found⟩
  inserts author row after kept new done := by
    rw [upsert, new] at done
    obtain ⟨_, absent, read, beside⟩ := legible.insert kept done
    exact ⟨absent, ⟨_, read⟩, beside⟩
  updates author row after id kept named done := by
    rw [upsert, named] at done
    exact (legible.overwrite kept done).2
  deletes author entity externalId := (legible.delete author entity externalId).2
  refuses author row fault refused := by
    rw [perform, refused]
    rfl
  counts := legible.count_eq

end Legible

/-- What an operation does to the rows: it writes one, deletes one or does nothing. -/
theorem perform_rows (store : Store) (operation : Operation) :
    (∃ author row, operation = .upsert author row) ∨
      (∃ author entity externalId, operation = .delete author entity externalId) ∨
      (store.perform operation).rows = store.rows ∧
        ∀ entity, store.insertedId? entity operation = none := by
  have orSame {result : Except SyncFault Store}
      (kept : ∀ after, result = .ok after → after.rows = store.rows) :
      (store.orSame result).rows = store.rows := by
    cases result with
    | error fault => rfl
    | ok after => exact kept after rfl
  cases operation with
  | upsert author row => exact .inl ⟨_, _, rfl⟩
  | delete author entity externalId => exact .inr (.inl ⟨_, _, _, rfl⟩)
  | recordFailure entity sequence externalId error now =>
    refine .inr (.inr ⟨orSame fun after done => ?_, fun _ => rfl⟩)
    obtain ⟨⟨_, _⟩, recorded, rfl⟩ := map_eq_ok_iff.mp done
    exact (recordFailure_onlyAttempts recorded).rows
  | surrender author record =>
    refine .inr (.inr ⟨orSame fun after done => ?_, fun _ => rfl⟩)
    obtain ⟨⟨_, _⟩, given, rfl⟩ := map_eq_ok_iff.mp done
    exact (surrender_spec given).1
  | clearAttempts entity position =>
    refine .inr (.inr ⟨orSame fun after cleared => ?_, fun _ => rfl⟩)
    exact (clearAttempts_onlyAttempts cleared).rows
  | resolve author id comment =>
    refine .inr (.inr ⟨?_, fun _ => rfl⟩)
    unfold perform Store.resolve
    dsimp only
    split
    · rename_i answer after answered
      split at answered
      · cases answered
      · split at answered <;> cases answered <;> rfl
    · rfl
  | advanceCursor entity expected next now =>
    refine .inr (.inr ⟨orSame fun after done => ?_, fun _ => rfl⟩)
    obtain ⟨_, _, rfl⟩ := advanceCursor_eq_ok done
    rfl
  | resetCursor author entity => exact .inr (.inr ⟨rfl, fun _ => rfl⟩)
  | unserved => exact .inr (.inr ⟨rfl, fun _ => rfl⟩)

theorem Legible.congr (legible : store.Legible) (same : after.rows = store.rows) :
    after.Legible :=
  ⟨fun entity => same ▸ legible.keyed entity, fun entity => same ▸ legible.rows entity⟩

/-- Whatever is asked of a store, its rows stay legible. -/
theorem Legible.perform (legible : store.Legible) {operation : Operation}
    (kept : operation.Kept) : (store.perform operation).Legible := by
  rcases store.perform_rows operation with
    ⟨author, row, rfl⟩ | ⟨author, entity, externalId, rfl⟩ | ⟨same, _⟩
  · rw [Store.perform]
    cases done : store.upsert author row with
    | error fault => exact legible
    | ok after =>
      unfold upsert at done
      split at done
      · exact (legible.insert kept done).1
      · exact (legible.overwrite kept done).1
  · exact (legible.delete author entity externalId).1
  · exact legible.congr same

theorem Legible.foldl (legible : store.Legible) {operations : List Operation}
    (kept : ∀ operation ∈ operations, operation.Kept) :
    (operations.foldl Store.perform store).Legible := by
  induction operations generalizing store with
  | nil => exact legible
  | cons operation rest ih =>
    exact ih (legible.perform (kept operation List.mem_cons_self))
      fun other member => kept other (List.mem_cons_of_mem _ member)

theorem lastId_le_set {entity about : Entity} {table : RowTable}
    (grown : about = entity → (store.rows.get entity).lastId ≤ table.lastId) :
    (store.rows.get entity).lastId ≤ ((store.rows.set about table).get entity).lastId := by
  by_cases here : entity = about
  · subst here
    rw [PerEntity.get_set_same]
    exact grown rfl
  · rw [PerEntity.get_set_of_ne _ _ here]

/-- The id of a row that is inserted is above all that were given, and is given then. -/
theorem upsert_lastId (entity : Entity) {author : Author} {row : Row}
    (done : store.upsert author row = .ok after) :
    (store.rows.get entity).lastId ≤ (after.rows.get entity).lastId ∧
      ∀ id ∈ store.insertedId? entity (.upsert author row),
        (store.rows.get entity).lastId < id ∧ id ≤ (after.rows.get entity).lastId := by
  rw [insertedId?, done]
  unfold upsert at done
  split at done
  · obtain ⟨absent, _, rfl⟩ := insert_spec done
    refine ⟨lastId_le_set fun here => ?_, ?_⟩
    · rw [here]
      exact Nat.le_of_lt (RowTable.lastId_lt_nextId _)
    · intro id given
      split at given
      · rename_i about
        obtain ⟨rfl, _⟩ := about
        dsimp only at given
        split at given
        · rename_i found read
          obtain ⟨stored, there, readable⟩ := read_spec read
          rw [withRows, PerEntity.get_set_same, RowTable.find?_insert_same absent] at there
          cases there
          rw [(StoredRow.read_spec readable).1] at given
          cases given
          rw [withRows, PerEntity.get_set_same]
          exact ⟨Int.ofNat_lt.mpr (RowTable.lastId_lt_nextId _), Int.le_refl _⟩
        · cases given
      · cases given
  · rename_i named
    obtain ⟨existing, _, _, rfl⟩ := overwrite_spec done
    refine ⟨lastId_le_set fun here => ?_, by simp [named]⟩
    rw [here]
    exact Nat.le_refl _

/-- What has been given of ids is never less afterwards, and the id of a row that
is inserted is a new one. -/
theorem perform_lastId (store : Store) (operation : Operation) (entity : Entity) :
    (store.rows.get entity).lastId ≤ ((store.perform operation).rows.get entity).lastId ∧
      ∀ id ∈ store.insertedId? entity operation, (store.rows.get entity).lastId < id ∧
        id ≤ ((store.perform operation).rows.get entity).lastId := by
  rcases store.perform_rows operation with
    ⟨author, row, rfl⟩ | ⟨author, about, externalId, rfl⟩ | ⟨same, silent⟩
  · cases done : store.upsert author row with
    | error fault =>
      rw [perform, insertedId?, done]
      exact ⟨Nat.le_refl _, by split <;> simp⟩
    | ok after =>
      rw [perform, done]
      exact upsert_lastId entity done
  · refine ⟨?_, by simp [insertedId?]⟩
    unfold perform Store.delete
    dsimp only
    split
    · exact Nat.le_refl _
    · refine lastId_le_set fun here => ?_
      rw [here]
      exact Nat.le_refl _
  · rw [same, silent]
    exact ⟨Nat.le_refl _, by simp⟩

/-- Ids of inserted rows grow, and are above all that were given before. -/
theorem insertedIds_pairwise (store : Store) (entity : Entity) (operations : List Operation) :
    (∀ id ∈ insertedIds entity store operations, (store.rows.get entity).lastId < id) ∧
      (insertedIds entity store operations).Pairwise (· < ·) := by
  induction operations generalizing store with
  | nil => exact ⟨nofun, .nil⟩
  | cons operation rest ih =>
    obtain ⟨grown, fresh⟩ := store.perform_lastId operation entity
    obtain ⟨later, ordered⟩ := ih (store.perform operation)
    rw [insertedIds]
    cases given : store.insertedId? entity operation with
    | none =>
      exact ⟨fun id member => Int.lt_of_le_of_lt (Int.ofNat_le.mpr grown) (later id member), ordered⟩
    | some id =>
      obtain ⟨above, within⟩ := fresh id given
      simp only [Option.toList_some, List.singleton_append, List.mem_cons, List.pairwise_cons,
        forall_eq_or_imp]
      refine ⟨⟨above, fun other member => ?_⟩, fun other member => ?_, ordered⟩
      · exact Int.lt_of_le_of_lt (Int.ofNat_le.mpr grown) (later other member)
      · exact Int.lt_of_le_of_lt within (later other member)

/-- Whatever was asked of a store that was empty at first, its rows are a map from
keys without loss, and the ids of the rows that were inserted only ever grew. -/
theorem rows_lossless_map (operations : List Operation)
    (kept : ∀ operation ∈ operations, operation.Kept) :
    (operations.foldl perform empty).IsRowMap ∧
      ∀ entity, (insertedIds entity empty operations).Pairwise (· < ·) :=
  ⟨(empty_legible.foldl kept).isRowMap, fun entity => (empty.insertedIds_pairwise entity _).2⟩

private def scribe : Author := ⟨"sync", .ofMillis 0⟩

/-- An induction that lasts from the first day of the calendar to its last one. -/
private def everlasting (id : Option Int) (firstSyncedAt : Instant) : Row where
  id := id
  externalId := "a"
  content := .induction ⟨"p", .pass, some .first, some .last⟩
  state := .active
  createdOn := ⟨-1, 999999999, by decide⟩
  modifiedOn := ⟨0, 1, by decide⟩
  firstSyncedAt := firstSyncedAt
  lastSyncedAt := ⟨1, 999999, by decide⟩
  fingerprint := "f"

private theorem everlasting_kept (id : Option Int) {firstSyncedAt : Instant}
    (kept : firstSyncedAt.Kept) : (everlasting id firstSyncedAt).Kept where
  content := by
    constructor <;> (rintro _ ⟨⟩; exact Date.kept_iff.mpr (by decide))
  createdOn := Instant.kept_iff.mpr (by simp only [everlasting]; decide)
  modifiedOn := Instant.kept_iff.mpr (by simp only [everlasting]; decide)
  firstSyncedAt := kept
  lastSyncedAt := Instant.kept_iff.mpr (by simp only [everlasting]; decide)

/-- A row that is made, deleted, made anew and then written again. Its dates have
years of six digits, the first one before the common era, and what the last write
says of its creation is not taken. -/
theorem rows_lossless_map_made_anew :
    let early : Instant := ⟨0, 1999999, by decide⟩
    let operations := [.upsert scribe (everlasting none early), .delete scribe .induction "a",
      .upsert scribe (everlasting none early), .upsert scribe (everlasting (some 2) default)]
    (∀ operation ∈ operations, Operation.Kept operation) ∧
      (operations.foldl perform empty).IsRowMap ∧
      insertedIds .induction empty operations = [1, 2] ∧
      (insertedIds .induction empty operations).Pairwise (· < ·) ∧
      (operations.foldl perform empty).read .induction "a" =
        .ok (some { (everlasting none default).readBack 2 with firstSyncedAt := .ofMillis 1 }) := by
  intro early operations
  have kept : ∀ operation ∈ operations, operation.Kept := by
    have row (id : Option Int) : (everlasting id early).Kept :=
      everlasting_kept id (Instant.kept_iff.mpr (by decide))
    have last : (everlasting (some 2) default).Kept :=
      everlasting_kept _ (Instant.kept_iff.mpr (by decide))
    simp only [operations, List.forall_mem_cons, Operation.Kept, row, last, List.not_mem_nil,
      false_implies, implies_true, and_self]
  obtain ⟨isRowMap, growing⟩ := rows_lossless_map operations kept
  exact ⟨kept, isRowMap, by decide +kernel, growing .induction, by decide +kernel⟩

end Store

end RecordSync
