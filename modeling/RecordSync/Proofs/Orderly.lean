import RecordSync.Proofs.Mirror

/-! Stores that applying records leads to. Each row in them can be read and
overwritten, so nothing but a table without ids left refuses a change. -/

namespace RecordSync

open RecordSync.Calendar RecordSync.Change RecordSync.Record RecordSync.Store

namespace Calendar.Instant

theorem millis_ofMillis (millis : Int) : (Instant.ofMillis millis).millis = millis := by
  simp only [ofMillis, Instant.millis]
  omega

/-- The later of an instant and a stored one does not count fewer milliseconds
than the stored one: that is no leap second. -/
theorem millis_le_latest (instant : Instant) (millis : Int) :
    millis ≤ (Instant.latest instant (.ofMillis millis)).millis := by
  unfold latest
  split
  · exact Int.le_of_eq (millis_ofMillis millis).symm
  · rename_i notBefore
    have order : ¬ (instant.before (.ofMillis millis) = true) := notBefore
    simp only [before, Bool.or_eq_true, Bool.and_eq_true, decide_eq_true_eq, beq_iff_eq, not_or,
      not_and] at order
    have second : (Instant.ofMillis millis).second = millis / 1000 := rfl
    have nano : (Instant.ofMillis millis).nano = (millis % 1000).toNat * 1000000 := rfl
    simp only [Instant.millis]
    omega

theorem Kept.latest {instant : Instant} {millis : Int} (kept : instant.Kept)
    (within : (Instant.ofMillis millis).Kept) :
    (Instant.latest instant (.ofMillis millis)).Kept := by
  unfold Instant.latest
  split
  · exact within
  · exact kept

end Calendar.Instant

namespace Store

/-- A stored row that can be read, and that was not written last before it was
written first. -/
structure StoredRow.Orderly (stored : StoredRow) : Prop where
  content : ∃ content, stored.content.read = .ok content
  createdOn : ∃ instant : Instant, instant.Kept ∧ stored.createdOn = instantCell instant
  modifiedOn : ∃ instant : Instant, instant.Kept ∧ stored.modifiedOn = instantCell instant
  synced : ∃ first last : Instant, first.Kept ∧ last.Kept ∧ first.millis ≤ last.millis ∧
    stored.firstSyncedAt = instantCell first ∧ stored.lastSyncedAt = instantCell last

/-- An orderly row is read; what it was written at last is read to the millisecond. -/
theorem StoredRow.Orderly.reads {stored : StoredRow} (orderly : stored.Orderly) :
    ∃ (row : Row) (first last : Instant), stored.read = .ok row ∧ first.Kept ∧ last.Kept ∧
      first.millis ≤ last.millis ∧ stored.firstSyncedAt = instantCell first ∧
      row.lastSyncedAt = .ofMillis last.millis := by
  obtain ⟨content, contentRead⟩ := orderly.content
  obtain ⟨created, createdKept, createdOn⟩ := orderly.createdOn
  obtain ⟨modified, modifiedKept, modifiedOn⟩ := orderly.modifiedOn
  obtain ⟨first, last, firstKept, lastKept, ordered, firstSyncedAt, lastSyncedAt⟩ := orderly.synced
  have read : stored.read = .ok {
      id := some stored.id
      externalId := stored.externalId
      content
      state := stored.state
      createdOn := .ofMillis created.millis
      modifiedOn := .ofMillis modified.millis
      firstSyncedAt := .ofMillis first.millis
      lastSyncedAt := .ofMillis last.millis
      fingerprint := stored.fingerprint } := by
    simp only [StoredRow.read, contentRead, createdOn, modifiedOn, firstSyncedAt, lastSyncedAt,
      readInstant_cell createdKept, readInstant_cell modifiedKept, readInstant_cell firstKept,
      readInstant_cell lastKept, bind, Except.bind, pure, Except.pure]
  exact ⟨_, first, last, read, firstKept, lastKept, ordered, firstSyncedAt, rfl⟩

/-- A row is written for a snapshot at an instant that the calendar keeps. -/
theorem StoredRow.orderly_ofRow {snapshot : Snapshot} {mapped : Mapped} {now : Instant}
    (kept : snapshot.Kept) (found : snapshot.mapped = .ok mapped) (present : now.Kept) (id : Int) :
    (StoredRow.ofRow id (newRow snapshot.origin mapped now)).Orderly :=
  ⟨⟨_, contentColumns_read ((snapshot.mapped_spec found).2 kept.dated)⟩, ⟨_, kept.createdOn, rfl⟩,
    ⟨_, kept.modifiedOn, rfl⟩, now, now, present, present, Int.le_refl _, rfl, rfl⟩

/-- A row that is overwritten stays orderly. -/
theorem StoredRow.Orderly.renewed {stored : StoredRow} {current : Row} {snapshot : Snapshot}
    {mapped : Mapped} {now : Instant} (orderly : stored.Orderly) (read : stored.read = .ok current)
    (kept : snapshot.Kept) (found : snapshot.mapped = .ok mapped) (present : now.Kept) :
    (stored.renewed (Row.overwritten current (newRow snapshot.origin mapped now))).Orderly := by
  obtain ⟨row, first, last, same, firstKept, lastKept, ordered, firstSyncedAt, lastSyncedAt⟩ :=
    orderly.reads
  rw [read] at same
  cases same
  have readKept : (Instant.ofMillis last.millis).Kept := by
    rw [Instant.Kept, Instant.millis_ofMillis]
    exact lastKept
  refine ⟨⟨_, contentColumns_read ((snapshot.mapped_spec found).2 kept.dated)⟩,
    ⟨_, kept.createdOn, rfl⟩, ⟨_, kept.modifiedOn, rfl⟩, first,
    Instant.latest now (.ofMillis last.millis), firstKept, present.latest readKept, ?_,
    firstSyncedAt, ?_⟩
  · exact Int.le_trans ordered (Instant.millis_le_latest now last.millis)
  · rw [← lastSyncedAt]
    rfl

/-- A table whose rows are all orderly, each with its own ids. -/
structure RowTable.Orderly (table : RowTable) : Prop where
  keyed : table.Keyed
  rows : ∀ stored ∈ table.rows, stored.Orderly

def Orderly (store : Store) : Prop := ∀ entity, (store.rows.get entity).Orderly

variable {store after : Store} {actor : String} {change : Change} {now : Instant}
  {outcome : Outcome} {rows : PerEntity RowTable} {entity about : Entity} {externalId : String}

theorem Orderly.keyed (orderly : store.Orderly) : store.Keyed := fun entity =>
  (orderly entity).keyed

theorem Orderly.congr (orderly : store.Orderly) (same : after.rows = store.rows) :
    after.Orderly := by
  intro entity
  rw [same]
  exact orderly entity

theorem empty_orderly : empty.Orderly := by
  intro entity
  rw [show empty.rows = .both .empty from rfl, PerEntity.get_both]
  refine ⟨RowTable.empty_keyed, ?_⟩
  intro stored impossible
  cases impossible

/-- What is read under a key is the row there, with its fingerprint. -/
theorem Orderly.reads (orderly : store.Orderly) (entity : Entity) (externalId : String) :
    ∃ found, store.read entity externalId = .ok found ∧ found.map (·.fingerprint) =
      ((store.rows.get entity).find? externalId).map (·.fingerprint) := by
  unfold Store.read
  cases there : (store.rows.get entity).find? externalId with
  | none => exact ⟨none, rfl, rfl⟩
  | some stored =>
    obtain ⟨row, _, _, read, _⟩ :=
      ((orderly entity).rows stored (RowTable.mem_of_find? there).1).reads
    refine ⟨some row, ?_, ?_⟩
    · simp only [read]
    · simp [(StoredRow.read_spec read).2.2]

/-- Applying a change keeps all rows orderly. -/
theorem Effect.orderly (orderly : store.Orderly) (present : now.Kept)
    (within : change.Within about) (effect : store.Effect now change outcome after.rows) :
    after.Orderly := by
  have keyed := effect.keyed orderly.keyed
  intro entity
  refine ⟨keyed entity, ?_⟩
  generalize after.rows = rows at effect
  have changed {other : Entity} {table : RowTable}
      (inside : ∀ stored ∈ table.rows, stored.Orderly) :
      ∀ stored ∈ ((store.rows.set other table).get entity).rows, stored.Orderly := by
    by_cases same : entity = other
    · subst same
      simpa using inside
    · rw [PerEntity.get_set_of_ne _ _ same]
      exact (orderly entity).rows
  cases effect with
  | created found absent =>
    apply changed
    intro stored member
    rcases RowTable.mem_insert.mp member with old | rfl
    · exact (orderly _).rows stored old
    · exact StoredRow.orderly_ofRow within.2 found present _
  | @updated snapshot mapped found existing current there read =>
    apply changed
    intro stored member
    have inTable := (RowTable.mem_of_find? there).1
    rcases RowTable.of_mem_overwrite (orderly _).keyed inTable member with rfl | old
    · exact ((orderly _).rows existing inTable).renewed read within.2 found present
    · exact (orderly _).rows stored old
  | deleted there =>
    apply changed
    intro stored member
    exact (orderly _).rows stored (RowTable.mem_erase.mp member).1
  | alreadyAbsent _ => exact (orderly entity).rows
  | rejected _ => exact (orderly entity).rows
  | invalid => exact (orderly entity).rows

/-- A change uses up one id at most. -/
theorem Effect.nextId_le (keyed : store.Keyed) (effect : store.Effect now change outcome rows)
    (entity : Entity) : (rows.get entity).nextId ≤ (store.rows.get entity).nextId + 1 := by
  have changed {other : Entity} {table : RowTable}
      (bound : table.nextId ≤ (store.rows.get other).nextId + 1) :
      ((store.rows.set other table).get entity).nextId ≤ (store.rows.get entity).nextId + 1 := by
    by_cases same : entity = other
    · subst same
      simpa using bound
    · rw [PerEntity.get_set_of_ne _ _ same]
      exact Nat.le_succ _
  cases effect with
  | created _ _ => exact changed (RowTable.nextId_insert_le _ _)
  | updated _ there _ =>
    exact changed (Nat.le_succ_of_le
      (RowTable.nextId_overwrite_le (keyed _) (RowTable.mem_of_find? there).1 _))
  | deleted _ => exact changed (Nat.le_succ_of_le (RowTable.nextId_erase_le _ _))
  | alreadyAbsent _ => exact Nat.le_succ _
  | rejected _ => exact Nat.le_succ _
  | invalid => exact Nat.le_succ _

/-- The stores that applying decoded records leads to, whatever happens beside
their rows. -/
inductive Reached : Store → Prop where
  | empty : Reached .empty
  | applied {store after : Store} {actor : String} {delivery : Delivery} {now : Instant}
      {outcome : Outcome} (reached : Reached store) (present : now.Kept)
      (applied : store.apply actor (decode delivery) now = .ok (outcome, after)) : Reached after
  | beside {store after : Store} (reached : Reached store) (same : after.rows = store.rows) :
      Reached after

theorem Reached.orderly (reached : store.Reached) : store.Orderly := by
  induction reached with
  | empty => exact empty_orderly
  | @applied store after actor delivery now outcome _ present applied orderly =>
    obtain ⟨about, within, _⟩ := decode_within delivery
    exact (apply_effect orderly.keyed applied).orderly orderly present within
  | beside _ same orderly => exact orderly.congr same

private theorem apply_of_read {found : Option Row}
    (target : change.target? = some (entity, externalId))
    (read : store.read entity externalId = .ok found) :
    store.apply actor change now = store.carryOut ⟨actor, now⟩ (plan change found now) := by
  simp only [apply, preview, target, read, Except.map]

/-- A table that is not full takes a row that it does not have. -/
theorem insert_ok {author : Author} {row : Row}
    (room : (store.rows.get row.entity).isFull = false)
    (ordered : row.firstSyncedAt.millis ≤ row.lastSyncedAt.millis)
    (absent : (store.rows.get row.entity).find? row.externalId = none) :
    ∃ after, store.insert author row = .ok after := by
  have notBefore : ¬ row.lastSyncedAt.millis < row.firstSyncedAt.millis := by omega
  exact ⟨_, by simp only [Store.insert, room, absent, notBefore, Bool.false_eq_true, ↓reduceIte,
    Option.isSome_none]; rfl⟩

/-- A row that is there is overwritten by a later version. -/
theorem overwrite_ok {author : Author} {row : Row} {existing : StoredRow}
    (keyed : (store.rows.get row.entity).Keyed)
    (there : (store.rows.get row.entity).find? row.externalId = some existing)
    (ordered : existing.firstSyncedAt.atMost (instantCell row.lastSyncedAt) = true) :
    ∃ after, store.overwrite author existing.id row = .ok after :=
  ⟨_, by simp only [Store.overwrite, keyed.findExact?_of_find? there, ordered, Bool.not_true,
    Bool.false_eq_true, ↓reduceIte]; rfl⟩

/-- There is an id left for the row that a change makes, if it makes one. -/
def HasRoom (store : Store) (change : Change) : Prop :=
  ∀ snapshot, change = .upserted snapshot →
    (store.rows.get snapshot.entity).find? snapshot.externalId = none →
    (store.rows.get snapshot.entity).isFull = false

/-- An orderly store takes any change for whose row there is an id left. -/
theorem Orderly.takes (orderly : store.Orderly) (actor : String) (now : Instant)
    (room : store.HasRoom change) :
    ∃ outcome after, store.apply actor change now = .ok (outcome, after) := by
  cases change with
  | invalid entityName externalId fault => exact ⟨_, _, rfl⟩
  | removed entity externalId =>
    obtain ⟨found, read, _⟩ := orderly.reads entity externalId
    rw [apply_of_read rfl read]
    cases found with
    | none => exact ⟨_, _, rfl⟩
    | some row => exact ⟨_, _, rfl⟩
  | upserted snapshot =>
    obtain ⟨found, read, _⟩ := orderly.reads snapshot.entity snapshot.externalId
    rw [apply_of_read rfl read]
    have there := read_spec read
    simp only [plan, planSnapshot]
    cases mapping : snapshot.mapped with
    | error fault => exact ⟨_, _, rfl⟩
    | ok mapped =>
      have entity_eq : (newRow snapshot.origin mapped now).entity = snapshot.entity :=
        (snapshot.mapped_spec mapping).1
      cases found with
      | none =>
        obtain ⟨after, done⟩ := @insert_ok store ⟨actor, now⟩ (newRow snapshot.origin mapped now)
          (by rw [entity_eq]; exact room snapshot rfl there) (Int.le_refl _)
          (by rw [entity_eq]; exact there)
        have written : store.upsert ⟨actor, now⟩ (newRow snapshot.origin mapped now) = .ok after :=
          done
        exact ⟨_, after, by simp only [carryOut, written]; rfl⟩
      | some row =>
        obtain ⟨stored, inTable, readable⟩ := there
        obtain ⟨id, named, _⟩ := StoredRow.read_spec readable
        obtain ⟨member, keyed⟩ := RowTable.mem_of_find? inTable
        obtain ⟨same, first, last, reads, _, _, ordered, firstSyncedAt, lastSyncedAt⟩ :=
          ((orderly snapshot.entity).rows stored member).reads
        rw [readable] at reads
        cases reads
        have later : stored.firstSyncedAt.atMost
            (instantCell (Instant.latest now row.lastSyncedAt)) = true := by
          rw [firstSyncedAt, lastSyncedAt]
          simpa [instantCell, NumberCell.atMost, NumberCell.ratio?] using
            Int.le_trans ordered (Instant.millis_le_latest now last.millis)
        have about_eq : (Row.overwritten row (newRow snapshot.origin mapped now)).entity =
            snapshot.entity := entity_eq
        have named_eq : (Row.overwritten row (newRow snapshot.origin mapped now)).externalId =
            snapshot.externalId := named.trans keyed
        obtain ⟨after, done⟩ := @overwrite_ok store ⟨actor, now⟩
          (Row.overwritten row (newRow snapshot.origin mapped now)) stored
          (by rw [about_eq]; exact (orderly _).keyed) (by rw [about_eq, named_eq]; exact inTable)
          later
        have written : store.upsert ⟨actor, now⟩
            (Row.overwritten row (newRow snapshot.origin mapped now)) = .ok after := by
          simp only [upsert, Row.overwritten, id]
          exact done
        exact ⟨_, after, by simp only [carryOut, written]; rfl⟩

/-- An orderly store takes any change if there is an id left for a new row. -/
theorem Orderly.applies (orderly : store.Orderly) (actor : String) (now : Instant)
    (within : change.Within about) (room : (store.rows.get about).isFull = false) :
    ∃ outcome after, store.apply actor change now = .ok (outcome, after) := by
  apply orderly.takes
  rintro snapshot rfl _
  rw [within.1]
  exact room

end Store

end RecordSync
