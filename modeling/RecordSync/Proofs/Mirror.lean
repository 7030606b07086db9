import RecordSync.Proofs.Apply
import RecordSync.Proofs.Decoded
import RecordSync.Proofs.Tables

/-! What applying a change does to the rows, and what the rows mirror of the
changes that were applied. -/

namespace RecordSync

open RecordSync.Calendar RecordSync.Change RecordSync.Record RecordSync.Store

/-- All that applying a change can do to the rows. -/
inductive Store.Effect (store : Store) (now : Instant) :
    Change → Outcome → PerEntity RowTable → Prop where
  | created {snapshot : Snapshot} {mapped : Mapped} (found : snapshot.mapped = .ok mapped)
      (absent : (store.rows.get snapshot.entity).find? snapshot.externalId = none) :
      Effect store now (.upserted snapshot) .created
        (store.rows.set snapshot.entity
          ((store.rows.get snapshot.entity).insert (newRow snapshot.origin mapped now)))
  | updated {snapshot : Snapshot} {mapped : Mapped} (found : snapshot.mapped = .ok mapped)
      {existing : StoredRow} {current : Row}
      (there : (store.rows.get snapshot.entity).find? snapshot.externalId = some existing)
      (read : existing.read = .ok current) :
      Effect store now (.upserted snapshot)
        (.updated (decide (snapshot.origin.modifiedOn < current.modifiedOn))
          (differs (newRow snapshot.origin mapped now).fingerprint (some current.fingerprint)))
        (store.rows.set snapshot.entity ((store.rows.get snapshot.entity).overwrite existing
          (Row.overwritten current (newRow snapshot.origin mapped now))))
  | deleted {entity : Entity} {externalId : String} {existing : StoredRow}
      (there : (store.rows.get entity).find? externalId = some existing) :
      Effect store now (.removed entity externalId) .deleted
        (store.rows.set entity ((store.rows.get entity).erase externalId))
  | alreadyAbsent {entity : Entity} {externalId : String}
      (absent : (store.rows.get entity).find? externalId = none) :
      Effect store now (.removed entity externalId) .alreadyAbsent store.rows
  | rejected {snapshot : Snapshot} {fault : MappingFault}
      (refused : snapshot.mapped = .error fault) :
      Effect store now (.upserted snapshot) (.rejected fault) store.rows
  | invalid {entityName : String} {externalId : Option String} {fault : PayloadFault} :
      Effect store now (.invalid entityName externalId fault) (.invalid fault.message) store.rows

namespace Store

variable {store after : Store} {actor : String} {change : Change} {now : Instant}
  {outcome : Outcome} {entity : Entity} {externalId : String}

theorem read_spec {found : Option Row} (read : store.read entity externalId = .ok found) :
    match found with
    | none => (store.rows.get entity).find? externalId = none
    | some row => ∃ stored, (store.rows.get entity).find? externalId = some stored ∧
        stored.read = .ok row := by
  unfold Store.read at read
  split at read
  · rename_i absent
    cases read
    exact absent
  · rename_i stored there
    split at read
    · rename_i row readable
      cases read
      exact ⟨stored, there, readable⟩
    · cases read

/-- A row that is inserted has a new external id, and the log says so. -/
theorem insert_spec {author : Author} {row : Row}
    (done : store.insert author row = .ok after) :
    (store.rows.get row.entity).find? row.externalId = none ∧
      row.firstSyncedAt.millis ≤ row.lastSyncedAt.millis ∧
      after = store.withRows row.entity ((store.rows.get row.entity).insert row) author
        (rowNote row.entity row.externalId .created none (some row.fingerprint)) := by
  unfold Store.insert at done
  simp only at done
  split at done
  · cases done
  · split at done
    · cases done
    · rename_i ordered
      split at done
      · cases done
      · rename_i absent
        cases done
        exact ⟨by simpa using absent, Int.not_lt.mp ordered, rfl⟩

/-- A row that is overwritten is there with both ids, and the log says so. -/
theorem overwrite_spec {author : Author} {id : Int} {row : Row}
    (done : store.overwrite author id row = .ok after) :
    ∃ existing, (store.rows.get row.entity).findExact? id row.externalId = some existing ∧
      existing.firstSyncedAt.atMost (instantCell row.lastSyncedAt) = true ∧
      after = store.withRows row.entity ((store.rows.get row.entity).overwrite existing row) author
        (rowNote row.entity row.externalId .updated (some existing.fingerprint)
          (some row.fingerprint)) := by
  unfold Store.overwrite at done
  simp only at done
  split at done
  · cases done
  · rename_i existing there
    split at done
    · cases done
    · rename_i ordered
      cases done
      exact ⟨existing, there, by simpa using ordered, rfl⟩

/-- Each table has one row for an id, and one for an external id. -/
def Keyed (store : Store) : Prop := ∀ entity, (store.rows.get entity).Keyed

private theorem insert_effect {snapshot : Snapshot} {mapped : Mapped} {author : Author}
    (found : snapshot.mapped = .ok mapped)
    (absent : (store.rows.get snapshot.entity).find? snapshot.externalId = none)
    (done : store.insert author (newRow snapshot.origin mapped now) = .ok after) :
    store.Effect now (.upserted snapshot) .created after.rows := by
  obtain ⟨_, _, rfl⟩ := insert_spec done
  change store.Effect now _ _ (store.rows.set mapped.content.entity
    ((store.rows.get mapped.content.entity).insert _))
  rw [(snapshot.mapped_spec found).1]
  exact .created found absent

private theorem overwrite_effect {snapshot : Snapshot} {mapped : Mapped} {author : Author}
    {stored : StoredRow} {current : Row} (keyed : store.Keyed)
    (found : snapshot.mapped = .ok mapped)
    (there : (store.rows.get snapshot.entity).find? snapshot.externalId = some stored)
    (read : stored.read = .ok current)
    (done : store.overwrite author stored.id
      (Row.overwritten current (newRow snapshot.origin mapped now)) = .ok after) :
    store.Effect now (.upserted snapshot)
      (.updated (decide (snapshot.origin.modifiedOn < current.modifiedOn))
        (differs (newRow snapshot.origin mapped now).fingerprint (some current.fingerprint)))
      after.rows := by
  have about := (snapshot.mapped_spec found).1
  have known : current.externalId = snapshot.externalId :=
    (StoredRow.read_spec read).2.1.trans (RowTable.mem_of_find? there).2
  obtain ⟨existing, exact, _, rfl⟩ := overwrite_spec done
  change (store.rows.get mapped.content.entity).findExact? stored.id current.externalId = _ at exact
  change store.Effect now _ _ (store.rows.set mapped.content.entity
    ((store.rows.get mapped.content.entity).overwrite _ _))
  rw [about, known] at exact
  obtain ⟨same, _⟩ := (keyed snapshot.entity).find?_of_findExact? exact
  rw [there] at same
  cases same
  rw [about]
  exact .updated found there read

/-- Applying a change that the store accepts has one of the effects on its rows. -/
theorem apply_effect (keyed : store.Keyed)
    (applied : store.apply actor change now = .ok (outcome, after)) :
    store.Effect now change outcome after.rows := by
  unfold apply preview at applied
  cases change with
  | invalid entityName externalId fault =>
    cases applied
    exact .invalid
  | removed entity externalId =>
    simp only [Change.target?] at applied
    cases read : store.read entity externalId with
    | error fault =>
      rw [read] at applied
      cases applied
    | ok current =>
      rw [read] at applied
      have found := read_spec read
      cases current with
      | none =>
        cases applied
        exact .alreadyAbsent found
      | some row =>
        obtain ⟨stored, there, _⟩ := found
        simp only [Except.map, plan, carryOut, delete, there, ↓reduceIte] at applied
        cases applied
        exact .deleted there
  | upserted snapshot =>
    simp only [Change.target?] at applied
    cases read : store.read snapshot.entity snapshot.externalId with
    | error fault =>
      rw [read] at applied
      cases applied
    | ok current =>
      rw [read] at applied
      have found := read_spec read
      simp only [Except.map, plan, planSnapshot] at applied
      cases mapping : snapshot.mapped with
      | error fault =>
        rw [mapping] at applied
        cases applied
        exact .rejected mapping
      | ok mapped =>
        rw [mapping] at applied
        cases current with
        | none =>
          obtain ⟨written, done, same⟩ := map_eq_ok_iff.mp applied
          cases same
          exact insert_effect mapping found done
        | some row =>
          obtain ⟨stored, there, readable⟩ := found
          obtain ⟨written, done, same⟩ := map_eq_ok_iff.mp applied
          cases same
          have overwritten : store.overwrite ⟨actor, now⟩ stored.id
              (Row.overwritten row (newRow snapshot.origin mapped now)) = .ok after := by
            simpa [upsert, Row.overwritten, (StoredRow.read_spec readable).1] using done
          exact overwrite_effect keyed mapping there readable overwritten

theorem Effect.keyed {rows : PerEntity RowTable} (keyed : store.Keyed)
    (effect : store.Effect now change outcome rows) (entity : Entity) : (rows.get entity).Keyed := by
  have changed {other : Entity} {table : RowTable} (fresh : table.Keyed) :
      ((store.rows.set other table).get entity).Keyed := by
    by_cases same : entity = other
    · subst same
      simpa using fresh
    · rw [PerEntity.get_set_of_ne _ _ same]
      exact keyed entity
  cases effect with
  | created _ absent => exact changed ((keyed _).insert absent)
  | updated _ there read =>
    refine changed ((keyed _).overwrite (RowTable.mem_of_find? there).1 ?_)
    exact (StoredRow.read_spec read).2.1
  | deleted _ => exact changed ((keyed _).erase _)
  | alreadyAbsent _ => exact keyed entity
  | rejected _ => exact keyed entity
  | invalid => exact keyed entity

end Store

/-- A stored row has of the source what a snapshot says. -/
structure Store.StoredRow.Mirrors (stored : StoredRow) (snapshot : Snapshot) (mapped : Mapped) :
    Prop where
  content : stored.content.read = .ok mapped.content
  state : stored.state = mapped.state
  createdOn : stored.createdOn = .integer snapshot.origin.createdOn.millis
  modifiedOn : stored.modifiedOn = .integer snapshot.origin.modifiedOn.millis
  fingerprint : stored.fingerprint = Record.fingerprint mapped.content mapped.state
    snapshot.origin.createdOn snapshot.origin.modifiedOn

namespace Store

/-- The row with a key is as the last word on it says: there is none without a
snapshot, and it mirrors the snapshot otherwise. -/
def Mirrors (store : Store) (entity : Entity) (externalId : String) : Option Change → Prop
  | some (.upserted snapshot) => ∃ stored mapped,
      (store.rows.get entity).find? externalId = some stored ∧ snapshot.mapped = .ok mapped ∧
        stored.Mirrors snapshot mapped
  | _ => (store.rows.get entity).find? externalId = none

variable {store after : Store} {actor : String} {change : Change} {now : Instant}
  {outcome : Outcome} {rows : PerEntity RowTable} {entity about : Entity} {externalId : String}

theorem Mirrors.congr_find? {word : Option Change} (mirrors : store.Mirrors entity externalId word)
    (same : (after.rows.get entity).find? externalId =
      (store.rows.get entity).find? externalId) : after.Mirrors entity externalId word := by
  unfold Mirrors
  rw [same]
  exact mirrors

/-- A change leaves the rows of other entities alone. -/
theorem Effect.rows_other {other : Entity} (effect : store.Effect now change outcome rows)
    (within : change.Within entity) (different : other ≠ entity) :
    rows.get other = store.rows.get other := by
  cases effect with
  | created _ _ =>
    rw [within.1]
    exact PerEntity.get_set_of_ne _ _ different
  | updated _ _ _ =>
    rw [within.1]
    exact PerEntity.get_set_of_ne _ _ different
  | deleted _ =>
    cases within
    exact PerEntity.get_set_of_ne _ _ different
  | alreadyAbsent _ => rfl
  | rejected _ => rfl
  | invalid => rfl

/-- A change leaves the rows alone on which it does not decide. -/
theorem Effect.find?_of_not_decides (keyed : store.Keyed)
    (effect : store.Effect now change outcome rows)
    (silent : change.decides entity externalId = false) :
    (rows.get entity).find? externalId = (store.rows.get entity).find? externalId := by
  have changed {other : Entity} {table : RowTable}
      (same : entity = other → table.find? externalId = (store.rows.get other).find? externalId) :
      ((store.rows.set other table).get entity).find? externalId =
        (store.rows.get entity).find? externalId := by
    by_cases here : entity = other
    · subst here
      simpa using same rfl
    · rw [PerEntity.get_set_of_ne _ _ here]
  cases effect with
  | @created snapshot _ found absent =>
    apply changed
    rintro rfl
    apply RowTable.find?_insert_of_ne
    rintro rfl
    simp [Change.decides, found, newRow, Except.toOption, Snapshot.externalId] at silent
  | @updated snapshot _ found existing current there read =>
    have named : current.externalId = snapshot.externalId :=
      (StoredRow.read_spec read).2.1.trans (RowTable.mem_of_find? there).2
    apply changed
    rintro rfl
    apply @RowTable.find?_overwrite_of_ne _ _ _
      (Row.overwritten current (newRow snapshot.origin _ now)) (keyed _)
      (RowTable.mem_of_find? there).1 (StoredRow.read_spec read).2.1
    rintro rfl
    simp [Change.decides, found, Row.overwritten, Except.toOption, named] at silent
  | deleted there =>
    apply changed
    rintro rfl
    apply RowTable.find?_erase_of_ne
    rintro rfl
    simp [Change.decides] at silent
  | alreadyAbsent _ => rfl
  | rejected _ => rfl
  | invalid => rfl

/-- A change has its way with the row on which it decides. -/
theorem Effect.mirrors_of_decides (keyed : store.Keyed) (within : change.Within about)
    (effect : store.Effect now change outcome after.rows)
    (decides : change.decides entity externalId = true) :
    after.Mirrors entity externalId (some change) := by
  generalize after_eq : after.rows = rows at effect
  cases effect with
  | @created snapshot mapped found absent =>
    simp only [Change.decides, Bool.and_eq_true, beq_iff_eq] at decides
    obtain ⟨⟨rfl, rfl⟩, _⟩ := decides
    have kept := (snapshot.mapped_spec found).2 within.2.dated
    have there : (after.rows.get snapshot.entity).find? snapshot.externalId =
        some (.ofRow (store.rows.get snapshot.entity).nextId (newRow snapshot.origin mapped now)) := by
      rw [after_eq, PerEntity.get_set_same]
      exact @RowTable.find?_insert_same _ (newRow snapshot.origin mapped now) absent
    exact ⟨_, mapped, there, found, contentColumns_read kept, rfl, rfl, rfl, rfl⟩
  | @updated snapshot mapped found existing current there read =>
    simp only [Change.decides, Bool.and_eq_true, beq_iff_eq] at decides
    obtain ⟨⟨rfl, rfl⟩, _⟩ := decides
    have kept := (snapshot.mapped_spec found).2 within.2.dated
    have named : current.externalId = snapshot.externalId :=
      (StoredRow.read_spec read).2.1.trans (RowTable.mem_of_find? there).2
    have there : (after.rows.get snapshot.entity).find? snapshot.externalId =
        some (existing.renewed (Row.overwritten current (newRow snapshot.origin mapped now))) := by
      rw [after_eq, PerEntity.get_set_same, ← named]
      exact @RowTable.find?_overwrite_same _ _
        (Row.overwritten current (newRow snapshot.origin mapped now)) (keyed _)
        (RowTable.mem_of_find? there).1 (StoredRow.read_spec read).2.1
    exact ⟨_, mapped, there, found, contentColumns_read kept, rfl, rfl, rfl, rfl⟩
  | deleted there =>
    simp only [Change.decides, Bool.and_eq_true, beq_iff_eq] at decides
    obtain ⟨rfl, rfl⟩ := decides
    show (after.rows.get _).find? _ = none
    rw [after_eq, PerEntity.get_set_same]
    exact RowTable.find?_erase_same
  | alreadyAbsent absent =>
    simp only [Change.decides, Bool.and_eq_true, beq_iff_eq] at decides
    obtain ⟨rfl, rfl⟩ := decides
    show (after.rows.get _).find? _ = none
    rw [after_eq]
    exact absent
  | rejected refused => simp [Change.decides, refused, Except.toOption] at decides
  | invalid => simp [Change.decides] at decides

end Store

end RecordSync
