import RecordSync.Proofs.Lifetime

/-! A change that is applied twice in a row. The second time finds the row as the
first one left it, and moves nothing but the time at which it was written last. -/

namespace RecordSync

open RecordSync.Calendar RecordSync.Change RecordSync.Record RecordSync.Store

/-- How a change ends that is applied again, by how it ended before. -/
def Change.Outcome.Repeats (again : Outcome) : Outcome → Prop
  | .created | .updated .. => ∃ stale, again = .updated stale false
  | .deleted | .alreadyAbsent => again = .alreadyAbsent
  | .invalid reason => again = .invalid reason
  | .rejected fault => again = .rejected fault

namespace Store

/-- The same row, written last no earlier than before. -/
structure StoredRow.Resynced (old stored : StoredRow) : Prop where
  same : stored = { old with lastSyncedAt := stored.lastSyncedAt }
  later : old.lastSyncedAt.atMost stored.lastSyncedAt = true

theorem StoredRow.Orderly.resynced {stored : StoredRow} (orderly : stored.Orderly) :
    stored.Resynced stored :=
  ⟨rfl, orderly.atMost.2⟩

/-- A stored row is what is written for another one, whenever that was. -/
def StoredRow.Restates (stored : StoredRow) (fresh : Row) : Prop :=
  stored = { StoredRow.ofRow stored.id fresh with
    firstSyncedAt := stored.firstSyncedAt
    lastSyncedAt := stored.lastSyncedAt }

variable {store once twice : Store} {change : Change} {first second : Instant}
  {outcome again : Outcome} {snapshot : Snapshot} {mapped : Mapped} {stored : StoredRow}
  {rows : PerEntity RowTable} {entity : Entity} {externalId : String}

/-- A row written for a snapshot and overwritten for the same one stays as it is,
but for the time at which it was written last. -/
theorem StoredRow.Restates.renewed {row : Row}
    (restates : stored.Restates (newRow snapshot.origin mapped first))
    (read : stored.read = .ok row) :
    stored.Resynced
      (stored.renewed (Row.overwritten row (newRow snapshot.origin mapped second))) := by
  obtain ⟨millis, last, readLast⟩ := StoredRow.read_lastSyncedAt read
  have named : stored.externalId = snapshot.origin.externalId :=
    congrArg StoredRow.externalId restates
  constructor
  · rw [restates]
    simp [StoredRow.renewed, StoredRow.ofRow, Row.overwritten, newRow,
      (StoredRow.read_spec read).2.1, named]
  · have later : stored.lastSyncedAt.atMost
        (instantCell (Instant.latest second row.lastSyncedAt)) = true := by
      rw [last, readLast]
      simpa [instantCell, NumberCell.atMost, NumberCell.ratio?] using
        Instant.millis_le_latest second millis
    exact later

/-- A snapshot that becomes a row leaves it in the store. -/
theorem Effect.restates (keyed : store.Keyed) (found : snapshot.mapped = .ok mapped)
    (effect : store.Effect first (.upserted snapshot) outcome once.rows) :
    (outcome = .created ∨ ∃ stale changed, outcome = .updated stale changed) ∧
      ∃ stored, (once.rows.get snapshot.entity).find? snapshot.externalId = some stored ∧
        stored.Restates (newRow snapshot.origin mapped first) := by
  generalize once_eq : once.rows = rows at effect
  cases effect with
  | @created snapshot other same absent =>
    cases found.symm.trans same
    refine ⟨.inl rfl, .ofRow (store.rows.get snapshot.entity).nextId
      (newRow snapshot.origin mapped first), ?_, rfl⟩
    rw [PerEntity.get_set_same]
    exact @RowTable.find?_insert_same _ (newRow snapshot.origin mapped first) absent
  | @updated snapshot other same existing current there read =>
    cases found.symm.trans same
    have named : current.externalId = snapshot.externalId :=
      (StoredRow.read_spec read).2.1.trans (RowTable.mem_of_find? there).2
    refine ⟨.inr ⟨_, _, rfl⟩, existing.renewed (Row.overwritten current
      (newRow snapshot.origin mapped first)), ?_, ?_⟩
    · rw [PerEntity.get_set_same, ← named]
      exact @RowTable.find?_overwrite_same _ _
        (Row.overwritten current (newRow snapshot.origin mapped first)) (keyed _)
        (RowTable.mem_of_find? there).1 (StoredRow.read_spec read).2.1
    · simp only [StoredRow.Restates, StoredRow.renewed, StoredRow.ofRow, Row.overwritten, newRow,
        named]
      rfl
  | rejected refused => cases found.symm.trans refused

/-- A snapshot that became the row in the store changes nothing of it but the time
at which it was written last. -/
theorem Effect.resyncs (keyed : once.Keyed) (found : snapshot.mapped = .ok mapped)
    (there : (once.rows.get snapshot.entity).find? snapshot.externalId = some stored)
    (restates : stored.Restates (newRow snapshot.origin mapped first))
    (effect : once.Effect second (.upserted snapshot) again twice.rows) :
    (∃ stale, again = .updated stale false) ∧
      ∃ written, (twice.rows.get snapshot.entity).find? snapshot.externalId = some written ∧
        stored.Resynced written := by
  generalize twice_eq : twice.rows = rows at effect
  cases effect with
  | created _ absent => cases there.symm.trans absent
  | @updated snapshot other same existing current inTable read =>
    cases found.symm.trans same
    cases there.symm.trans inTable
    obtain ⟨_, named, fingerprinted⟩ := StoredRow.read_spec read
    have known : current.externalId = snapshot.externalId :=
      named.trans (RowTable.mem_of_find? there).2
    have print : current.fingerprint = (newRow snapshot.origin mapped second).fingerprint :=
      fingerprinted.trans (congrArg StoredRow.fingerprint restates)
    have same : differs (newRow snapshot.origin mapped second).fingerprint
        (some current.fingerprint) = false := by
      simp [differs, print]
    refine ⟨⟨decide (snapshot.origin.modifiedOn < current.modifiedOn), by rw [same]⟩,
      stored.renewed (Row.overwritten current (newRow snapshot.origin mapped second)), ?_,
      restates.renewed read⟩
    rw [PerEntity.get_set_same, ← known]
    exact @RowTable.find?_overwrite_same _ _
      (Row.overwritten current (newRow snapshot.origin mapped second)) (keyed _)
      (RowTable.mem_of_find? there).1 named
  | rejected refused => cases found.symm.trans refused

theorem Effect.of_refused {fault : MappingFault} (refused : snapshot.mapped = .error fault)
    (effect : store.Effect first (.upserted snapshot) outcome rows) :
    outcome = .rejected fault ∧ rows = store.rows := by
  cases effect with
  | created found _ => cases refused.symm.trans found
  | updated found _ _ => cases refused.symm.trans found
  | rejected same =>
    cases refused.symm.trans same
    exact ⟨rfl, rfl⟩

theorem Effect.of_invalid {entityName : String} {externalId : Option String} {fault : PayloadFault}
    (effect : store.Effect first (.invalid entityName externalId fault) outcome rows) :
    outcome = .invalid fault.message ∧ rows = store.rows := by
  cases effect
  exact ⟨rfl, rfl⟩

theorem Effect.of_removed (effect : store.Effect first (.removed entity externalId) outcome rows) :
    (outcome = .deleted ∨ outcome = .alreadyAbsent) ∧
      (rows.get entity).find? externalId = none := by
  cases effect with
  | deleted _ =>
    refine ⟨.inl rfl, ?_⟩
    rw [PerEntity.get_set_same]
    exact RowTable.find?_erase_same
  | alreadyAbsent absent => exact ⟨.inr rfl, absent⟩

theorem Effect.of_absent (absent : (store.rows.get entity).find? externalId = none)
    (effect : store.Effect first (.removed entity externalId) outcome rows) :
    outcome = .alreadyAbsent ∧ rows = store.rows := by
  cases effect with
  | deleted there => cases absent.symm.trans there
  | alreadyAbsent _ => exact ⟨rfl, rfl⟩

/-- Each row of an orderly store is as before where the store finds it again. -/
theorem Orderly.resynced (orderly : once.Orderly)
    (same : (twice.rows.get entity).find? externalId = (once.rows.get entity).find? externalId) :
    Option.Rel StoredRow.Resynced ((once.rows.get entity).find? externalId)
      ((twice.rows.get entity).find? externalId) := by
  rw [same]
  cases there : (once.rows.get entity).find? externalId with
  | none => exact .none
  | some stored =>
    exact .some ((orderly entity).rows stored (RowTable.mem_of_find? there).1).resynced

/-- The second of two applications of a change repeats the first one. -/
theorem Effect.repeats (keyed : store.Keyed) (orderly : once.Orderly)
    (effect : store.Effect first change outcome once.rows)
    (repetition : once.Effect second change again twice.rows) :
    again.Repeats outcome ∧ ∀ entity externalId,
      Option.Rel StoredRow.Resynced ((once.rows.get entity).find? externalId)
        ((twice.rows.get entity).find? externalId) := by
  have unmoved (same : twice.rows = once.rows) (entity : Entity) (externalId : String) :
      Option.Rel StoredRow.Resynced ((once.rows.get entity).find? externalId)
        ((twice.rows.get entity).find? externalId) :=
    orderly.resynced (by rw [same])
  cases change with
  | upserted snapshot =>
    cases mapping : snapshot.mapped with
    | error fault =>
      obtain ⟨rfl, _⟩ := effect.of_refused mapping
      obtain ⟨rfl, same⟩ := repetition.of_refused mapping
      exact ⟨rfl, unmoved same⟩
    | ok mapped =>
      obtain ⟨made, stored, there, restates⟩ := effect.restates keyed mapping
      obtain ⟨unchanged, written, now, resynced⟩ :=
        repetition.resyncs orderly.keyed mapping there restates
      constructor
      · rcases made with rfl | ⟨stale, changed, rfl⟩
        · exact unchanged
        · exact unchanged
      · intro entity externalId
        cases decides : (Change.upserted snapshot).decides entity externalId with
        | false =>
          exact orderly.resynced (repetition.find?_of_not_decides orderly.keyed decides)
        | true =>
          cases Change.target?_of_decides decides
          rw [there, now]
          exact .some resynced
  | removed entity externalId =>
    obtain ⟨removed, absent⟩ := effect.of_removed
    obtain ⟨rfl, same⟩ := repetition.of_absent absent
    refine ⟨?_, unmoved same⟩
    rcases removed with rfl | rfl
    · rfl
    · rfl
  | invalid entityName externalId fault =>
    obtain ⟨rfl, _⟩ := effect.of_invalid
    obtain ⟨rfl, same⟩ := repetition.of_invalid
    exact ⟨rfl, unmoved same⟩

/-- A change that has found an id for its row needs none when it is applied again. -/
theorem HasRoom.applied (room : store.HasRoom change) (keyed : store.Keyed)
    (effect : store.Effect first change outcome once.rows) : once.HasRoom change := by
  rintro snapshot rfl absent
  cases mapping : snapshot.mapped with
  | error fault =>
    obtain ⟨_, same⟩ := effect.of_refused mapping
    rw [same] at absent ⊢
    exact room snapshot rfl absent
  | ok mapped =>
    obtain ⟨_, stored, there, _⟩ := effect.restates keyed mapping
    cases absent.symm.trans there

/-- A record that is applied twice, by any two clocks, is taken twice. It ends the
second time as one does that finds its work done; it leaves every row as it was
after the first time, but that the row of the record may have been written later
since; and neither time does it touch the row of another record. -/
theorem apply_again (reached : store.Reached) {delivery : Delivery}
    (room : store.HasRoom (decode delivery)) (kept : first.Kept) (actor other : String)
    (second : Instant) :
    ∃ outcome once again twice,
      store.apply actor (decode delivery) first = .ok (outcome, once) ∧
      once.apply other (decode delivery) second = .ok (again, twice) ∧
      again.Repeats outcome ∧
      (∀ entity externalId, Option.Rel StoredRow.Resynced
        ((once.rows.get entity).find? externalId) ((twice.rows.get entity).find? externalId)) ∧
      ∀ entity externalId, (decode delivery).target? ≠ some (entity, externalId) →
        (once.rows.get entity).find? externalId = (store.rows.get entity).find? externalId ∧
        (twice.rows.get entity).find? externalId = (store.rows.get entity).find? externalId := by
  have orderly := reached.orderly
  obtain ⟨outcome, once, applied⟩ := orderly.takes actor first room
  have effect := apply_effect orderly.keyed applied
  have orderlyOnce : once.Orderly := (reached.applied kept applied).orderly
  obtain ⟨again, twice, repeated⟩ :=
    orderlyOnce.takes other second (room.applied orderly.keyed effect)
  have repetition := apply_effect orderlyOnce.keyed repeated
  obtain ⟨ends, resynced⟩ := effect.repeats orderly.keyed orderlyOnce repetition
  refine ⟨outcome, once, again, twice, applied, repeated, ends, resynced, ?_⟩
  intro entity externalId elsewhere
  have silent : (decode delivery).decides entity externalId = false := by
    by_contra decides
    exact elsewhere (Change.target?_of_decides (by simpa using decides))
  have untouched := effect.find?_of_not_decides orderly.keyed silent
  exact ⟨untouched, (repetition.find?_of_not_decides orderlyOnce.keyed silent).trans untouched⟩

private def renamed : Delivery :=
  .ofText "contact" ("\x7b\"id\":\"a\",\"createdon\":\"2020-01-01T00:00:00Z\"," ++
    "\"modifiedon\":\"2020-01-01T00:00:00Z\",\"statecode\":0," ++
    "\"attributes\":\x7b\"firstname\":\"A\",\"lastname\":\"B\"\x7d\x7d")

private def firstReading : Instant := .ofMillis 1700000001000

private def laggingReading : Instant := .ofMillis 1700000000000

/-- A record applied to an empty store, and again by a clock that is a second behind. -/
theorem apply_again_clock_behind :
    ∃ once again twice,
      empty.apply "sync" (decode renamed) firstReading = .ok (.created, once) ∧
      once.apply "sync" (decode renamed) laggingReading = .ok (again, twice) ∧
      (∃ stale, again = .updated stale false) ∧
      Option.Rel StoredRow.Resynced ((once.rows.get .contact).find? "a")
        ((twice.rows.get .contact).find? "a") := by
  have room : empty.HasRoom (decode renamed) := by
    intro snapshot _ _
    rw [show empty.rows = .both .empty from rfl, PerEntity.get_both]
    decide
  have kept : firstReading.Kept := Instant.kept_iff.mpr (by decide)
  obtain ⟨outcome, once, again, twice, applied, repeated, ends, resynced, _⟩ :=
    apply_again .empty room kept "sync" "sync" laggingReading
  have created : (empty.apply "sync" (decode renamed) firstReading).toOption.map (·.1) =
      some .created := by decide +kernel
  rw [applied] at created
  cases created
  exact ⟨once, again, twice, applied, repeated, ends, resynced .contact "a"⟩

end Store

end RecordSync
