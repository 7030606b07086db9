import RecordSync.Proofs.Orderly

/-! Where the rows of a store come from. A store that applying records led to
has a past, and each of its rows mirrors the last snapshot that was written
under its key. -/

namespace RecordSync

open RecordSync.Calendar RecordSync.Change RecordSync.Record RecordSync.Store

/-- Changes with what came of them, the latest first. -/
abbrev History := List (Change × Outcome)

def written? (entity : Entity) (externalId : String) : Change × Outcome → Option Snapshot
  | (.upserted snapshot, .created) | (.upserted snapshot, .updated ..) =>
    if snapshot.entity = entity ∧ snapshot.externalId = externalId then some snapshot else none
  | _ => none

/-- The snapshot that last created or updated the row with a key. -/
def History.lastWriter (history : History) (entity : Entity) (externalId : String) :
    Option Snapshot :=
  history.findSome? (written? entity externalId)

namespace Store

/-- The stores that applying changes within the calendar leads to, each with what
was applied, whatever happens beside the rows. What is decoded lies within it. -/
inductive Past : History → Store → Prop where
  | empty : Past [] .empty
  | applied {history : History} {store after : Store} {actor : String} {change : Change}
      {about : Entity} {now : Instant} {outcome : Outcome} (past : Past history store)
      (within : change.Within about) (present : now.Kept)
      (applied : store.apply actor change now = .ok (outcome, after)) :
      Past ((change, outcome) :: history) after
  | beside {history : History} {store after : Store} (past : Past history store)
      (same : after.rows = store.rows) : Past history after

variable {history : History} {store after : Store} {change : Change} {now : Instant}
  {outcome : Outcome} {rows : PerEntity RowTable} {entity : Entity} {externalId : String}

theorem Past.orderly (past : Past history store) : store.Orderly := by
  induction past with
  | empty => exact empty_orderly
  | applied _ within present applied orderly =>
    exact (apply_effect orderly.keyed applied).orderly orderly present within
  | beside _ same orderly => exact orderly.congr same

/-- Whatever is decoded may be applied. -/
theorem Past.decoded {actor : String} {delivery : Delivery} (past : Past history store)
    (present : now.Kept)
    (applied : store.apply actor (decode delivery) now = .ok (outcome, after)) :
    Past ((decode delivery, outcome) :: history) after := by
  obtain ⟨_, within, _⟩ := decode_within delivery
  exact past.applied within present applied

/-- A snapshot is written where it decides, and nowhere else. -/
theorem Effect.written?_upserted {snapshot : Snapshot}
    (effect : store.Effect now (.upserted snapshot) outcome rows) :
    written? entity externalId (.upserted snapshot, outcome) =
      if (Change.upserted snapshot).decides entity externalId then some snapshot else none := by
  cases effect with
  | created found _ => simp [written?, Change.decides, found, Except.toOption]
  | updated found _ _ => simp [written?, Change.decides, found, Except.toOption]
  | rejected refused => simp [written?, Change.decides, refused, Except.toOption]

/-- A change that does not decide on a row does not write it. -/
theorem Effect.written?_of_not_decides (effect : store.Effect now change outcome rows)
    (silent : change.decides entity externalId = false) :
    written? entity externalId (change, outcome) = none := by
  cases change with
  | upserted snapshot => rw [effect.written?_upserted, silent, if_neg Bool.false_ne_true]
  | removed about id => rfl
  | invalid name id fault => rfl

/-- A row mirrors the snapshot that was last written under its key. -/
theorem Past.mirrors (past : Past history store) {stored : StoredRow}
    (there : (store.rows.get entity).find? externalId = some stored) :
    ∃ last mapped, history.lastWriter entity externalId = some last ∧ last.Kept ∧
      last.mapped = .ok mapped ∧ stored.Mirrors last mapped := by
  induction past generalizing stored with
  | empty =>
    rw [show Store.empty.rows = .both .empty from rfl, PerEntity.get_both] at there
    cases there
  | @applied history store after _ change _ _ outcome past within _ applied ih =>
    have effect := apply_effect past.orderly.keyed applied
    unfold History.lastWriter
    rw [List.findSome?_cons]
    cases decides : change.decides entity externalId with
    | false =>
      rw [effect.written?_of_not_decides decides]
      rw [effect.find?_of_not_decides past.orderly.keyed decides] at there
      exact ih there
    | true =>
      have mirrors := effect.mirrors_of_decides past.orderly.keyed within decides
      cases change with
      | upserted snapshot =>
        obtain ⟨_, mapped, found, mapping, same⟩ := mirrors
        rw [there] at found
        cases found
        rw [effect.written?_upserted, decides, if_pos rfl]
        exact ⟨snapshot, mapped, rfl, within.2, mapping, same⟩
      | removed about id =>
        have gone : (after.rows.get entity).find? externalId = none := mirrors
        rw [there] at gone
        cases gone
      | invalid name id fault => cases decides
  | beside _ same ih =>
    rw [same] at there
    exact ih there

end Store

end RecordSync
