import RecordSync.Proofs.Bookkeeping
import RecordSync.Proofs.Invariant
import RecordSync.Proofs.LastWord

/-! The kinds of records share the log, the quarantine and the marks of a feed, and
a run over one kind leaves all of that alone as far as it is about another. -/

namespace RecordSync

open RecordSync.Calendar RecordSync.Change RecordSync.Feed RecordSync.Record RecordSync.Run
  RecordSync.Store

/-- A plan that concerns rows of one kind at most. -/
def Change.Plan.About (entity : Entity) : Plan → Prop
  | .insert row => row.entity = entity
  | .update row .. => row.entity = entity
  | .delete about _ => about = entity
  | .skip _ => True

theorem Change.plan_about {change : Change} {entity : Entity} (within : change.Within entity)
    (current : Option Row) (now : Instant) : (plan change current now).About entity := by
  cases change with
  | invalid entityName externalId fault => trivial
  | removed about externalId =>
    cases current with
    | none => trivial
    | some row => exact within
  | upserted snapshot =>
    simp only [plan, planSnapshot]
    cases mapping : snapshot.mapped with
    | error fault => trivial
    | ok mapped =>
      have about : mapped.content.entity = entity :=
        (snapshot.mapped_spec mapping).1.trans within.1
      cases current with
      | none => exact about
      | some row => exact about

namespace Store

def Log.ofEntity (log : Log) (entity : Entity) : List Event :=
  log.filter (·.note.subject == entity.name)

def Quarantine.ofEntity (quarantine : Quarantine) (entity : Entity) : List Quarantined :=
  quarantine.entries.filter (·.entity == entity)

/-- Nothing changed for a kind of record. -/
structure Spares (entity : Entity) (before after : Store) : Prop where
  rows : after.rows.get entity = before.rows.get entity
  attempts : after.attempts.get entity = before.attempts.get entity
  cursors : after.cursors.get entity = before.cursors.get entity
  quarantine : after.quarantine.ofEntity entity = before.quarantine.ofEntity entity
  events : after.log.ofEntity entity = before.log.ofEntity entity

variable {store after : Store} {author : Author} {entity other : Entity}

theorem Spares.refl (entity : Entity) (store : Store) : store.Spares entity store :=
  ⟨rfl, rfl, rfl, rfl, rfl⟩

theorem Spares.trans {first second third : Store} (one : first.Spares entity second)
    (two : second.Spares entity third) : first.Spares entity third :=
  ⟨two.rows.trans one.rows, two.attempts.trans one.attempts, two.cursors.trans one.cursors,
    two.quarantine.trans one.quarantine, two.events.trans one.events⟩

theorem Log.ofEntity_append_of_ne (log : Log) (author : Author) {note : Note}
    (different : note.subject ≠ entity.name) :
    (log.append author note).ofEntity entity = log.ofEntity entity := by
  simp [Log.ofEntity, Log.append, different]

private theorem name_ne (different : other ≠ entity) : entity.name ≠ other.name :=
  fun same => different (Entity.eq_of_name_eq same).symm

/-- An entry that is taken in is none of another kind's, and overwrites none. -/
theorem Quarantine.Keyed.ofEntity_put {quarantine : Quarantine} (keyed : quarantine.Keyed)
    {entry : Quarantined} (different : other ≠ entry.entity) :
    (quarantine.put entry).1.ofEntity other = quarantine.ofEntity other := by
  unfold Quarantine.put
  split
  · rename_i existing found
    obtain ⟨member, sameEntity, _⟩ := at?_eq_some found
    obtain ⟨before, behind, shape, replaced, _⟩ :=
      @Keyed.replace quarantine { entry with id := existing.id } existing keyed member rfl
    have foreign : (entry.entity == other) = false := by simpa using different.symm
    unfold ofEntity
    dsimp only
    rw [replaced, shape]
    simp only [List.filter_append, List.filter_cons, sameEntity, foreign, Bool.false_eq_true,
      ↓reduceIte]
  · simp [ofEntity, List.filter_append, different.symm]

section
variable (different : other ≠ entity)
include different

private theorem withRows_spares (store : Store) (table : RowTable) (author : Author)
    (externalId : String) (kind : EventKind) (oldValue newValue : Option String) :
    store.Spares other (store.withRows entity table author
      (rowNote entity externalId kind oldValue newValue)) :=
  ⟨PerEntity.get_set_of_ne _ _ different, rfl, rfl, rfl,
    Log.ofEntity_append_of_ne _ _ (name_ne different)⟩

theorem upsert_spares {row : Row} (about : row.entity = entity)
    (written : store.upsert author row = .ok after) : store.Spares other after := by
  subst about
  unfold upsert at written
  split at written
  · obtain ⟨_, _, rfl⟩ := insert_spec written
    exact withRows_spares different store _ author _ _ _ _
  · obtain ⟨existing, _, _, rfl⟩ := overwrite_spec written
    exact withRows_spares different store _ author _ _ _ _

theorem carryOut_spares {plan : Plan} {outcome : Outcome} (about : plan.About entity)
    (done : store.carryOut author plan = .ok (outcome, after)) : store.Spares other after := by
  cases plan with
  | insert row =>
    obtain ⟨_, written, same⟩ := map_eq_ok_iff.mp done
    cases same
    exact upsert_spares different about written
  | update row stale changed previous =>
    obtain ⟨_, written, same⟩ := map_eq_ok_iff.mp done
    cases same
    exact upsert_spares different about written
  | delete subject externalId =>
    cases about
    cases done
    split
    · exact .refl other store
    · exact withRows_spares different store _ author _ _ _ _
  | skip outcome =>
    cases done
    exact .refl other store

/-- A change is no matter for records of another kind. -/
theorem apply_spares {change : Change} {actor : String} {now : Instant} {outcome : Outcome}
    (within : change.Within entity)
    (applied : store.apply actor change now = .ok (outcome, after)) :
    store.Spares other after := by
  obtain ⟨current, done⟩ := apply_planned applied
  exact carryOut_spares different (plan_about within current now) done

theorem recordFailure_spares {sequence count : Nat} {externalId : Option String} {error : String}
    {now : Instant}
    (recorded : store.recordFailure entity sequence externalId error now = .ok (count, after)) :
    store.Spares other after := by
  obtain ⟨_, rfl⟩ := recordFailure_eq_ok recorded
  exact ⟨rfl, PerEntity.get_set_of_ne _ _ different, rfl, rfl, rfl⟩

theorem clearAttempts_spares {position : Nat}
    (cleared : store.clearAttempts entity position = .ok after) : store.Spares other after := by
  rw [clearAttempts_eq_ok cleared]
  exact ⟨rfl, PerEntity.get_set_of_ne _ _ different, rfl, rfl, rfl⟩

theorem setCursor_spares (store : Store) (position : Nat) (now : Instant) :
    store.Spares other (store.setCursor entity position now) :=
  ⟨rfl, rfl, PerEntity.get_set_of_ne _ _ different, rfl, rfl⟩

end

theorem surrender_spares {record : Surrender} {id : Nat} (keyed : store.quarantine.Keyed)
    (different : other ≠ record.entity)
    (given : store.surrender author record = .ok (id, after)) : store.Spares other after := by
  unfold surrender at given
  split at given
  · cases given
  · cases given
    exact ⟨rfl, PerEntity.get_set_of_ne _ _ different, rfl,
      keyed.ofEntity_put different, Log.ofEntity_append_of_ne _ _ (name_ne different)⟩

/-- The keys of the quarantine stay in order when a record is given up. -/
theorem surrender_keyed {record : Surrender} {id : Nat} (keyed : store.quarantine.Keyed)
    (given : store.surrender author record = .ok (id, after)) : after.quarantine.Keyed := by
  obtain ⟨entry, _, _, _, _, _, quarantine, _⟩ := surrender_eq_ok given
  rw [quarantine]
  exact keyed.put entry

end Store

namespace Run

variable {σ : Type} {worker : Worker σ} {entity other : Entity}

/-- Nothing changed for a kind of record, whether in the store, in memory, or in what
its feed holds and remembers. -/
structure Desk.Spares (entity : Entity) (before after : Desk σ) : Prop where
  store : before.store.Spares entity after.store
  memory : after.memory.get entity = before.memory.get entity
  feed : ∃ marks, after.source = before.source.remembering marks ∧
    marks.get entity = before.source.marks.get entity

namespace Desk.Spares

theorem refl (entity : Entity) (desk : Desk σ) : desk.Spares entity desk :=
  ⟨.refl entity _, rfl, desk.source.marks, (desk.source.remembering_marks).symm, rfl⟩

variable {start before after : Desk σ}

/-- Only the store was touched, and no record of the kind. -/
theorem onStore (spares : start.Spares entity before) (beside : before.SameBeside after)
    (only : before.store.Spares entity after.store) : start.Spares entity after := by
  refine ⟨spares.store.trans only, ?_, ?_⟩
  · rw [beside.memory]
    exact spares.memory
  · rw [beside.source]
    exact spares.feed

theorem alike (spares : start.Spares entity before) (alike : before.Alike after) :
    start.Spares entity after :=
  spares.onStore alike.toSameBeside (alike.store ▸ .refl entity _)

/-- Reading one kind leaves the other kinds and their marks alone. -/
theorem fetched (spares : start.Spares other before) (different : other ≠ entity)
    {position most : Nat} {page : Page}
    (fetched : before.source.fetch entity position most = .ok (page, after.source))
    (store : after.store = before.store) (memory : after.memory = before.memory) :
    start.Spares other after := by
  refine ⟨store ▸ spares.store, memory ▸ spares.memory, ?_⟩
  obtain ⟨marks, same, kept⟩ := spares.feed
  obtain ⟨later, remembered, unmoved⟩ := Source.fetch_marks fetched
  refine ⟨later, ?_, ?_⟩
  · rw [remembered, same, Source.remembering_remembering]
  · rw [unmoved other different, same]
    cases found : start.source with
    | memory feed => rfl
    | lines feed =>
      rw [found] at kept
      exact kept

end Desk.Spares

/-- What a run over one kind of record does, call by call, spares the others. -/
theorem Worker.spares_preserved (worker : Worker σ) (different : other ≠ entity)
    (start : Desk σ) : worker.Preserves entity (·.delivery.entityName = entity.name) fun desk =>
      start.Spares other desk ∧ desk.store.quarantine.Keyed where
  alike := by
    rintro before after alike ⟨spares, keyed⟩
    exact ⟨spares.alike alike, alike.store ▸ keyed⟩
  fetched := by
    rintro before after position page fetched store memory ⟨spares, keyed⟩
    exact ⟨⟨spares.fetched different fetched store memory, store ▸ keyed⟩,
      Source.fetch_named fetched⟩
  applied := by
    rintro before after entry outcome now named beside applied ⟨spares, keyed⟩
    refine ⟨spares.onStore beside ?_, apply_quarantine applied ▸ keyed⟩
    exact apply_spares different (decode_within_of_named named) applied
  counted := by
    rintro before after entry fault now attempts beside recorded ⟨spares, keyed⟩
    refine ⟨spares.onStore beside (recordFailure_spares different recorded), ?_⟩
    rw [(recordFailure_onlyAttempts recorded).quarantine]
    exact keyed
  surrendered := by
    rintro before after entry fault now attempts id named failed beside given ⟨spares, keyed⟩
    refine ⟨spares.onStore beside (surrender_spares keyed ?_ given), surrender_keyed keyed given⟩
    exact different
  moved := by
    rintro before after position now alike ⟨spares, keyed⟩
    have quarantine : after.store.quarantine = before.store.quarantine := by
      rw [alike.store, Desk.moved_quarantine]
    refine ⟨Desk.Spares.alike ?_ alike, quarantine ▸ keyed⟩
    cases worker.cursors with
    | memory => exact ⟨spares.store, (PerEntity.get_set_of_ne _ _ different).trans spares.memory,
        spares.feed⟩
    | store => exact ⟨spares.store.trans (setCursor_spares different _ position now), spares.memory,
        spares.feed⟩
  cleared := by
    rintro before after position beside cleared ⟨spares, keyed⟩
    refine ⟨spares.onStore beside (clearAttempts_spares different cleared), ?_⟩
    rw [(clearAttempts_onlyAttempts cleared).quarantine]
    exact keyed

/-- However a run over one kind of record ends, it changed nothing for the others. -/
theorem Worker.serve_spares (worker : Worker σ) (different : other ≠ entity) (request : Request)
    (desk : Desk σ) (keyed : desk.store.quarantine.Keyed) :
    (worker.serve entity request).Ends desk fun _ after =>
      desk.Spares other after ∧ after.store.quarantine.Keyed :=
  (worker.spares_preserved different desk).serve request ⟨.refl other desk, keyed⟩

end Run

end RecordSync
