import RecordSync.Proofs.Chronicle
import RecordSync.Proofs.Orderly
import RecordSync.Proofs.Succession

/-! The life of a row under a single writer. Nothing that is decoded from a feed
is refused, and each row keeps its ids and the instant of its creation, is written
at ever later instants, and always has the fingerprint of what it says. -/

namespace RecordSync

open RecordSync.Calendar RecordSync.Change RecordSync.Record RecordSync.Store

namespace Store

/-- The fingerprint of a row takes its instants from the milliseconds. -/
theorem fingerprint_congr {content : Content} {state : RecordState}
    {createdOn modifiedOn created modified : Instant}
    (sameCreated : created.millis = createdOn.millis)
    (sameModified : modified.millis = modifiedOn.millis) :
    fingerprint content state created modified = fingerprint content state createdOn modifiedOn := by
  simp only [fingerprint, fingerprintText, sameCreated, sameModified]

/-- A row that mirrors a snapshot has the fingerprint of what is read from it. -/
theorem StoredRow.Mirrors.fingerprint_read {stored : StoredRow} {snapshot : Snapshot}
    {mapped : Mapped} {row : Row} (mirrors : stored.Mirrors snapshot mapped)
    (read : stored.read = .ok row) :
    stored.fingerprint = Record.fingerprint row.content row.state row.createdOn row.modifiedOn := by
  obtain ⟨content, state, ⟨created, createdOn, readCreated⟩, modified, modifiedOn, readModified⟩ :=
    StoredRow.read_source read
  rw [mirrors.content] at content
  have sameCreated := NumberCell.integer.inj (mirrors.createdOn.symm.trans createdOn)
  have sameModified := NumberCell.integer.inj (mirrors.modifiedOn.symm.trans modifiedOn)
  rw [mirrors.fingerprint, Except.ok.inj content, state, mirrors.state]
  apply fingerprint_congr
  · rw [readCreated, Instant.millis_ofMillis, sameCreated]
  · rw [readModified, Instant.millis_ofMillis, sameModified]

/-- A row that is as some snapshot says. -/
def StoredRow.Faithful (stored : StoredRow) : Prop :=
  ∃ snapshot mapped, stored.Mirrors snapshot mapped

/-- The same row at a later time, last written no earlier than before. -/
structure StoredRow.Ages (old stored : StoredRow) : Prop where
  continues : old.Continues stored
  written : ∃ former latter : Int, former ≤ latter ∧
    old.lastSyncedAt = .integer former ∧ stored.lastSyncedAt = .integer latter

theorem StoredRow.Orderly.ages {stored : StoredRow} (orderly : stored.Orderly) :
    stored.Ages stored := by
  obtain ⟨_, last, _, _, _, _, lastSyncedAt⟩ := orderly.synced
  exact ⟨.refl stored, last.millis, last.millis, Int.le_refl _, lastSyncedAt, lastSyncedAt⟩

/-- An orderly row was last written no earlier than at first, nor than at last. -/
theorem StoredRow.Orderly.atMost {stored : StoredRow} (orderly : stored.Orderly) :
    stored.firstSyncedAt.atMost stored.lastSyncedAt = true ∧
      stored.lastSyncedAt.atMost stored.lastSyncedAt = true := by
  obtain ⟨first, last, _, _, ordered, firstSyncedAt, lastSyncedAt⟩ := orderly.synced
  rw [firstSyncedAt, lastSyncedAt]
  simpa [instantCell, NumberCell.atMost, NumberCell.ratio?] using ordered

theorem StoredRow.Ages.atMost {old stored : StoredRow} {cell : NumberCell} (ages : old.Ages stored)
    (atMost : cell.atMost old.lastSyncedAt = true) : cell.atMost stored.lastSyncedAt = true := by
  obtain ⟨former, latter, later, was, is⟩ := ages.written
  rw [was] at atMost
  rw [is]
  exact NumberCell.atMost_of_le atMost later

variable {store after : Store} {change : Change} {now : Instant} {outcome : Outcome}
  {rows : PerEntity RowTable} {entity about : Entity} {stored : StoredRow}

/-- Each row was made by the change, at its instant and under a new id, or it is
one from before. -/
theorem Effect.descends (orderly : store.Orderly) (effect : store.Effect now change outcome rows)
    (member : stored ∈ (rows.get entity).rows) :
    (outcome = .created ∧ stored.firstSyncedAt = instantCell now ∧
        ∀ old ∈ (store.rows.get entity).rows, old.id ≠ stored.id) ∨
      ∃ old ∈ (store.rows.get entity).rows, old.Ages stored := by
  have stays {stored : StoredRow} (there : stored ∈ (store.rows.get entity).rows) :
      ∃ old ∈ (store.rows.get entity).rows, old.Ages stored :=
    ⟨stored, there, ((orderly entity).rows stored there).ages⟩
  have changed {other : Entity} {table : RowTable}
      (member : stored ∈ ((store.rows.set other table).get entity).rows) :
      (entity = other ∧ stored ∈ table.rows) ∨ stored ∈ (store.rows.get entity).rows := by
    by_cases same : entity = other
    · subst same
      exact .inl ⟨rfl, by simpa using member⟩
    · rw [PerEntity.get_set_of_ne _ _ same] at member
      exact .inr member
  cases effect with
  | created found absent =>
    rcases changed member with ⟨rfl, written⟩ | there
    · rcases RowTable.mem_insert.mp written with there | rfl
      · exact .inr (stays there)
      · refine .inl ⟨rfl, rfl, ?_⟩
        intro old there
        exact Int.ne_of_lt (RowTable.id_lt_nextId there)
    · exact .inr (stays there)
  | @updated snapshot mapped found existing current there read =>
    have inTable := (RowTable.mem_of_find? there).1
    rcases changed member with ⟨rfl, written⟩ | there
    · rcases RowTable.of_mem_overwrite (orderly _).keyed inTable written with rfl | there
      · obtain ⟨millis, was, last⟩ := StoredRow.read_lastSyncedAt read
        refine .inr ⟨existing, inTable, StoredRow.renewed_continues (StoredRow.read_spec read).2.1,
          millis, (Instant.latest now current.lastSyncedAt).millis, ?_, was, rfl⟩
        rw [last]
        exact Instant.millis_le_latest now millis
      · exact .inr (stays there)
    · exact .inr (stays there)
  | deleted _ =>
    rcases changed member with ⟨rfl, written⟩ | there
    · exact .inr (stays (RowTable.mem_erase.mp written).1)
    · exact .inr (stays there)
  | alreadyAbsent _ => exact .inr (stays member)
  | rejected _ => exact .inr (stays member)
  | invalid => exact .inr (stays member)

/-- A change leaves each row as some snapshot says. -/
theorem Effect.faithful (keyed : store.Keyed) (within : change.Within about)
    (effect : store.Effect now change outcome after.rows)
    (faithful : ∀ entity, ∀ stored ∈ (store.rows.get entity).rows, stored.Faithful)
    (member : stored ∈ (after.rows.get entity).rows) : stored.Faithful := by
  have there := (effect.keyed keyed entity).find?_of_mem member
  cases decides : change.decides entity stored.externalId with
  | false =>
    rw [effect.find?_of_not_decides keyed decides] at there
    exact faithful entity stored (RowTable.mem_of_find? there).1
  | true =>
    have mirrors := effect.mirrors_of_decides keyed within decides
    cases change with
    | upserted snapshot =>
      obtain ⟨written, mapped, found, _, same⟩ := mirrors
      rw [there] at found
      cases found
      exact ⟨snapshot, mapped, same⟩
    | removed _ _ =>
      rw [show (after.rows.get entity).find? stored.externalId = none from mirrors] at there
      cases there
    | invalid _ _ _ => cases decides

/-- A change that is applied on someone's behalf, with the reading of their clock. -/
structure Application where
  actor : String
  delivery : Delivery
  now : Instant

def answer (store : Store) (application : Application) : Except SyncFault (Outcome × Store) :=
  store.apply application.actor (decode application.delivery) application.now

/-- The store after records were applied one by one. One that is refused leaves
the store as it was. -/
def applyEach (store : Store) (applications : List Application) : Store :=
  applications.foldl (fun store application =>
    store.orSame ((store.answer application).map (·.2))) store

/-- One of the applications made a row, under an id that was not there, and the row
has been there ever since. -/
def BornIn (applications : List Application) (entity : Entity) (stored : StoredRow) : Prop :=
  ∃ earlier creation later, applications = earlier ++ creation :: later ∧
    (∃ born, (empty.applyEach earlier).answer creation = .ok (.created, born)) ∧
    (∀ old ∈ ((empty.applyEach earlier).rows.get entity).rows, old.id ≠ stored.id) ∧
    stored.firstSyncedAt = instantCell creation.now ∧
    ∀ between, between <+: later → ∃ present,
      ((empty.applyEach (earlier ++ creation :: between)).rows.get entity).find?
        stored.externalId = some present ∧
      present.Continues stored ∧ present.lastSyncedAt.atMost stored.lastSyncedAt = true

theorem applyEach_concat (store : Store) (applications : List Application)
    (application : Application) :
    store.applyEach (applications ++ [application]) =
      (store.applyEach applications).orSame
        (((store.applyEach applications).answer application).map (·.2)) := by
  simp [applyEach]

/-- What holds of an empty store after records were applied one by one. -/
structure Lived (applications : List Application) (store : Store) : Prop where
  orderly : store.Orderly
  faithful : ∀ entity, ∀ stored ∈ (store.rows.get entity).rows, stored.Faithful
  nextId_le : ∀ entity, (store.rows.get entity).nextId ≤ applications.length + 1
  born : ∀ entity, ∀ stored ∈ (store.rows.get entity).rows, BornIn applications entity stored

variable {applications : List Application} {application : Application}

theorem BornIn.concat {old : StoredRow} (born : BornIn applications entity old)
    (ages : old.Ages stored) (orderly : stored.Orderly)
    (there : ((empty.applyEach (applications ++ [application])).rows.get entity).find?
      stored.externalId = some stored) : BornIn (applications ++ [application]) entity stored := by
  obtain ⟨earlier, creation, later, rfl, created, fresh, first, since⟩ := born
  refine ⟨earlier, creation, later ++ [application], by simp, created, ?_, ?_, ?_⟩
  · intro other there
    rw [ages.continues.id]
    exact fresh other there
  · exact ages.continues.firstSyncedAt.trans first
  · intro between early
    rcases List.prefix_concat_iff.mp early with rfl | early
    · exact ⟨stored, by simpa using there, .refl stored, orderly.atMost.2⟩
    · obtain ⟨present, found, continues, before⟩ := since between early
      rw [← ages.continues.externalId] at found
      exact ⟨present, found, continues.trans ages.continues, ages.atMost before⟩

theorem Lived.concat (lived : Lived applications (empty.applyEach applications))
    (present : application.now.Kept) :
    Lived (applications ++ [application]) (empty.applyEach (applications ++ [application])) := by
  have last := applyEach_concat empty applications application
  have longer : (applications ++ [application]).length = applications.length + 1 := by simp
  cases answered : (empty.applyEach applications).answer application with
  | error fault =>
    rw [answered] at last
    have same : empty.applyEach (applications ++ [application]) = empty.applyEach applications :=
      last
    have orderly := lived.orderly
    refine ⟨same ▸ orderly, same ▸ lived.faithful, ?_, ?_⟩
    · intro entity
      have bound := lived.nextId_le entity
      rw [same]
      omega
    · intro entity stored member
      rw [same] at member
      have readable := (orderly entity).rows stored member
      apply (lived.born entity stored member).concat readable.ages readable
      rw [same]
      exact (orderly entity).keyed.find?_of_mem member
  | ok result =>
    obtain ⟨outcome, after⟩ := result
    rw [answered] at last
    have same : empty.applyEach (applications ++ [application]) = after := last
    obtain ⟨about, within, _⟩ := decode_within application.delivery
    have effect := apply_effect lived.orderly.keyed answered
    have orderly : after.Orderly := effect.orderly lived.orderly present within
    refine ⟨same ▸ orderly, ?_, ?_, ?_⟩
    · intro entity stored member
      rw [same] at member
      exact effect.faithful lived.orderly.keyed within lived.faithful member
    · intro entity
      have bound := lived.nextId_le entity
      have used := effect.nextId_le lived.orderly.keyed entity
      rw [same]
      omega
    · intro entity stored member
      rw [same] at member
      have readable := (orderly entity).rows stored member
      have there := (orderly entity).keyed.find?_of_mem member
      rcases effect.descends lived.orderly member with ⟨rfl, first, fresh⟩ | ⟨old, was, ages⟩
      · refine ⟨applications, application, [], rfl, ⟨after, answered⟩, fresh, first, ?_⟩
        intro between early
        rw [List.prefix_nil.mp early, same]
        exact ⟨stored, there, .refl stored, readable.atMost.2⟩
      · exact (lived.born entity old was).concat ages readable (same ▸ there)

theorem applyEach_lived (kept : ∀ application ∈ applications, application.now.Kept) :
    Lived applications (empty.applyEach applications) := by
  induction applications using List.reverseRecOn with
  | nil =>
    have bare (entity : Entity) : (empty.rows.get entity) = .empty := PerEntity.get_both _ entity
    have none (entity : Entity) : ∀ stored ∈ (empty.rows.get entity).rows, False := by
      rw [bare]
      exact List.forall_mem_nil _
    refine ⟨empty_orderly, fun entity stored member => (none entity stored member).elim, ?_,
      fun entity stored member => (none entity stored member).elim⟩
    intro entity
    show (empty.rows.get entity).nextId ≤ 1
    rw [bare]
    exact Nat.le_refl 1
  | append_singleton earlier application lived =>
    exact (lived fun other member => kept other (List.mem_append_left _ member)).concat
      (kept application List.mem_concat_self)

/-- Whatever records one writer applied, one after the other, the next one is
applied too, as long as there are ids for new rows. Each row can be read and has
the fingerprint of what it says; one of the records made it, and its ids and the
instant of its creation have stayed since, while it was never written at an
earlier instant than before. -/
theorem rows_well_formed (applications : List Application)
    (kept : ∀ application ∈ applications, application.now.Kept) :
    (applications.length < RowTable.greatestId → ∀ next : Application,
      ∃ outcome after, (empty.applyEach applications).answer next = .ok (outcome, after)) ∧
    ∀ entity, ∀ stored ∈ ((empty.applyEach applications).rows.get entity).rows,
      (∃ row, stored.read = .ok row ∧ row.fingerprint =
        fingerprint row.content row.state row.createdOn row.modifiedOn) ∧
      stored.firstSyncedAt.atMost stored.lastSyncedAt = true ∧
      BornIn applications entity stored := by
  have lived := applyEach_lived kept
  constructor
  · intro room next
    obtain ⟨about, within, _⟩ := decode_within next.delivery
    have bound := lived.nextId_le about
    apply lived.orderly.applies next.actor next.now within
    simp only [RowTable.isFull, decide_eq_false_iff_not]
    omega
  · intro entity stored member
    have readable := (lived.orderly entity).rows stored member
    obtain ⟨snapshot, mapped, mirrors⟩ := lived.faithful entity stored member
    obtain ⟨row, _, _, read, _⟩ := readable.reads
    refine ⟨⟨row, read, ?_⟩, readable.atMost.1, lived.born entity stored member⟩
    rw [(StoredRow.read_spec read).2.2]
    exact mirrors.fingerprint_read read

private def delivered (now : Instant) : Application :=
  ⟨"sync", .ofText "contact" ("\x7b\"id\":\"a\",\"createdon\":\"2020-01-01T00:00:00Z\"," ++
    "\"modifiedon\":\"2020-01-01T00:00:00Z\",\"statecode\":0," ++
    "\"attributes\":\x7b\"firstname\":\"A\",\"lastname\":\"B\"\x7d\x7d"), now⟩

/-- A record applied in the middle of a leap second, and again in the second that
follows, which starts half a second earlier in milliseconds. -/
theorem rows_well_formed_leap_second :
    let applications := [delivered ⟨1483228799, 1500000000, by decide⟩,
      delivered ⟨1483228800, 0, by decide⟩]
    ∃ stored ∈ ((empty.applyEach applications).rows.get .contact).rows, stored.id = 1 ∧
      stored.firstSyncedAt = .integer 1483228800500 ∧
      stored.lastSyncedAt = .integer 1483228800500 ∧ BornIn applications .contact stored := by
  intro applications
  have kept : ∀ application ∈ applications, application.now.Kept := by
    intro application member
    rcases List.mem_pair.mp member with rfl | rfl
    · exact Instant.kept_iff.mpr (by decide)
    · exact Instant.kept_iff.mpr (by decide)
  have written : ∃ stored ∈ ((empty.applyEach applications).rows.get .contact).rows,
      stored.id = 1 ∧ stored.firstSyncedAt = .integer 1483228800500 ∧
        stored.lastSyncedAt = .integer 1483228800500 := by
    decide +kernel
  obtain ⟨stored, member, id, first, last⟩ := written
  exact ⟨stored, member, id, first, last,
    ((rows_well_formed applications kept).2 .contact stored member).2.2⟩

end Store

end RecordSync
