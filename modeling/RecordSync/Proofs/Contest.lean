import Mathlib.Logic.Function.Basic
import RecordSync.Proofs.Exec
import RecordSync.Proofs.Succession

/-! Workers that race. Each of them reads a row and makes a plan, and writes at
some later time, when others may have written, deleted or made the row anew. A
write that no longer fits is refused and changes nothing. -/

namespace RecordSync

open RecordSync.Calendar RecordSync.Change RecordSync.Record RecordSync.Run RecordSync.Store

namespace Store

/-- What the write of a plan answers, and the store that it leaves. -/
def commit (store : Store) (author : Author) (plan : Plan) : Except SyncFault Outcome × Store :=
  match store.carryOut author plan with
  | .ok (outcome, after) => (.ok outcome, after)
  | .error fault => (.error fault, store)

variable {store present : Store} {author : Author} {plan : Plan} {change : Change} {now : Instant}
  {outcome : Outcome}

/-- A worker's write is a commit. -/
theorem exec_carryOut {σ : Type} (author : Author) (plan : Plan) (desk : Desk σ) :
    (Worker.onStore fun store => store.carryOut author plan : Work σ Outcome).exec desk =
      ((desk.store.commit author plan).1,
        { desk with store := (desk.store.commit author plan).2 }) := by
  rw [Worker.exec_onStore]
  unfold commit
  cases desk.store.carryOut author plan <;> rfl

theorem commit_of_ok {after : Store} (done : store.carryOut author plan = .ok (outcome, after)) :
    store.commit author plan = (.ok outcome, after) := by
  simp only [commit, done]

theorem commit_of_error {fault : SyncFault} (refused : store.carryOut author plan = .error fault) :
    store.commit author plan = (.error fault, store) := by
  simp only [commit, refused]

/-- What a plan to write a row says of the rows that it was made of. -/
def Suits (store : Store) : Plan → Prop
  | .insert row => row.id = none ∧ row.firstSyncedAt.millis ≤ row.lastSyncedAt.millis ∧
      (store.rows.get row.entity).find? row.externalId = none
  | .update row .. => ∃ old ∈ (store.rows.get row.entity).rows, row.id = some old.id ∧
      row.externalId = old.externalId ∧
      old.firstSyncedAt.atMost (instantCell row.lastSyncedAt) = true
  | _ => True

/-- What a plan to write a row was made of: no row, or one that it says nothing earlier than. -/
def Made (store : Store) : Plan → Prop
  | .insert row => row.id = none ∧ row.firstSyncedAt.millis ≤ row.lastSyncedAt.millis ∧
      (store.rows.get row.entity).find? row.externalId = none
  | .update row .. => ∃ old ∈ (store.rows.get row.entity).rows, row.id = some old.id ∧
      row.externalId = old.externalId ∧
      ∃ millis, old.lastSyncedAt = .integer millis ∧ millis ≤ row.lastSyncedAt.millis
  | _ => True

theorem preview_made (previewed : store.preview change now = .ok plan) : store.Made plan := by
  unfold preview at previewed
  cases change with
  | invalid entityName externalId fault =>
    cases previewed
    trivial
  | removed entity externalId =>
    obtain ⟨current, _, rfl⟩ := map_eq_ok_iff.mp previewed
    cases current <;> trivial
  | upserted snapshot =>
    obtain ⟨current, read, rfl⟩ := map_eq_ok_iff.mp previewed
    have found := read_spec read
    simp only [plan, planSnapshot]
    cases mapping : snapshot.mapped with
    | error fault => trivial
    | ok mapped =>
      have about : mapped.content.entity = snapshot.entity := (snapshot.mapped_spec mapping).1
      cases current with
      | none =>
        refine ⟨rfl, Int.le_refl _, ?_⟩
        rw [show (newRow snapshot.origin mapped now).entity = snapshot.entity from about]
        exact found
      | some row =>
        obtain ⟨stored, there, readable⟩ := found
        obtain ⟨member, _⟩ := RowTable.mem_of_find? there
        obtain ⟨id, named, _⟩ := StoredRow.read_spec readable
        obtain ⟨millis, lastSyncedAt, last⟩ := StoredRow.read_lastSyncedAt readable
        refine ⟨stored, ?_, id, named, millis, lastSyncedAt, ?_⟩
        · rw [show (Row.overwritten row (newRow snapshot.origin mapped now)).entity =
            snapshot.entity from about]
          exact member
        · show millis ≤ (Instant.latest now row.lastSyncedAt).millis
          rw [last]
          exact Instant.millis_le_latest now millis

theorem Guarded.suits (guarded : store.Guarded)
    (previewed : store.preview change now = .ok plan) : store.Suits plan := by
  have made := preview_made previewed
  cases plan with
  | insert row => exact made
  | update row stale changed previous =>
    obtain ⟨old, member, id, named, millis, last, le⟩ := made
    have ordered := (guarded.tables row.entity).ordered old member
    rw [last] at ordered
    exact ⟨old, member, id, named, NumberCell.atMost_of_le ordered le⟩
  | delete entity externalId => trivial
  | skip outcome => trivial

/-- The rows of a kind became others and the log has one event more, which says why.
All else is as it was, but for the last id that the kind has given. -/
structure Became (before : Store) (entity : Entity) (rows : List StoredRow) (author : Author)
    (note : Note) (after : Store) : Prop where
  rows : (after.rows.get entity).rows = rows
  others : ∀ other, other ≠ entity → after.rows.get other = before.rows.get other
  log : after.log = before.log.append author note
  attempts : after.attempts = before.attempts
  quarantine : after.quarantine = before.quarantine
  cursors : after.cursors = before.cursors

theorem withRows_became (store : Store) (entity : Entity) (table : RowTable) (author : Author)
    (note : Note) : store.Became entity table.rows author note
      (store.withRows entity table author note) where
  rows := by rw [withRows, PerEntity.get_set_same]
  others _ different := PerEntity.get_set_of_ne _ _ different
  log := rfl
  attempts := rfl
  quarantine := rfl
  cursors := rfl

/-- How the present rows decide on the write of a plan that was made of rows read
before, and what a write that fits leaves of them. There has to be an id left for a
new row. -/
def Judges (present read : Store) (author : Author) : Plan → Prop
  | .insert row =>
    (read.rows.get row.entity).find? row.externalId = none ∧
    (present.log.length < RowTable.greatestId →
      (((present.rows.get row.entity).find? row.externalId).isSome = true →
        present.commit author (.insert row) =
          (.error (.constraint row.entity row.externalId (.duplicate row.entity.table)), present)) ∧
      ((present.rows.get row.entity).find? row.externalId = none →
        ∃ (id : Int) (after : Store), present.commit author (.insert row) = (.ok .created, after) ∧
          (∀ stored ∈ (present.rows.get row.entity).rows, stored.id < id) ∧
          present.Became row.entity ((present.rows.get row.entity).rows ++ [.ofRow id row]) author
            (rowNote row.entity row.externalId .created none (some row.fingerprint)) after))
  | .update row stale changed previous =>
    ∃ old ∈ (read.rows.get row.entity).rows, row.id = some old.id ∧
    row.externalId = old.externalId ∧
    ((∀ stored ∈ (present.rows.get row.entity).rows, stored.id ≠ old.id) →
      present.commit author (.update row stale changed previous) =
        (.error (.constraint row.entity row.externalId (.rowGone old.id)), present)) ∧
    ∀ stored ∈ (present.rows.get row.entity).rows, stored.id = old.id →
      ∃ after, present.commit author (.update row stale changed previous) =
          (.ok (.updated stale changed), after) ∧
        present.Became row.entity ((present.rows.get row.entity).rows.map fun other =>
            if other.id = old.id then stored.renewed row else other) author
          (rowNote row.entity row.externalId .updated (some stored.fingerprint)
            (some row.fingerprint)) after
  | .delete entity externalId =>
    ((present.rows.get entity).find? externalId = none →
      present.commit author (.delete entity externalId) = (.ok .alreadyAbsent, present)) ∧
    ∀ stored, (present.rows.get entity).find? externalId = some stored →
      ∃ after, present.commit author (.delete entity externalId) = (.ok .deleted, after) ∧
        present.Became entity
          ((present.rows.get entity).rows.filter (·.externalId != externalId)) author
          (rowNote entity externalId .deleted (some stored.fingerprint) none) after
  | .skip outcome => present.commit author (.skip outcome) = (.ok outcome, present)

private theorem insert_duplicate {row : Row} (room : (present.rows.get row.entity).isFull = false)
    (ordered : row.firstSyncedAt.millis ≤ row.lastSyncedAt.millis)
    (there : ((present.rows.get row.entity).find? row.externalId).isSome = true) :
    present.insert author row =
      .error (.constraint row.entity row.externalId (.duplicate row.entity.table)) := by
  have notBefore : ¬ row.lastSyncedAt.millis < row.firstSyncedAt.millis := by omega
  simp only [Store.insert, room, notBefore, there, Bool.false_eq_true, ↓reduceIte]

private theorem overwrite_gone {row : Row} {id : Int}
    (gone : ∀ stored ∈ (present.rows.get row.entity).rows, stored.id ≠ id) :
    present.overwrite author id row =
      .error (.constraint row.entity row.externalId (.rowGone id)) := by
  have absent : (present.rows.get row.entity).findExact? id row.externalId = none := by
    apply List.find?_eq_none.mpr
    intro stored member
    simp [gone stored member]
  simp only [Store.overwrite, absent]

/-- Whatever was written since a plan was made, the store tells a write that still
fits from one that does not. -/
theorem Guarded.judges {read : Store} (guarded : read.Guarded) (later : present.Guarded)
    (succeeds : ∀ entity, (read.rows.get entity).Succeeds (present.rows.get entity))
    (previewed : read.preview change now = .ok plan) (author : Author) :
    present.Judges read author plan := by
  have suits := guarded.suits previewed
  cases plan with
  | insert row =>
    obtain ⟨fresh, ordered, absent⟩ := suits
    have upsert : present.upsert author row = present.insert author row := by
      simp only [Store.upsert, fresh]
    refine ⟨absent, ?_⟩
    intro room
    have notFull := later.notFull room row.entity
    constructor
    · intro there
      apply commit_of_error
      simp only [Store.carryOut, upsert, insert_duplicate notFull ordered there]
      rfl
    · intro still
      obtain ⟨after, done⟩ := @insert_ok present author row notFull ordered still
      obtain ⟨_, _, rfl⟩ := insert_spec done
      refine ⟨_, _, commit_of_ok ?_, fun stored member => RowTable.id_lt_nextId member,
        present.withRows_became row.entity ((present.rows.get row.entity).insert row) author _⟩
      simp only [Store.carryOut, upsert, done]
      rfl
  | update row stale changed previous =>
    obtain ⟨old, there, id, named, ordered⟩ := suits
    have upsert : present.upsert author row = present.overwrite author old.id row := by
      simp only [Store.upsert, id]
    refine ⟨old, there, id, named, ?_, ?_⟩
    · intro gone
      apply commit_of_error
      simp only [Store.carryOut, upsert, overwrite_gone gone]
      rfl
    · intro stored member same
      have continues := (succeeds row.entity).continues (guarded.tables _) there member same
      have keyed := (later.tables row.entity).keyed
      have found : (present.rows.get row.entity).find? row.externalId = some stored := by
        rw [named, ← continues.externalId]
        exact keyed.find?_of_mem member
      obtain ⟨after, done⟩ := @overwrite_ok present author row stored keyed found
        (continues.firstSyncedAt ▸ ordered)
      obtain ⟨existing, exact, _, rfl⟩ := overwrite_spec done
      cases (keyed.findExact?_of_find? found).symm.trans exact
      rw [← same] at upsert ⊢
      refine ⟨_, commit_of_ok ?_, present.withRows_became row.entity
        ((present.rows.get row.entity).overwrite stored row) author _⟩
      simp only [Store.carryOut, upsert, done]
      rfl
  | delete entity externalId =>
    constructor
    · intro absent
      simp only [commit, Store.carryOut, Store.delete, absent]
      rfl
    · intro stored found
      refine ⟨_, commit_of_ok ?_, present.withRows_became entity
        ((present.rows.get entity).erase externalId) author _⟩
      simp only [Store.carryOut, Store.delete, found]
      rfl
  | skip outcome => exact commit_of_ok rfl

end Store

/-- The store, and the plans that workers have yet to write. -/
structure Contest where
  store : Store
  plans : Nat → Option Plan

namespace Contest

def start : Contest := ⟨.empty, fun _ => none⟩

/-- A worker reads and plans, whatever it meant to do before, or it writes what it
has planned. -/
inductive Step (contest : Contest) : Contest → Prop where
  | planned {plan : Plan} (worker : Nat) (change : Change) (now : Instant)
      (previewed : contest.store.preview change now = .ok plan) :
      Step contest { contest with plans := Function.update contest.plans worker (some plan) }
  | written {plan : Plan} (worker : Nat) (author : Author)
      (pending : contest.plans worker = some plan) :
      Step contest
        ⟨(contest.store.commit author plan).2, Function.update contest.plans worker none⟩

/-- The states that a contest comes to, in whatever order its steps are taken. -/
inductive Reaches (first : Contest) : Contest → Prop where
  | refl : Reaches first first
  | step {contest after : Contest} (reaches : Reaches first contest) (step : contest.Step after) :
      Reaches first after

variable {first contest later : Contest}

theorem Reaches.trans {second : Contest} (one : Reaches first second)
    (two : Reaches second contest) : Reaches first contest := by
  induction two with
  | refl => exact one
  | step _ step ih => exact .step ih step

/-- A step writes to each table once at most, and keeps it guarded. -/
theorem Step.writes (guarded : contest.store.Guarded) (step : contest.Step later) :
    later.store.Guarded ∧
      ∀ entity, (contest.store.rows.get entity).Written (later.store.rows.get entity) := by
  cases step with
  | planned worker change now previewed => exact ⟨guarded, fun _ => .unchanged⟩
  | @written plan worker author pending =>
    cases done : contest.store.carryOut author plan with
    | error fault =>
      rw [commit_of_error done]
      exact ⟨guarded, fun _ => .unchanged⟩
    | ok result =>
      rw [commit_of_ok done]
      exact ⟨guarded.carryOut done, carryOut_written guarded.keyed done⟩

theorem Reaches.succeeds (guarded : contest.store.Guarded) (reaches : Reaches contest later) :
    later.store.Guarded ∧
      ∀ entity, (contest.store.rows.get entity).Succeeds (later.store.rows.get entity) := by
  induction reaches with
  | refl => exact ⟨guarded, fun entity => .refl _⟩
  | step _ step ih =>
    obtain ⟨before, succeeds⟩ := ih
    obtain ⟨after, written⟩ := step.writes before
    exact ⟨after, fun entity =>
      (succeeds entity).trans ((written entity).succeeds (before.tables entity))⟩

/-- However workers race, a key has one row at most; a row keeps its ids and the
instant of its creation while it is there, and no other row ever gets the id of
one that is gone; and a write whose row was made or deleted since it was planned is
refused and changes nothing, while every other one does what was planned to its own
row, adds the event that says so, and leaves all else as it is. -/
theorem races_detected (reached : Reaches start contest) :
    (∀ entity, ((contest.store.rows.get entity).rows.map (·.externalId)).Nodup ∧
      ((contest.store.rows.get entity).rows.map (·.id)).Nodup ∧
      ∀ stored ∈ (contest.store.rows.get entity).rows,
        stored.firstSyncedAt.atMost stored.lastSyncedAt = true) ∧
    (∀ next, contest.Step next → ∀ entity, ∀ old ∈ (contest.store.rows.get entity).rows,
      ∀ stored ∈ (next.store.rows.get entity).rows,
        stored.externalId = old.externalId → stored.id = old.id) ∧
    (∀ later, Reaches contest later → ∀ entity, ∀ old ∈ (contest.store.rows.get entity).rows,
      (∀ stored ∈ (later.store.rows.get entity).rows, stored.id = old.id →
        stored.externalId = old.externalId ∧ stored.firstSyncedAt = old.firstSyncedAt) ∧
      ((∀ stored ∈ (later.store.rows.get entity).rows, stored.id ≠ old.id) →
        ∀ last, Reaches later last →
          ∀ stored ∈ (last.store.rows.get entity).rows, stored.id ≠ old.id)) ∧
    (∀ change now plan, contest.store.preview change now = .ok plan →
      ∀ later, Reaches contest later → ∀ author,
        later.store.Judges contest.store author plan) := by
  obtain ⟨guarded, _⟩ := reached.succeeds empty_guarded
  refine ⟨?_, ?_, ?_, ?_⟩
  · intro entity
    have table := guarded.tables entity
    exact ⟨table.keyed.names, table.keyed.ids, table.ordered⟩
  · intro next step entity old there stored member same
    obtain ⟨_, written⟩ := step.writes guarded
    exact (written entity).same_id (guarded.tables entity) there member same
  · intro later reaches entity old there
    obtain ⟨laterGuarded, succeeds⟩ := reaches.succeeds guarded
    constructor
    · intro stored member same
      have continues := (succeeds entity).continues (guarded.tables entity) there member same
      exact ⟨continues.externalId, continues.firstSyncedAt⟩
    · intro gone last onward
      obtain ⟨_, lastly⟩ := onward.succeeds laterGuarded
      have given := (guarded.tables entity).numbered old there
      have kept := (succeeds entity).lastId_le
      exact (lastly entity).stays_gone (by omega) gone
  · intro change now plan previewed later reaches author
    obtain ⟨laterGuarded, succeeds⟩ := reaches.succeeds guarded
    exact guarded.judges laterGuarded succeeds previewed author

private def clerk : Author := ⟨"sync", .ofMillis 0⟩

private def teacher (lastName : String) : Change :=
  .upserted ⟨⟨"a", .ofMillis 0, .ofMillis 0, 0⟩,
    .contact ⟨none, some "A", none, some lastName, none, none, none, none, none, none, none⟩⟩

/-- What a worker plans for a change, if it can read the row. -/
private def planned (store : Store) (change : Change) : Plan :=
  (store.preview change clerk.time).toOption.getD (.skip .alreadyAbsent)

/-- The state after a worker has read, planned and written with nobody in between. -/
private def served (contest : Contest) (change : Change) : Contest :=
  ⟨(contest.store.commit clerk (planned contest.store change)).2,
    Function.update contest.plans 0 none⟩

private theorem preview_planned {store : Store} {change : Change}
    (readable : (store.preview change clerk.time).toOption.isSome = true) :
    store.preview change clerk.time = .ok (planned store change) := by
  unfold planned
  cases previewed : store.preview change clerk.time with
  | error fault =>
    rw [previewed] at readable
    cases readable
  | ok plan => rfl

private theorem reaches_served {change : Change}
    (readable : (contest.store.preview change clerk.time).toOption.isSome = true) :
    Reaches contest (contest.served change) := by
  let plan := planned contest.store change
  let midway : Contest := { contest with plans := Function.update contest.plans 0 (some plan) }
  have reading : contest.Step midway := .planned 0 change clerk.time (preview_planned readable)
  have pending : midway.plans 0 = some plan := by simp [midway]
  have writing := @Step.written midway plan 0 clerk pending
  rw [Function.update_idem] at writing
  exact .step (.step .refl reading) writing

/-- The row that a plan overwrites another one with. -/
private def overwriting? : Plan → Option Row
  | .update row .. => some row
  | _ => none

private theorem judged_refuses {present read : Store} {author : Author} {plan : Plan} {row : Row}
    {id : Int} (judged : present.Judges read author plan) (overwrites : overwriting? plan = some row)
    (known : row.id = some id)
    (gone : ∀ stored ∈ (present.rows.get row.entity).rows, stored.id ≠ id) :
    present.commit author plan =
      (.error (.constraint row.entity row.externalId (.rowGone id)), present) := by
  cases plan with
  | update row stale changed previous =>
    cases overwrites
    obtain ⟨old, _, same, _, refuses, _⟩ := judged
    cases known.symm.trans same
    exact refuses gone
  | insert row => cases overwrites
  | delete entity externalId => cases overwrites
  | skip outcome => cases overwrites

private theorem judged_fits {present read : Store} {author : Author} {plan : Plan} {row : Row}
    {id : Int} (judged : present.Judges read author plan) (overwrites : overwriting? plan = some row)
    (known : row.id = some id) {stored : StoredRow}
    (single : (present.rows.get row.entity).rows = [stored]) (same : stored.id = id) :
    ∃ stale changed after, present.commit author plan = (.ok (.updated stale changed), after) ∧
      (after.rows.get row.entity).rows = [stored.renewed row] ∧
      after.log.length = present.log.length + 1 := by
  cases plan with
  | update row stale changed previous =>
    cases overwrites
    obtain ⟨old, _, there, _, _, fits⟩ := judged
    cases known.symm.trans there
    rw [single] at fits
    obtain ⟨after, committed, became⟩ := fits stored (List.mem_singleton_self _) same
    refine ⟨stale, changed, after, committed, ?_, ?_⟩
    · rw [became.rows, List.map_singleton, if_pos same]
    · rw [became.log]
      rfl
  | insert row => cases overwrites
  | delete entity externalId => cases overwrites
  | skip outcome => cases overwrites

/-- A row is deleted and made anew while a worker is about to overwrite it: its write is
refused. The new row is overwritten by two workers who both read it as it was: the row
of the one who writes last is there afterwards. -/
theorem races_detected_row_made_anew : ∃ (contest anew last : Contest) (late second : Plan)
    (row : Row) (after : Store),
    Reaches start contest ∧ contest.store.preview (teacher "B") clerk.time = .ok late ∧
    Reaches contest anew ∧
    anew.store.commit clerk late =
      (.error (.constraint .contact "a" (.rowGone 1)), anew.store) ∧
    anew.store.preview (teacher "C") clerk.time = .ok second ∧ Reaches anew last ∧
    last.store.rows ≠ anew.store.rows ∧ overwriting? second = some row ∧
    (∃ stale changed, last.store.commit clerk second = (.ok (.updated stale changed), after)) ∧
    (after.rows.get .contact).rows.map (fun stored => (stored.id, stored.fingerprint)) =
      [(2, row.fingerprint)] ∧
    after.log.length = last.store.log.length + 1 := by
  let contest := start.served (teacher "B")
  let anew := (contest.served (.removed .contact "a")).served (teacher "B")
  let last := anew.served (teacher "D")
  have reached : Reaches start contest := reaches_served (by decide +kernel)
  have remade : Reaches contest anew :=
    (reaches_served (by decide +kernel)).trans (reaches_served (by decide +kernel))
  have overwritten : Reaches anew last := reaches_served (by decide +kernel)
  have previewed := @preview_planned contest.store (teacher "B") (by decide +kernel)
  have previewedAnew := @preview_planned anew.store (teacher "C") (by decide +kernel)
  have moved : last.store.rows ≠ anew.store.rows := by decide +kernel
  have gone : ∀ stored ∈ (anew.store.rows.get .contact).rows, stored.id ≠ 1 := by decide +kernel
  have there : (last.store.rows.get .contact).rows.map (·.id) = [2] := by decide +kernel
  have judged := (races_detected reached).2.2.2 _ clerk.time _ previewed anew remade clerk
  have judgedAnew :=
    (races_detected (reached.trans remade)).2.2.2 _ clerk.time _ previewedAnew last overwritten clerk
  have overwrites : (overwriting? (planned contest.store (teacher "B"))).map (fun row =>
      (row.entity, row.externalId, row.id)) = some (.contact, "a", some 1) := by decide +kernel
  have overwritesAnew : (overwriting? (planned anew.store (teacher "C"))).map (fun row =>
      (row.entity, row.id)) = some (.contact, some 2) := by decide +kernel
  obtain ⟨first, firstly, about⟩ := Option.map_eq_some_iff.mp overwrites
  obtain ⟨row, secondly, aboutAnew⟩ := Option.map_eq_some_iff.mp overwritesAnew
  simp only [Prod.mk.injEq] at about aboutAnew
  obtain ⟨kind, named, known⟩ := about
  obtain ⟨kindAnew, knownAnew⟩ := aboutAnew
  have refused := judged_refuses judged firstly known (by rwa [kind])
  rw [kind, named] at refused
  obtain ⟨stored, single, two⟩ := List.map_eq_singleton_iff.mp there
  obtain ⟨stale, changed, after, committed, rows, told⟩ :=
    judged_fits judgedAnew secondly knownAnew (by rwa [kindAnew]) two
  rw [kindAnew] at rows
  refine ⟨contest, anew, last, _, _, row, after, reached, previewed, remade, refused,
    previewedAnew, overwritten, moved, secondly, ⟨stale, changed, committed⟩, ?_, told⟩
  rw [rows, List.map_singleton]
  simp [StoredRow.renewed, StoredRow.ofRow, two]

end Contest

end RecordSync
