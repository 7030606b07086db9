import RecordSync.Proofs.Contest

/-! When racing workers move the time at which a row was written last. A worker
takes care not to move it back, but by the row as it was read: the row may have
been written since. So a time is only safe from a write that was planned before it. -/

namespace RecordSync

open RecordSync.Calendar RecordSync.Change RecordSync.Record RecordSync.Store

theorem Store.NumberCell.atMost_refl (cell : NumberCell) : cell.atMost cell = true := by
  cases cell with
  | integer value => simp [NumberCell.atMost, NumberCell.ratio?]
  | real value => simp [NumberCell.atMost, NumberCell.ratio?]
  | text value => simp [NumberCell.atMost]

def Change.Plan.written? : Plan → Option Row
  | .insert row => some row
  | .update row .. => some row
  | .delete .. => none
  | .skip _ => none

namespace Store

variable {store after : Store} {author : Author} {plan : Plan} {change : Change} {now : Instant}
  {outcome : Outcome} {entity : Entity} {row : Row} {id : Int}

/-- A plan that overwrites a row was made of that row, and carries no earlier time
than was read from it. -/
theorem preview_overwrites (previewed : store.preview change now = .ok plan)
    (writes : plan.written? = some row) (known : row.id = some id) :
    ∃ old ∈ (store.rows.get row.entity).rows, old.id = id ∧ ∃ millis,
      old.lastSyncedAt = .integer millis ∧ millis ≤ row.lastSyncedAt.millis := by
  have made := preview_made previewed
  cases plan with
  | insert row =>
    cases writes
    cases made.1.symm.trans known
  | update row stale changed previous =>
    cases writes
    obtain ⟨old, member, same, _, millis, last, le⟩ := made
    exact ⟨old, member, Option.some.inj (same.symm.trans known), millis, last, le⟩
  | delete entity externalId => cases writes
  | skip outcome => cases writes

theorem commit_eq_ok (committed : store.commit author plan = (.ok outcome, after)) :
    store.carryOut author plan = .ok (outcome, after) := by
  unfold commit at committed
  cases done : store.carryOut author plan with
  | ok result =>
    rw [done] at committed
    cases committed
    rfl
  | error fault =>
    rw [done] at committed
    cases committed

/-- A plan to overwrite a row is carried out whenever the row is still there. -/
theorem Guarded.overwrites {present : Store} (guarded : store.Guarded) (later : present.Guarded)
    (succeeds : ∀ entity, (store.rows.get entity).Succeeds (present.rows.get entity))
    (previewed : store.preview change now = .ok plan) (writes : plan.written? = some row)
    (known : row.id = some id)
    (there : ∃ stored ∈ (present.rows.get row.entity).rows, stored.id = id) (author : Author) :
    ∃ outcome after, present.carryOut author plan = .ok (outcome, after) := by
  have judges := guarded.judges later succeeds previewed author
  cases plan with
  | insert row =>
    cases writes
    cases (guarded.suits previewed).1.symm.trans known
  | update row stale changed previous =>
    cases writes
    obtain ⟨old, _, same, _, _, fits⟩ := judges
    cases known.symm.trans same
    obtain ⟨stored, member, one⟩ := there
    obtain ⟨after, committed, _⟩ := fits stored member one
    exact ⟨_, after, commit_eq_ok committed⟩
  | delete entity externalId => cases writes
  | skip outcome => cases writes

/-- A row in the store was there before, or has an id that was not yet given, or is
the one that is written over another. -/
theorem upsert_origin (keyed : store.Keyed) (done : store.upsert author row = .ok after)
    {stored : StoredRow} (member : stored ∈ (after.rows.get entity).rows) :
    stored ∈ (store.rows.get entity).rows ∨ (store.rows.get entity).lastId < stored.id ∨
      row.entity = entity ∧ row.id = some stored.id ∧
        stored.lastSyncedAt = instantCell row.lastSyncedAt := by
  have changed {table : RowTable} {note : Note}
      (member : stored ∈ ((store.withRows row.entity table author note).rows.get entity).rows) :
      stored ∈ (store.rows.get entity).rows ∨ row.entity = entity ∧ stored ∈ table.rows := by
    by_cases here : entity = row.entity
    · subst here
      exact .inr ⟨rfl, by simpa [withRows] using member⟩
    · simp only [withRows, PerEntity.get_set_of_ne _ _ here] at member
      exact .inl member
  unfold Store.upsert at done
  split at done
  · obtain ⟨_, _, rfl⟩ := insert_spec done
    rcases changed member with old | ⟨rfl, inside⟩
    · exact .inl old
    · rcases RowTable.mem_insert.mp inside with old | rfl
      · exact .inl old
      · exact .inr (.inl (Int.ofNat_lt.mpr (RowTable.lastId_lt_nextId _)))
  · rename_i id known
    obtain ⟨existing, exact, _, rfl⟩ := overwrite_spec done
    obtain ⟨there, same⟩ := (keyed _).find?_of_findExact? exact
    rcases changed member with old | ⟨rfl, inside⟩
    · exact .inl old
    · rcases RowTable.of_mem_overwrite (keyed _) (RowTable.mem_of_find? there).1 inside with
        rfl | old
      · refine .inr (.inr ⟨rfl, ?_, rfl⟩)
        rw [known, ← same]
        rfl
      · exact .inl old

theorem carryOut_of_written (writes : plan.written? = some row) :
    store.carryOut author plan =
      (store.upsert author row).map fun store => (plan.outcome, store) := by
  cases plan <;> cases writes <;> rfl

/-- A plan that writes no row leaves no rows but those from before. -/
theorem carryOut_of_unwritten (writes : plan.written? = none)
    (done : store.carryOut author plan = .ok (outcome, after)) {stored : StoredRow}
    (member : stored ∈ (after.rows.get entity).rows) : stored ∈ (store.rows.get entity).rows := by
  cases plan with
  | insert row => cases writes
  | update row stale changed previous => cases writes
  | skip outcome =>
    cases done
    exact member
  | delete about externalId =>
    unfold carryOut Store.delete at done
    dsimp only at done
    split at done
    · cases done
      exact member
    · cases done
      by_cases here : entity = about
      · subst here
        simp only [withRows, PerEntity.get_set_same] at member
        exact (RowTable.mem_erase.mp member).1
      · simpa only [withRows, PerEntity.get_set_of_ne _ _ here] using member

/-- A row in the store was there before, or has an id that was not yet given, or is
one that the plan overwrites. -/
theorem carryOut_origin (keyed : store.Keyed)
    (done : store.carryOut author plan = .ok (outcome, after)) {stored : StoredRow}
    (member : stored ∈ (after.rows.get entity).rows) :
    stored ∈ (store.rows.get entity).rows ∨ (store.rows.get entity).lastId < stored.id ∨
      ∃ row, plan.written? = some row ∧ row.entity = entity ∧ row.id = some stored.id ∧
        stored.lastSyncedAt = instantCell row.lastSyncedAt := by
  cases writes : plan.written? with
  | some row =>
    rw [carryOut_of_written writes] at done
    obtain ⟨written, done, same⟩ := map_eq_ok_iff.mp done
    cases same
    rcases upsert_origin keyed done member with old | fresh | overwritten
    · exact .inl old
    · exact .inr (.inl fresh)
    · exact .inr (.inr ⟨row, rfl, overwritten⟩)
  | none => exact .inl (carryOut_of_unwritten writes done member)

/-- A row that a plan overwrites has what the plan says. -/
theorem carryOut_overwrites (keyed : store.Keyed)
    (done : store.carryOut author plan = .ok (outcome, after))
    (writes : plan.written? = some row) (known : row.id = some id) :
    ∃ stored ∈ (after.rows.get row.entity).rows, stored.id = id ∧
      stored.lastSyncedAt = instantCell row.lastSyncedAt := by
  rw [carryOut_of_written writes] at done
  obtain ⟨written, done, same⟩ := map_eq_ok_iff.mp done
  cases same
  simp only [Store.upsert, known] at done
  obtain ⟨existing, exact, _, rfl⟩ := overwrite_spec done
  obtain ⟨there, same⟩ := (keyed _).find?_of_findExact? exact
  obtain ⟨member, named⟩ := RowTable.mem_of_find? there
  have found := RowTable.find?_overwrite_same (keyed row.entity) member named.symm
  refine ⟨existing.renewed row, ?_, same, rfl⟩
  simpa [withRows] using (RowTable.mem_of_find? found).1

end Store

namespace Contest

variable {contest later : Contest} {entity : Entity} {id : Int} {floor : NumberCell}

/-- The row with an id was not written last before some time, and no worker is
about to say that it was. -/
structure Floors (contest : Contest) (entity : Entity) (id : Int) (floor : NumberCell) : Prop where
  given : id ≤ (contest.store.rows.get entity).lastId
  rows : ∀ stored ∈ (contest.store.rows.get entity).rows, stored.id = id →
    floor.atMost stored.lastSyncedAt = true
  plans : ∀ worker plan row, contest.plans worker = some plan → plan.written? = some row →
    row.entity = entity → row.id = some id → floor.atMost (instantCell row.lastSyncedAt) = true

/-- What a worker is about to write was planned before, or is planned now. -/
theorem Step.plans (step : contest.Step later) {worker : Nat} {plan : Plan}
    (pending : later.plans worker = some plan) :
    contest.plans worker = some plan ∨
      ∃ change now, contest.store.preview change now = .ok plan := by
  cases step with
  | @planned made busy change now previewed =>
    by_cases here : worker = busy
    · subst here
      simp only [Function.update_self, Option.some.injEq] at pending
      exact .inr ⟨change, now, pending ▸ previewed⟩
    · simp only [Function.update_of_ne here] at pending
      exact .inl pending
  | @written made busy author cleared =>
    by_cases here : worker = busy
    · subst here
      simp only [Function.update_self] at pending
      cases pending
    · simp only [Function.update_of_ne here] at pending
      exact .inl pending

theorem Floors.step (floors : contest.Floors entity id floor) (guarded : contest.store.Guarded)
    (step : contest.Step later) : later.Floors entity id floor := by
  obtain ⟨_, written⟩ := step.writes guarded
  have given := ((written entity).succeeds (guarded.tables entity)).lastId_le
  have known := floors.given
  refine ⟨by omega, ?_, ?_⟩
  · intro stored member same
    cases step with
    | planned worker change now previewed => exact floors.rows stored member same
    | @written plan worker author pending =>
      cases done : contest.store.carryOut author plan with
      | error fault =>
        rw [commit_of_error done] at member
        exact floors.rows stored member same
      | ok result =>
        rw [commit_of_ok done] at member
        rcases carryOut_origin guarded.keyed done member with
          inside | fresh | ⟨row, writes, about, overwrites, last⟩
        · exact floors.rows stored inside same
        · omega
        · rw [last]
          exact floors.plans worker plan row pending writes about (same ▸ overwrites)
  · intro worker plan row pending writes about overwrites
    rcases step.plans pending with pending | ⟨change, now, previewed⟩
    · exact floors.plans worker plan row pending writes about overwrites
    · obtain ⟨old, there, same, millis, last, le⟩ := preview_overwrites previewed writes overwrites
      rw [about] at there
      have read := floors.rows old there same
      rw [last] at read
      exact NumberCell.atMost_of_le read le

theorem Floors.reaches (floors : contest.Floors entity id floor) (guarded : contest.store.Guarded)
    (reaches : Reaches contest later) : later.Floors entity id floor := by
  induction reaches with
  | refl => exact floors
  | step reaches step ih => exact ih.step (reaches.succeeds guarded).1 step

/-- What a worker is about to write was planned at some time. -/
theorem Reaches.pending {first : Contest} (reaches : Reaches first contest)
    (idle : ∀ worker, first.plans worker = none) {worker : Nat} {plan : Plan}
    (pending : contest.plans worker = some plan) :
    ∃ earlier change now, Reaches first earlier ∧ earlier.store.preview change now = .ok plan ∧
      Reaches earlier contest := by
  induction reaches with
  | refl =>
    rw [idle worker] at pending
    cases pending
  | @step before after reaches step ih =>
    rcases step.plans pending with pending | ⟨change, now, previewed⟩
    · obtain ⟨earlier, change, now, reached, previewed, onward⟩ := ih pending
      exact ⟨earlier, change, now, reached, previewed, onward.step step⟩
    · exact ⟨before, change, now, reaches, previewed, Reaches.refl.step step⟩

/-- The time at which a row was written last is a floor for all that it is written at
from then on, if and only if no worker is about to overwrite the row with an earlier
one. One that read the row before it was last written may be. -/
theorem watermark_is_floor_iff (reached : Reaches start contest) {old : StoredRow}
    (there : old ∈ (contest.store.rows.get entity).rows) :
    (∀ later, Reaches contest later → ∀ stored ∈ (later.store.rows.get entity).rows,
      stored.id = old.id → old.lastSyncedAt.atMost stored.lastSyncedAt = true) ↔
    ∀ worker plan row, contest.plans worker = some plan → plan.written? = some row →
      row.entity = entity → row.id = some old.id →
      old.lastSyncedAt.atMost (instantCell row.lastSyncedAt) = true := by
  obtain ⟨guarded, _⟩ := reached.succeeds empty_guarded
  constructor
  · intro floor worker plan row pending writes about overwrites
    subst about
    obtain ⟨earlier, change, now, before, previewed, onward⟩ :=
      reached.pending (fun _ => rfl) pending
    obtain ⟨earlierGuarded, _⟩ := before.succeeds empty_guarded
    obtain ⟨_, succeeds⟩ := onward.succeeds earlierGuarded
    obtain ⟨outcome, after, done⟩ := earlierGuarded.overwrites guarded succeeds previewed writes
      overwrites ⟨old, there, rfl⟩ ⟨"", now⟩
    obtain ⟨stored, member, same, last⟩ :=
      carryOut_overwrites guarded.keyed done writes overwrites
    rw [← last]
    have step := Step.written worker ⟨"", now⟩ pending
    rw [commit_of_ok done] at step
    exact floor _ (.step .refl step) stored member same
  · intro plans later reaches stored member same
    have floors : contest.Floors entity old.id old.lastSyncedAt := by
      refine ⟨(guarded.tables entity).numbered old there, ?_, plans⟩
      intro stored member same
      rw [List.inj_on_of_nodup_map (guarded.tables entity).keyed.ids member there same]
      exact NumberCell.atMost_refl _
    exact (floors.reaches guarded reaches).rows stored member same

/-- What a worker does next: it reads and plans at some second, or it writes. -/
private inductive Move where
  | plans (worker : Nat) (second : Int)
  | writes (worker : Nat)

private def correction : Change :=
  .upserted ⟨⟨"a", .ofMillis 0, .ofMillis 0, 0⟩,
    .contact ⟨none, some "A", none, some "B", none, none, none, none, none, none, none⟩⟩

private def moved (contest : Contest) : Move → Contest
  | .plans worker second =>
    match contest.store.preview correction (.ofMillis (1000 * second)) with
    | .ok plan => { contest with plans := Function.update contest.plans worker (some plan) }
    | .error _ => contest
  | .writes worker =>
    match contest.plans worker with
    | some plan => ⟨(contest.store.commit ⟨"sync", .ofMillis 0⟩ plan).2,
        Function.update contest.plans worker none⟩
    | none => contest

private theorem reaches_moved (contest : Contest) (move : Move) :
    Reaches contest (contest.moved move) := by
  cases move with
  | plans worker second =>
    cases previewed : contest.store.preview correction (.ofMillis (1000 * second)) with
    | ok plan =>
      simp only [moved, previewed]
      exact .step .refl (.planned worker correction _ previewed)
    | error fault =>
      simp only [moved, previewed]
      exact .refl
  | writes worker =>
    cases pending : contest.plans worker with
    | some plan =>
      simp only [moved, pending]
      exact .step .refl (.written worker _ pending)
    | none =>
      simp only [moved, pending]
      exact .refl

private theorem reaches_foldl_moved (contest : Contest) (moves : List Move) :
    Reaches contest (moves.foldl moved contest) := by
  induction moves generalizing contest with
  | nil => exact .refl
  | cons move rest ih => exact (reaches_moved contest move).trans (ih _)

/-- Two workers read a row that was written at the start. One of them writes it as
of its second, the other one is left with a plan of an earlier second. -/
private def rivals : List Move :=
  [.plans 0 0, .writes 0, .plans 0 1, .plans 1 2, .writes 1]

/-- The one that is left takes the row back to an earlier second. -/
theorem watermark_moves_back : ∃ contest next : Contest, Reaches start contest ∧
    contest.Step next ∧
    ∃ old ∈ (contest.store.rows.get .contact).rows, ∃ stored ∈ (next.store.rows.get .contact).rows,
      stored.id = old.id ∧ old.lastSyncedAt = .integer 2000 ∧
      stored.lastSyncedAt = .integer 1000 := by
  refine ⟨rivals.foldl moved start, moved (rivals.foldl moved start) (.writes 0),
    reaches_foldl_moved start rivals, ?_, by decide +kernel⟩
  have left : ((rivals.foldl moved start).plans 0).isSome = true := by decide +kernel
  generalize rivals.foldl moved start = contest at left
  obtain ⟨plan, pending⟩ := Option.isSome_iff_exists.mp left
  simp only [moved, pending]
  exact .written 0 _ pending

/-- As long as that plan is left, the later second is no floor. -/
theorem watermark_is_floor_iff_earlier_planned : ∃ contest : Contest, Reaches start contest ∧
    ∃ old ∈ (contest.store.rows.get .contact).rows, old.lastSyncedAt = .integer 2000 ∧
      ¬ ∀ later, Reaches contest later → ∀ stored ∈ (later.store.rows.get .contact).rows,
        stored.id = old.id → old.lastSyncedAt.atMost stored.lastSyncedAt = true := by
  have reached := reaches_foldl_moved start rivals
  have written : ∃ old ∈ ((rivals.foldl moved start).store.rows.get .contact).rows, old.id = 1 ∧
      old.lastSyncedAt = .integer 2000 := by decide +kernel
  have planned : (((rivals.foldl moved start).plans 0).bind Plan.written?).map (fun row =>
      (row.entity, row.id, instantCell row.lastSyncedAt)) =
      some (.contact, some 1, .integer 1000) := by decide +kernel
  obtain ⟨old, there, id, last⟩ := written
  refine ⟨_, reached, old, there, last, ?_⟩
  intro floor
  obtain ⟨row, left, same⟩ := Option.map_eq_some_iff.mp planned
  obtain ⟨plan, pending, writes⟩ := Option.bind_eq_some_iff.mp left
  simp only [Prod.mk.injEq] at same
  obtain ⟨about, overwrites, early⟩ := same
  have kept := (watermark_is_floor_iff reached there).mp floor 0 plan row pending writes about
    (id ▸ overwrites)
  rw [last, early] at kept
  exact absurd kept (by decide)

end Contest

end RecordSync
