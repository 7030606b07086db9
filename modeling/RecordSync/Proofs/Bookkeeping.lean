import Mathlib.Data.List.Nodup
import RecordSync.Proofs.Chronicle

/-! The ledger of failures and the quarantine as tables. A record has at most one
line in each of them, and what is done about one record is no matter for the
lines of the others. -/

namespace RecordSync

open RecordSync.Calendar RecordSync.Record RecordSync.Store

namespace Store

variable {sequence other position : Nat} {externalId : Option String} {error : String}
  {now : Instant} {attempts : List Attempt} {attempt : Attempt}

theorem mem_addFailure (member : attempt ∈ addFailure sequence externalId error now attempts) :
    attempt.sequence = sequence ∨ attempt ∈ attempts := by
  induction attempts with
  | nil =>
    rw [addFailure, List.mem_singleton] at member
    exact .inl (by rw [member])
  | cons first rest ih =>
    unfold addFailure at member
    split at member
    · rename_i same
      rcases List.mem_cons.mp member with rfl | later
      · exact .inl same
      · exact .inr (.tail _ later)
    · split at member
      · rcases List.mem_cons.mp member with rfl | there
        · exact .inl rfl
        · exact .inr there
      · rcases List.mem_cons.mp member with rfl | later
        · exact .inr (.head _)
        · exact (ih later).imp_right (.tail _)

theorem addFailure_pairwise (ordered : attempts.Pairwise (·.sequence < ·.sequence)) :
    (addFailure sequence externalId error now attempts).Pairwise (·.sequence < ·.sequence) := by
  induction ordered with
  | nil => exact List.pairwise_singleton _ _
  | @cons first rest before ordered ih =>
    unfold addFailure
    split
    · exact ordered.cons before
    · split
      · rename_i early
        refine (ordered.cons before).cons ?_
        intro attempt member
        rcases List.mem_cons.mp member with rfl | later
        · exact early
        · exact Nat.lt_trans early (before attempt later)
      · rename_i different late
        refine ih.cons ?_
        intro attempt member
        rcases mem_addFailure member with same | later
        · omega
        · exact before attempt later

/-- A record without a line in the ledger has not failed yet. -/
theorem attemptsOn_of_absent (absent : ∀ attempt ∈ attempts, attempt.sequence ≠ sequence) :
    attemptsOn sequence attempts = 0 := by
  have none : attempts.find? (·.sequence == sequence) = none := by
    simpa [List.find?_eq_none] using absent
  rw [attemptsOn, none]
  rfl

theorem attemptsOn_addFailure_same (ordered : attempts.Pairwise (·.sequence < ·.sequence)) :
    attemptsOn sequence (addFailure sequence externalId error now attempts) =
      attemptsOn sequence attempts + 1 := by
  induction ordered with
  | nil => simp [attemptsOn, addFailure]
  | @cons first rest before ordered ih =>
    unfold addFailure
    split
    · rename_i same
      simp [attemptsOn, same]
    · rename_i different
      split
      · rename_i early
        have absent : attemptsOn sequence (first :: rest) = 0 := by
          apply attemptsOn_of_absent
          intro attempt member
          rcases List.mem_cons.mp member with rfl | later
          · exact different
          · have := before attempt later
            omega
        rw [absent]
        simp [attemptsOn]
      · simpa [attemptsOn, different] using ih

theorem attemptsOn_addFailure_of_ne (different : other ≠ sequence) :
    attemptsOn other (addFailure sequence externalId error now attempts) =
      attemptsOn other attempts := by
  induction attempts with
  | nil => simp [attemptsOn, addFailure, different.symm]
  | cons first rest ih =>
    unfold addFailure
    split
    · rename_i same
      simp [attemptsOn, same, different.symm]
    · split
      · simp [attemptsOn, different.symm]
      · by_cases found : first.sequence = other
        · simp [attemptsOn, found]
        · simpa [attemptsOn, found] using ih

/-- What is cleared from the ledger is no matter for the records that stay. -/
theorem attemptsOn_filter {keeps : Attempt → Bool}
    (kept : ∀ attempt, attempt.sequence = sequence → keeps attempt = true) :
    attemptsOn sequence (attempts.filter keeps) = attemptsOn sequence attempts := by
  unfold attemptsOn
  rw [List.find?_filter]
  congr 3
  funext attempt
  by_cases same : attempt.sequence = sequence
  · simp [same, kept attempt same]
  · simp [same]

namespace Quarantine

def entriesFor (quarantine : Quarantine) (entity : Entity) (sequence : Nat) : List Quarantined :=
  quarantine.entries.filter fun entry => entry.entity == entity && entry.sequence == sequence

/-- Each entry has an id of its own, which was given out, and a place of its own. -/
structure Keyed (quarantine : Quarantine) : Prop where
  ids : (quarantine.entries.map (·.id)).Nodup
  given : ∀ entry ∈ quarantine.entries, entry.id ≤ quarantine.lastId
  places : (quarantine.entries.map fun entry => (entry.entity, entry.sequence)).Nodup

variable {quarantine : Quarantine} {entry existing : Quarantined} {entity : Entity}

theorem empty_keyed : empty.Keyed := ⟨List.nodup_nil, nofun, List.nodup_nil⟩

/-- What replacing an entry by its successor does to the entries: the others have
other places, and they stay. -/
theorem Keyed.replace (keyed : quarantine.Keyed) (member : existing ∈ quarantine.entries)
    (same : entry.id = existing.id) : ∃ before after,
      quarantine.entries = before ++ existing :: after ∧
      Quarantine.replace quarantine.entries entry = before ++ entry :: after ∧
      ∀ other ∈ before ++ after,
        (other.entity, other.sequence) ≠ (existing.entity, existing.sequence) := by
  obtain ⟨before, after, shape⟩ := List.append_of_mem member
  have apart {α : Type} {key : Quarantined → α} (unique : (quarantine.entries.map key).Nodup) :
      ∀ other ∈ before ++ after, key other ≠ key existing := by
    rw [shape, List.map_append, List.map_cons, List.nodup_middle, ← List.map_append,
      List.nodup_cons] at unique
    exact fun other there taken => unique.1 (taken ▸ List.mem_map_of_mem there)
  refine ⟨before, after, shape, ?_, apart keyed.places⟩
  have kept {others : List Quarantined} (inside : ∀ other ∈ others, other ∈ before ++ after) :
      (others.map fun other => if other.id = entry.id then entry else other) = others := by
    conv_rhs => rw [← List.map_id others]
    apply List.map_congr_left
    intro other there
    rw [if_neg fun taken => apart keyed.ids other (inside other there) (taken.trans same), id]
  rw [Quarantine.replace, shape, List.map_append, List.map_cons, if_pos same.symm,
    kept fun other => List.mem_append_left after, kept fun other => List.mem_append_right before]

theorem mem_entriesFor {sequence : Nat} : entry ∈ quarantine.entriesFor entity sequence ↔
    entry ∈ quarantine.entries ∧ (entry.entity, entry.sequence) = (entity, sequence) := by
  simp [entriesFor]

theorem entriesFor_eq_nil {sequence : Nat}
    (apart : ∀ other ∈ quarantine.entries, (other.entity, other.sequence) ≠ (entity, sequence)) :
    quarantine.entriesFor entity sequence = [] := by
  apply List.eq_nil_iff_forall_not_mem.mpr
  intro other member
  exact apart other (mem_entriesFor.mp member).1 (mem_entriesFor.mp member).2

private theorem unplaced {sequence : Nat}
    (different : (entity, sequence) ≠ (entry.entity, entry.sequence)) :
    (entry.entity == entity && entry.sequence == sequence) = false := by
  rw [Bool.eq_false_iff]
  intro placed
  simp only [Bool.and_eq_true, beq_iff_eq, ← Prod.mk.injEq] at placed
  exact different placed.symm

theorem at?_eq_some {sequence : Nat} (found : quarantine.at? entity sequence = some existing) :
    existing ∈ quarantine.entries ∧ existing.entity = entity ∧ existing.sequence = sequence := by
  refine ⟨List.mem_of_find?_eq_some found, ?_⟩
  simpa using List.find?_some found

theorem at?_eq_none {sequence : Nat} (absent : quarantine.at? entity sequence = none) :
    ∀ other ∈ quarantine.entries, (other.entity, other.sequence) ≠ (entity, sequence) := by
  intro other member same
  have unplaced := List.find?_eq_none.mp absent other member
  simp only [Bool.and_eq_true, beq_iff_eq, ← Prod.mk.injEq] at unplaced
  exact unplaced same

section
variable {given : Nat} (keyed : quarantine.Keyed) (member : existing ∈ quarantine.entries)
  (sameId : entry.id = existing.id) (sameEntity : entry.entity = existing.entity)
  (sameSequence : entry.sequence = existing.sequence)
include keyed member sameId sameEntity sameSequence

theorem Keyed.replaced (later : quarantine.lastId ≤ given) :
    (⟨Quarantine.replace quarantine.entries entry, given⟩ : Quarantine).Keyed := by
  obtain ⟨before, after, shape, replaced, _⟩ := keyed.replace member sameId
  have ids := keyed.ids
  have places := keyed.places
  rw [shape] at ids places
  rw [replaced]
  refine ⟨?_, ?_, ?_⟩
  · simpa [sameId] using ids
  · intro other there
    rcases List.mem_append.mp there with early | late
    · exact Nat.le_trans (keyed.given other (shape ▸ List.mem_append_left _ early)) later
    · rcases List.mem_cons.mp late with rfl | late
      · rw [sameId]
        exact Nat.le_trans (keyed.given existing member) later
      · exact Nat.le_trans (keyed.given other (shape ▸ by simp [late])) later
  · simpa [sameEntity, sameSequence] using places

theorem Keyed.entriesFor_replaced :
    (⟨Quarantine.replace quarantine.entries entry, given⟩ : Quarantine).entriesFor entry.entity
      entry.sequence = [entry] := by
  obtain ⟨before, after, shape, replaced, apart⟩ := keyed.replace member sameId
  have nothing {others : List Quarantined} (inside : ∀ other ∈ others, other ∈ before ++ after) :
      (others.filter fun other =>
        other.entity == entry.entity && other.sequence == entry.sequence) = [] := by
    apply List.filter_eq_nil_iff.mpr
    intro other there placed
    simp only [Bool.and_eq_true, beq_iff_eq, sameEntity, sameSequence, ← Prod.mk.injEq] at placed
    exact apart other (inside other there) placed
  rw [entriesFor, replaced, List.filter_append, List.filter_cons,
    nothing fun other => List.mem_append_left after,
    nothing fun other => List.mem_append_right before]
  simp

theorem Keyed.entriesFor_replaced_other {sequence : Nat}
    (different : (entity, sequence) ≠ (entry.entity, entry.sequence)) :
    (⟨Quarantine.replace quarantine.entries entry, given⟩ : Quarantine).entriesFor entity sequence =
      quarantine.entriesFor entity sequence := by
  obtain ⟨before, after, shape, replaced, _⟩ := keyed.replace member sameId
  rw [entriesFor, entriesFor, replaced, shape]
  simp only [List.filter_append, List.filter_cons, unplaced different, ← sameEntity, ← sameSequence,
    Bool.false_eq_true, ↓reduceIte]

end

theorem put_entry (quarantine : Quarantine) (entry : Quarantined) :
    ∃ id, (quarantine.put entry).2 = { entry with id } := by
  unfold put
  split
  · exact ⟨_, rfl⟩
  · exact ⟨_, rfl⟩

theorem Keyed.put (keyed : quarantine.Keyed) (entry : Quarantined) :
    (quarantine.put entry).1.Keyed := by
  unfold Quarantine.put
  split
  · rename_i existing found
    obtain ⟨member, sameEntity, sameSequence⟩ := at?_eq_some found
    exact keyed.replaced member rfl sameEntity.symm sameSequence.symm (Nat.le_succ _)
  · rename_i absent
    have apart := at?_eq_none absent
    have fresh (other : Quarantined) (there : other ∈ quarantine.entries) :
        other.id ≠ quarantine.lastId + 1 := by
      have := keyed.given other there
      omega
    refine ⟨?_, ?_, ?_⟩
    · simpa [List.nodup_append, keyed.ids] using fresh
    · intro other there
      rcases List.mem_append.mp there with early | last
      · exact Nat.le_succ_of_le (keyed.given other early)
      · rw [List.mem_singleton.mp last]
    · simpa [List.nodup_append, keyed.places] using apart

/-- Whatever there was for its place, an entry that is taken in is the only one. -/
theorem Keyed.entriesFor_put_same (keyed : quarantine.Keyed) (entry : Quarantined) :
    (quarantine.put entry).1.entriesFor entry.entity entry.sequence =
      [(quarantine.put entry).2] := by
  unfold Quarantine.put
  split
  · rename_i existing found
    obtain ⟨member, sameEntity, sameSequence⟩ := at?_eq_some found
    exact @Keyed.entriesFor_replaced quarantine { entry with id := existing.id } existing _ keyed
      member rfl sameEntity.symm sameSequence.symm
  · rename_i absent
    have nothing := entriesFor_eq_nil (at?_eq_none absent)
    rw [entriesFor] at nothing
    rw [entriesFor, List.filter_append, nothing]
    simp

theorem Keyed.entriesFor_put_other (keyed : quarantine.Keyed) {entry : Quarantined}
    {sequence : Nat} (different : (entity, sequence) ≠ (entry.entity, entry.sequence)) :
    (quarantine.put entry).1.entriesFor entity sequence =
      quarantine.entriesFor entity sequence := by
  unfold Quarantine.put
  split
  · rename_i existing found
    obtain ⟨member, sameEntity, sameSequence⟩ := at?_eq_some found
    exact @Keyed.entriesFor_replaced_other quarantine { entry with id := existing.id } existing _ _
      keyed member rfl sameEntity.symm sameSequence.symm _ different
  · simp [entriesFor, List.filter_append, unplaced different]

end Quarantine

def failures (store : Store) (entity : Entity) (sequence : Nat) : Nat :=
  attemptsOn sequence (store.attempts.get entity)

def Lists (store : Store) (entity : Entity) (sequence : Nat) : Prop :=
  ∃ attempt ∈ store.attempts.get entity, attempt.sequence = sequence

/-- Both tables are in order: a record has one line in each of them at most. -/
structure Booked (store : Store) : Prop where
  attempts : ∀ entity, (store.attempts.get entity).Pairwise (·.sequence < ·.sequence)
  quarantine : store.quarantine.Keyed

variable {store after : Store} {entity about : Entity} {record : Surrender} {author : Author}
  {id count : Nat}

theorem empty_booked : empty.Booked := by
  refine ⟨?_, Quarantine.empty_keyed⟩
  intro entity
  cases entity <;> exact List.Pairwise.nil

theorem Booked.beside (booked : store.Booked) (attempts : after.attempts = store.attempts)
    (quarantine : after.quarantine = store.quarantine) : after.Booked := by
  refine ⟨?_, ?_⟩
  · rw [attempts]
    exact booked.attempts
  · rw [quarantine]
    exact booked.quarantine

/-- The lines of one kind in the ledger are replaced. -/
theorem Booked.set (booked : store.Booked) {attempts : List Attempt}
    (ordered : attempts.Pairwise (·.sequence < ·.sequence))
    (kept : after.attempts = store.attempts.set about attempts)
    (keyed : after.quarantine.Keyed) : after.Booked := by
  refine ⟨?_, keyed⟩
  intro entity
  rw [kept]
  by_cases same : entity = about
  · subst same
    rwa [PerEntity.get_set_same]
  · rw [PerEntity.get_set_of_ne _ _ same]
    exact booked.attempts entity

theorem failures_of_not_lists (unlisted : ¬ store.Lists entity sequence) :
    store.failures entity sequence = 0 :=
  attemptsOn_of_absent fun attempt member same => unlisted ⟨attempt, member, same⟩

theorem recordFailure_eq_ok
    (recorded : store.recordFailure entity sequence externalId error now = .ok (count, after)) :
    count = after.failures entity sequence ∧ after = { store with
      attempts := store.attempts.set entity
        (addFailure sequence externalId error (kept now) (store.attempts.get entity)) } := by
  unfold recordFailure at recorded
  split at recorded
  · cases recorded
  · cases recorded
    exact ⟨by rw [failures, PerEntity.get_set_same], rfl⟩

theorem Booked.recordFailure (booked : store.Booked)
    (recorded : store.recordFailure entity sequence externalId error now = .ok (count, after)) :
    after.Booked := by
  obtain ⟨_, rfl⟩ := recordFailure_eq_ok recorded
  exact booked.set (addFailure_pairwise (booked.attempts entity)) rfl booked.quarantine

/-- A failure that is recorded counts once, and the count is returned. -/
theorem Booked.failures_recordFailure (booked : store.Booked)
    (recorded : store.recordFailure entity sequence externalId error now = .ok (count, after)) :
    after.failures entity sequence = store.failures entity sequence + 1 ∧
      count = store.failures entity sequence + 1 := by
  obtain ⟨counted, rfl⟩ := recordFailure_eq_ok recorded
  have one : attemptsOn sequence ((store.attempts.set entity
      (addFailure sequence externalId error (kept now) (store.attempts.get entity))).get entity) =
      store.failures entity sequence + 1 := by
    rw [PerEntity.get_set_same]
    exact attemptsOn_addFailure_same (booked.attempts entity)
  exact ⟨one, counted.trans one⟩

/-- The ledger takes in a failure at any position that it can hold. -/
theorem recordFailure_of_held (held : sequence ≤ greatestPosition) (entity : Entity)
    (externalId : Option String) (error : String) (now : Instant) (store : Store) :
    ∃ count after,
      store.recordFailure entity sequence externalId error now = .ok (count, after) := by
  unfold recordFailure
  rw [if_neg (Nat.not_lt.mpr held)]
  exact ⟨_, _, rfl⟩

theorem surrender_of_held (held : record.sequence ≤ greatestPosition) (author : Author)
    (store : Store) : ∃ id after, store.surrender author record = .ok (id, after) := by
  unfold surrender
  rw [if_neg (Nat.not_lt.mpr held)]
  exact ⟨_, _, rfl⟩

theorem surrender_eq_ok (given : store.surrender author record = .ok (id, after)) :
    ∃ entry : Quarantined, entry.entity = record.entity ∧ entry.sequence = record.sequence ∧
      entry.attempts = record.attempts ∧ entry.payload = record.payload ∧ entry.isOpen = true ∧
      after.quarantine = (store.quarantine.put entry).1 ∧
      after.attempts = store.attempts.set record.entity
        ((store.attempts.get record.entity).filter (·.sequence != record.sequence)) := by
  unfold surrender at given
  split at given
  · cases given
  · cases given
    exact ⟨_, rfl, rfl, rfl, rfl, rfl, rfl, rfl⟩

theorem Booked.surrender (booked : store.Booked)
    (given : store.surrender author record = .ok (id, after)) : after.Booked := by
  obtain ⟨entry, _, _, _, _, _, quarantine, attempts⟩ := surrender_eq_ok given
  exact booked.set ((booked.attempts record.entity).filter _) attempts
    (quarantine ▸ booked.quarantine.put entry)

/-- A record is given up: the quarantine has one open entry for it, with its payload
and the count of its attempts, and the ledger has no line for it any more. -/
structure GivenUp (store : Store) (entity : Entity) (sequence attempts : Nat) (payload : String) :
    Prop where
  entry : ∃ entry, store.quarantine.entriesFor entity sequence = [entry] ∧
    entry.isOpen = true ∧ entry.attempts = attempts ∧ entry.payload = payload
  unlisted : ¬ store.Lists entity sequence

theorem Quarantine.Keyed.givenUp (keyed : store.quarantine.Keyed)
    (given : store.surrender author record = .ok (id, after)) :
    after.GivenUp record.entity record.sequence record.attempts record.payload := by
  obtain ⟨entry, entity, sequence, attempts, payload, isOpen, quarantine, ledger⟩ :=
    surrender_eq_ok given
  obtain ⟨newId, put⟩ := store.quarantine.put_entry entry
  refine ⟨⟨(store.quarantine.put entry).2, ?_, ?_, ?_, ?_⟩, ?_⟩
  · rw [quarantine, ← entity, ← sequence]
    exact keyed.entriesFor_put_same entry
  · rw [put]
    exact isOpen
  · rw [put]
    exact attempts
  · rw [put]
    exact payload
  · rintro ⟨attempt, member, same⟩
    rw [ledger, PerEntity.get_set_same] at member
    have kept := (List.mem_filter.mp member).2
    simp [same] at kept

theorem Booked.givenUp (booked : store.Booked)
    (given : store.surrender author record = .ok (id, after)) :
    after.GivenUp record.entity record.sequence record.attempts record.payload :=
  booked.quarantine.givenUp given

theorem clearAttempts_eq_ok (cleared : store.clearAttempts entity position = .ok after) :
    after = { store with
      attempts := store.attempts.set entity ((store.attempts.get entity).filter fun attempt =>
        position < attempt.sequence) } := by
  unfold clearAttempts at cleared
  split at cleared
  · cases cleared
  · cases cleared
    rfl

theorem Booked.clearAttempts (booked : store.Booked)
    (cleared : store.clearAttempts entity position = .ok after) : after.Booked := by
  rw [clearAttempts_eq_ok cleared]
  exact booked.set ((booked.attempts entity).filter _) rfl booked.quarantine

theorem Booked.resolve (booked : store.Booked) {key : Int} {comment : Option String}
    {wasOpen : Bool} (resolved : store.resolve author key comment = some (wasOpen, after)) :
    after.Booked := by
  unfold Store.resolve at resolved
  split at resolved
  · cases resolved
  · rename_i entry found
    split at resolved
    · cases resolved
      exact ⟨booked.attempts, booked.quarantine.replaced (List.mem_of_find?_eq_some found) rfl rfl
        rfl (Nat.le_refl _)⟩
    · cases resolved
      exact booked

theorem Booked.orSame (booked : store.Booked) {result : Except SyncFault Store}
    (kept : ∀ after, result = .ok after → after.Booked) : (store.orSame result).Booked := by
  cases result with
  | error fault => exact booked
  | ok after => exact kept after rfl

theorem Booked.perform (booked : store.Booked) (operation : Operation) :
    (store.perform operation).Booked := by
  cases operation with
  | upsert author row =>
    apply booked.orSame
    intro after done
    rw [upsert_eq_withRecordsOf done]
    exact booked.beside rfl rfl
  | delete author entity externalId =>
    unfold Store.perform Store.delete
    dsimp only
    split
    · exact booked
    · exact booked.beside rfl rfl
  | recordFailure entity sequence externalId error now =>
    apply booked.orSame
    intro after done
    obtain ⟨⟨_, _⟩, recorded, rfl⟩ := map_eq_ok_iff.mp done
    exact booked.recordFailure recorded
  | surrender author record =>
    apply booked.orSame
    intro after done
    obtain ⟨⟨_, _⟩, given, rfl⟩ := map_eq_ok_iff.mp done
    exact booked.surrender given
  | clearAttempts entity position => exact booked.orSame fun after => booked.clearAttempts
  | resolve author key comment =>
    unfold Store.perform
    dsimp only
    split
    · rename_i resolved
      exact booked.resolve resolved
    · exact booked
  | advanceCursor entity expected next now =>
    apply booked.orSame
    intro after done
    obtain ⟨_, _, rfl⟩ := advanceCursor_eq_ok done
    exact booked.beside rfl rfl
  | resetCursor author entity => exact booked.beside rfl rfl
  | unserved => exact booked

/-- Whatever was asked of a store that was empty at first, its ledger and its
quarantine are in order. -/
theorem foldl_perform_booked (operations : List Operation) :
    (operations.foldl perform empty).Booked := by
  have kept (store : Store) (booked : store.Booked) : (operations.foldl perform store).Booked := by
    induction operations generalizing store with
    | nil => exact booked
    | cons operation rest ih => exact ih _ (booked.perform operation)
  exact kept empty empty_booked

/-- What was done is no matter for a record, but that its line in the ledger may be
cleared. -/
structure Apart (entity : Entity) (sequence : Nat) (before after : Store) : Prop where
  booked : after.Booked
  listed : after.Lists entity sequence → before.Lists entity sequence
  entries : after.quarantine.entriesFor entity sequence =
    before.quarantine.entriesFor entity sequence

/-- What was done is no matter for a record at all. -/
structure Untouched (entity : Entity) (sequence : Nat) (before after : Store) : Prop
    extends before.Apart entity sequence after where
  failures : after.failures entity sequence = before.failures entity sequence

theorem Apart.trans {first second third : Store} (one : first.Apart entity sequence second)
    (two : second.Apart entity sequence third) : first.Apart entity sequence third :=
  ⟨two.booked, fun listed => one.listed (two.listed listed), two.entries.trans one.entries⟩

theorem Untouched.trans {first second third : Store} (one : first.Untouched entity sequence second)
    (two : second.Untouched entity sequence third) : first.Untouched entity sequence third :=
  ⟨one.toApart.trans two.toApart, two.failures.trans one.failures⟩

theorem Booked.untouched (booked : store.Booked) (attempts : after.attempts = store.attempts)
    (quarantine : after.quarantine = store.quarantine) : store.Untouched entity sequence after := by
  refine ⟨⟨booked.beside attempts quarantine, ?_, by rw [quarantine]⟩, ?_⟩
  · rw [Lists, attempts]
    exact id
  · rw [failures, attempts, failures]

/-- A store that did not change touched no record. -/
theorem Booked.still (booked : store.Booked) (same : after = store) :
    store.Untouched entity sequence after := by
  subst same
  exact booked.untouched rfl rfl

theorem Booked.untouched_apply (booked : store.Booked) {actor : String} {change : Change}
    {outcome : Change.Outcome}
    (applied : store.apply actor change now = .ok (outcome, after)) :
    store.Untouched entity sequence after :=
  booked.untouched (apply_attempts applied) (apply_quarantine applied)

theorem Booked.untouched_recordFailure (booked : store.Booked) (different : sequence ≠ other)
    (recorded : store.recordFailure entity other externalId error now = .ok (count, after)) :
    store.Untouched entity sequence after := by
  have kept := booked.recordFailure recorded
  obtain ⟨_, rfl⟩ := recordFailure_eq_ok recorded
  refine ⟨⟨kept, ?_, rfl⟩, ?_⟩
  · rintro ⟨attempt, member, same⟩
    rw [PerEntity.get_set_same] at member
    rcases mem_addFailure member with new | old
    · exact absurd (same.symm.trans new) different
    · exact ⟨attempt, old, same⟩
  · rw [failures, PerEntity.get_set_same]
    exact attemptsOn_addFailure_of_ne different

theorem Lists.of_same (same : after.attempts.get entity = store.attempts.get entity)
    (listed : after.Lists entity sequence) : store.Lists entity sequence := by
  unfold Lists
  rwa [← same]

/-- A line that goes with a filter was there before. -/
theorem Lists.of_filter {keeps : Attempt → Bool}
    (ledger : after.attempts = store.attempts.set entity ((store.attempts.get entity).filter keeps))
    (listed : after.Lists entity sequence) : store.Lists entity sequence := by
  obtain ⟨attempt, member, same⟩ := listed
  rw [ledger, PerEntity.get_set_same] at member
  exact ⟨attempt, (List.mem_filter.mp member).1, same⟩

theorem failures_of_filter {keeps : Attempt → Bool}
    (ledger : after.attempts = store.attempts.set entity ((store.attempts.get entity).filter keeps))
    (kept : ∀ attempt, attempt.sequence = sequence → keeps attempt = true) :
    after.failures entity sequence = store.failures entity sequence := by
  rw [failures, ledger, PerEntity.get_set_same]
  exact attemptsOn_filter kept

theorem Booked.untouched_surrender (booked : store.Booked) (different : sequence ≠ record.sequence)
    (given : store.surrender author record = .ok (id, after)) :
    store.Untouched record.entity sequence after := by
  have kept := booked.surrender given
  obtain ⟨entry, sameEntity, sameSequence, _, _, _, quarantine, ledger⟩ := surrender_eq_ok given
  refine ⟨⟨kept, Lists.of_filter ledger, ?_⟩, failures_of_filter ledger ?_⟩
  · rw [quarantine]
    apply booked.quarantine.entriesFor_put_other
    intro same
    exact different ((congrArg Prod.snd same).trans sameSequence)
  · intro attempt same
    simpa [same] using different

theorem Booked.apart_clearAttempts (booked : store.Booked)
    (cleared : store.clearAttempts entity position = .ok after) :
    store.Apart entity sequence after := by
  have kept := booked.clearAttempts cleared
  rw [clearAttempts_eq_ok cleared] at kept ⊢
  exact ⟨kept, Lists.of_filter rfl, rfl⟩

/-- Records ahead of the position are not cleared. -/
theorem Booked.untouched_clearAttempts (booked : store.Booked) (ahead : position < sequence)
    (cleared : store.clearAttempts entity position = .ok after) :
    store.Untouched entity sequence after := by
  refine ⟨booked.apart_clearAttempts cleared, ?_⟩
  rw [clearAttempts_eq_ok cleared]
  apply failures_of_filter rfl
  intro attempt same
  simpa [same] using ahead

/-- A record that was given up stays so, whatever is done about others. -/
theorem GivenUp.apart {payload : String} (givenUp : store.GivenUp entity sequence count payload)
    (apart : store.Apart entity sequence after) : after.GivenUp entity sequence count payload := by
  refine ⟨?_, fun listed => givenUp.unlisted (apart.listed listed)⟩
  rw [apart.entries]
  exact givenUp.entry

end Store

end RecordSync
