import RecordSync.Proofs.Bookkeeping
import RecordSync.Proofs.Window

/-! The attempts on one record within one run. They are bounded, and what follows
once they are used up depends on the last fault and on the ledger alone. The
ledger and the quarantine change for no other record. -/

namespace RecordSync

def SyncFault.isDatabase : SyncFault → Bool
  | .store _ => true
  | _ => false

theorem SyncFault.countsTowardQuarantine_eq (fault : SyncFault) :
    fault.countsTowardQuarantine = fault.isDatabase := by
  cases fault <;> rfl

end RecordSync

namespace RecordSync.Run

open RecordSync.Calendar RecordSync.Change RecordSync.Feed RecordSync.Record RecordSync.Store
open Work

variable {σ : Type}

/-- Nothing changed but rows, the log, the ledger and the quarantine, and those two
are in order. -/
structure Desk.Attended (before after : Desk σ) : Prop extends before.SameBeside after where
  cursors : after.store.cursors = before.store.cursors
  booked : after.store.Booked

theorem Desk.Attended.refl {desk : Desk σ} (booked : desk.store.Booked) : desk.Attended desk :=
  ⟨.refl desk, rfl, booked⟩

theorem Desk.Alike.attended {before after : Desk σ} (alike : before.Alike after)
    (booked : before.store.Booked) : before.Attended after :=
  ⟨alike.toSameBeside, by rw [alike.store], by rwa [alike.store]⟩

theorem Desk.Attended.trans {first second third : Desk σ} (one : first.Attended second)
    (two : second.Attended third) : first.Attended third :=
  ⟨one.toSameBeside.trans two.toSameBeside, two.cursors.trans one.cursors, two.booked⟩

/-- What a run leaves of a record that it put off: so many failures, and the entries
for it in the quarantine as they were. -/
structure Desk.PutOff (before : Desk σ) (entity : Entity) (sequence count : Nat)
    (after : Desk σ) : Prop extends before.Attended after where
  failures : after.store.failures entity sequence = count
  entries : after.store.quarantine.entriesFor entity sequence =
    before.store.quarantine.entriesFor entity sequence

theorem Desk.PutOff.of_alike {before between after : Desk σ} {entity : Entity}
    {sequence count : Nat} (alike : before.Alike between)
    (putOff : between.PutOff entity sequence count after) :
    before.PutOff entity sequence count after := by
  refine ⟨⟨alike.toSameBeside.trans putOff.toSameBeside, ?_, putOff.booked⟩, putOff.failures, ?_⟩
  · rw [putOff.cursors, alike.store]
  · rw [putOff.entries, alike.store]

namespace Worker

/-- So many attempts on a change in a row, all of which fail; between two of them the
worker is not told to stop, and waits. The last one fails with a fault, at an
instant. -/
inductive Fails (worker : Worker σ) (change : Change) (start : Desk σ) :
    Nat → SyncFault → Instant → Desk σ → Prop where
  | first {fault : SyncFault} {now : Instant} {after : Desk σ}
      (tried : (worker.applyOnce change).exec start = (.ok (.error (fault, now)), after)) :
      Fails worker change start 1 fault now after
  | again {retry : Nat} {earlier fault : SyncFault} {before now : Instant}
      {between asked rested after : Desk σ}
      (failed : Fails worker change start (retry + 1) earlier before between)
      (going : worker.isCancelled.exec between = (.ok false, asked))
      (waited : (worker.wait (worker.options.retry.delay retry)).exec asked = (.ok (), rested))
      (tried : (worker.applyOnce change).exec rested = (.ok (.error (fault, now)), after)) :
      Fails worker change start (retry + 2) fault now after

/-- The attempts that a worker makes on a record in one run. -/
def tries (worker : Worker σ) : Nat := max 1 worker.options.retry.attemptsPerRun

/-- A run uses up its attempts on a record, without being told to stop. -/
inductive RunsOut (worker : Worker σ) (entry : Entry) (desk : Desk σ) (fault : SyncFault)
    (now : Instant) (spent : Desk σ) : Prop where
  | intro {asked : Desk σ} (going : worker.isCancelled.exec desk = (.ok false, asked))
      (fails : worker.Fails (decode entry.delivery) asked worker.tries fault now spent)

/-- What follows an attempt that failed, if so many more may be made. -/
def afterFault (worker : Worker σ) (entity : Entity) (entry : Entry) (change : Change)
    (retry : Nat) (fault : SyncFault) (now : Instant) : Nat → Work σ Ending
  | 0 => worker.deferOrSurrender entity entry change fault now
  | left + 1 => do
    if ← worker.isCancelled then worker.deferOrSurrender entity entry change fault now
    else
      worker.wait (worker.options.retry.delay retry)
      worker.applyWithRetries entity entry change (retry + 1) left

variable {worker : Worker σ} {entity : Entity} {entry : Entry} {change : Change}
  {desk spent after : Desk σ} {fault : SyncFault} {now : Instant} {retry count : Nat}

theorem exec_applyWithRetries (tried : (worker.applyOnce change).exec desk =
    (.ok (.error (fault, now)), after)) (left : Nat) :
    (worker.applyWithRetries entity entry change retry left).exec desk =
      (worker.afterFault entity entry change retry fault now left).exec after := by
  cases left with
  | zero =>
    unfold applyWithRetries
    rw [exec_bind_of_ok tried]
    rfl
  | succ left =>
    unfold applyWithRetries
    rw [exec_bind_of_ok tried]
    rfl

/-- After so many failures the worker is left with so many attempts fewer. -/
theorem Fails.exec (fails : worker.Fails change desk (retry + 1) fault now spent) (left : Nat) :
    (worker.applyWithRetries entity entry change 0 (retry + left)).exec desk =
      (worker.afterFault entity entry change retry fault now left).exec spent := by
  generalize made : retry + 1 = attempts at fails
  induction fails generalizing retry left with
  | first tried =>
    obtain rfl : retry = 0 := by omega
    rw [Nat.zero_add]
    exact exec_applyWithRetries tried left
  | @again retries earlier fault before now between asked rested after failed going waited tried
      ih =>
    obtain rfl : retry = retries + 1 := by omega
    rw [Nat.add_right_comm, Nat.add_assoc, ih (left + 1) rfl]
    unfold afterFault
    rw [exec_bind_of_ok going]
    simp only [Bool.false_eq_true, ↓reduceIte]
    rw [exec_bind_of_ok waited]
    exact exec_applyWithRetries tried left

/-- Attempts that fail change nothing, and each of them met a transient fault. -/
theorem Fails.alike (fails : worker.Fails change desk count fault now spent) :
    desk.Alike spent ∧ fault.isTransient = true := by
  induction fails with
  | first tried =>
    obtain ⟨alike, transient, _⟩ := (worker.applyOnce_ends change desk).of_exec tried
    exact ⟨alike, transient⟩
  | @again retries earlier fault before now between asked rested after failed going waited tried
      ih =>
    obtain ⟨alike, transient, _⟩ := (worker.applyOnce_ends change rested).of_exec tried
    have asking := ((worker.isCancelled_ends between).of_exec going).2
    have waiting := ((worker.wait_ends _ asked).of_exec waited).2
    exact ⟨((ih.1.trans asking).trans waiting).trans alike, transient⟩

theorem RunsOut.alike (out : worker.RunsOut entry desk fault now spent) :
    desk.Alike spent ∧ fault.isTransient = true := by
  obtain ⟨going, fails⟩ := out
  obtain ⟨alike, transient⟩ := fails.alike
  exact ⟨((worker.isCancelled_ends desk).of_exec going).2.trans alike, transient⟩

/-- Once its attempts are used up, a record is put off or given up. -/
theorem RunsOut.exec_step (out : worker.RunsOut entry desk fault now spent)
    (real : worker.options.dryRun = false) {progress : Progress} (going : progress.stop = none) :
    (worker.step entity progress entry).exec desk =
      (progress.note worker.options entry.sequence <$>
        worker.deferOrSurrender entity entry (decode entry.delivery) fault now).exec spent := by
  obtain @⟨asked, uncancelled, fails⟩ := out
  have last : worker.tries = worker.options.retry.attemptsPerRun - 1 + 1 := by
    unfold tries
    omega
  rw [last] at fails
  have dealt : (worker.dealWith entity progress.planned entry).exec asked = exec (do
      let ending ← worker.deferOrSurrender entity entry (decode entry.delivery) fault now
      return (ending, progress.planned)) spent := by
    unfold dealWith
    simp only [real, Bool.false_eq_true, ↓reduceIte]
    rw [exec_bind, exec_bind, ← Nat.add_zero (_ - 1), fails.exec 0]
    rfl
  have kept (ending : Ending) : { progress.note worker.options entry.sequence ending with
      planned := progress.planned } = progress.note worker.options entry.sequence ending := by
    cases ending <;> rfl
  unfold step
  simp only [going, Option.isSome_none, Bool.false_eq_true, ↓reduceIte]
  rw [exec_bind_of_ok uncancelled]
  simp only [Bool.false_eq_true, ↓reduceIte]
  rw [exec_bind, dealt, map_eq_pure_bind, exec_bind, exec_bind]
  rcases (worker.deferOrSurrender entity entry (decode entry.delivery) fault now).exec spent with
    ⟨refused | ending, later⟩
  · rfl
  · simp only [exec_pure, kept]

/-- The cursor and the ledger of a feed serve for a record: the calls to them meet no
fault, and they can hold its position. -/
structure Dependable (worker : Worker σ) (entity : Entity) (sequence : Nat) : Prop where
  held : sequence ≤ greatestPosition
  advanceCursor : ∀ around, (worker.surroundings.meet (.advanceCursor entity) around).1 = none
  recordFailure : ∀ externalId around,
    (worker.surroundings.meet (.recordFailure entity externalId) around).1 = none
  surrender : ∀ externalId around,
    (worker.surroundings.meet (.surrender entity externalId) around).1 = none

/-- The counted failures after which a record is given up. -/
def ceiling (worker : Worker σ) : Nat := max 1 worker.options.retry.maxAttempts

theorem meet_serves {call : Call}
    (served : ∀ around, (worker.surroundings.meet call around).1 = none) (desk : Desk σ) :
    (worker.meet call).Answers desk fun _ after => desk.Alike after := by
  unfold Answers Ends
  rw [exec_meet, served]
  exact ⟨(), rfl, ⟨rfl, rfl⟩, rfl⟩

theorem meet_onStore_serves {call : Call} {operation : Store → Except SyncFault (Nat × Store)}
    {value : Nat} {store : Store}
    (served : ∀ around, (worker.surroundings.meet call around).1 = none)
    (done : operation desk.store = .ok (value, store)) :
    Answers (do worker.meet call; onStore operation) desk fun answer after =>
      answer = value ∧ desk.SameBeside after ∧ after.store = store := by
  apply (meet_serves served desk).bind
  intro _ between alike
  unfold Answers Ends
  rw [exec_onStore, alike.store, done]
  exact ⟨value, rfl, rfl, ⟨alike.memory, alike.source⟩, rfl⟩

section
variable (dependable : worker.Dependable entity entry.sequence) (booked : desk.store.Booked)
include dependable booked

/-- The ledger counts a failure and returns the count. -/
theorem recordFailure_answers :
    Answers (do
      worker.meet (.recordFailure entity change.externalId?)
      onStore fun store =>
        store.recordFailure entity entry.sequence change.externalId? fault.message now) desk
      fun attempts after => attempts = desk.store.failures entity entry.sequence + 1 ∧
        desk.PutOff entity entry.sequence attempts after := by
  obtain ⟨count, ledger, recorded⟩ :=
    recordFailure_of_held dependable.held entity change.externalId? fault.message now desk.store
  obtain ⟨failures, returned⟩ := booked.failures_recordFailure recorded
  have frame := recordFailure_onlyAttempts recorded
  apply (meet_onStore_serves (dependable.recordFailure _) recorded).mono
  rintro _ after ⟨rfl, beside, rfl⟩
  exact ⟨returned, ⟨beside, frame.cursors, booked.recordFailure recorded⟩,
    failures.trans returned.symm, by rw [frame.quarantine]⟩

/-- A record is put off, unless a failure is counted that reaches the ceiling. A
refused write is never counted. -/
theorem deferOrSurrender_puts_off (below : fault.isDatabase = true →
    desk.store.failures entity entry.sequence + 1 < worker.ceiling) :
    (worker.deferOrSurrender entity entry change fault now).Answers desk fun ending after =>
      ending = .deferred ∧ desk.PutOff entity entry.sequence
        (desk.store.failures entity entry.sequence + fault.isDatabase.toNat) after := by
  unfold deferOrSurrender
  rw [SyncFault.countsTowardQuarantine_eq]
  cases counted : fault.isDatabase with
  | false =>
    simp only [Bool.false_eq_true, ↓reduceIte]
    exact answers_pure _ ⟨rfl, .refl booked, rfl, rfl⟩
  | true =>
    have below := below counted
    unfold ceiling at below
    simp only [↓reduceIte]
    rw [← bind_assoc]
    apply (recordFailure_answers dependable booked).bind
    rintro attempts after ⟨rfl, putOff⟩
    rw [if_neg (by omega)]
    exact answers_pure _ ⟨rfl, putOff⟩

/-- At the ceiling it is given up. -/
theorem deferOrSurrender_gives_up (counted : fault.isDatabase = true)
    (reached : worker.ceiling ≤ desk.store.failures entity entry.sequence + 1) :
    (worker.deferOrSurrender entity entry change fault now).Answers desk fun ending after =>
      ending = .quarantined ∧ desk.Attended after ∧ after.store.GivenUp entity entry.sequence
        (desk.store.failures entity entry.sequence + 1) entry.delivery.payload := by
  unfold ceiling at reached
  unfold deferOrSurrender
  rw [SyncFault.countsTowardQuarantine_eq, if_pos counted, ← bind_assoc]
  apply (recordFailure_answers dependable booked).bind
  rintro attempts noted ⟨rfl, putOff⟩
  rw [if_pos (by omega), ← bind_assoc]
  obtain ⟨id, final, given⟩ := @surrender_of_held ⟨entity, entry.sequence, change.externalId?,
    fault.message, _, entry.delivery.payload⟩ dependable.held ⟨worker.actor, now⟩ noted.store
  apply (meet_onStore_serves (dependable.surrender _) given).bind
  rintro _ after ⟨rfl, beside, rfl⟩
  exact answers_pure _ ⟨rfl, putOff.toAttended.trans ⟨beside, (surrender_spec given).2.1,
    putOff.booked.surrender given⟩, putOff.booked.givenUp given⟩

end

/-- How a record ends whose attempts are used up is how its window goes on. -/
theorem RunsOut.step_answers (out : worker.RunsOut entry desk fault now spent)
    (real : worker.options.dryRun = false) {progress : Progress} (going : progress.stop = none)
    {post : Ending → Desk σ → Prop}
    (ends : (worker.deferOrSurrender entity entry (decode entry.delivery) fault now).Answers spent
      post) : (worker.step entity progress entry).Answers desk fun next after =>
        ∃ ending, next = progress.note worker.options entry.sequence ending ∧
          post ending after := by
  obtain ⟨ending, after, ran, holds⟩ := ends.exec
  unfold Answers Ends
  rw [out.exec_step real going, map_eq_pure_bind, exec_bind_of_ok ran]
  exact ⟨_, rfl, ending, rfl, holds⟩

section
variable (out : worker.RunsOut entry desk fault now spent) (real : worker.options.dryRun = false)
  {progress : Progress} (going : progress.stop = none)
  (dependable : worker.Dependable entity entry.sequence) (booked : desk.store.Booked)
include out real going dependable booked

theorem RunsOut.puts_off (below : fault.isDatabase = true →
    desk.store.failures entity entry.sequence + 1 < worker.ceiling) :
    (worker.step entity progress entry).Answers desk fun next after =>
      next = progress.note worker.options entry.sequence .deferred ∧
        desk.PutOff entity entry.sequence
          (desk.store.failures entity entry.sequence + fault.isDatabase.toNat) after := by
  have alike := out.alike.1
  rw [← alike.store] at below booked ⊢
  apply (out.step_answers real going
    (deferOrSurrender_puts_off dependable booked below)).mono
  rintro _ after ⟨_, rfl, rfl, putOff⟩
  exact ⟨rfl, putOff.of_alike alike⟩

theorem RunsOut.gives_up (counted : fault.isDatabase = true)
    (reached : worker.ceiling ≤ desk.store.failures entity entry.sequence + 1) :
    (worker.step entity progress entry).Answers desk fun next after =>
      next = progress.note worker.options entry.sequence .quarantined ∧ desk.Attended after ∧
        after.store.GivenUp entity entry.sequence
          (desk.store.failures entity entry.sequence + 1) entry.delivery.payload := by
  have alike := out.alike.1
  have attended := alike.attended booked
  rw [← alike.store] at reached booked ⊢
  apply (out.step_answers real going
    (deferOrSurrender_gives_up dependable booked counted reached)).mono
  rintro _ after ⟨_, rfl, rfl, further, givenUp⟩
  exact ⟨rfl, attended.trans further, givenUp⟩

end

section
variable {sequence : Nat} (booked : desk.store.Booked) (different : sequence ≠ entry.sequence)
include booked different

/-- The ledger and the quarantine change for the record at hand alone. -/
theorem deferOrSurrender_untouched :
    (worker.deferOrSurrender entity entry change fault now).Ends desk fun _ after =>
      desk.store.Untouched entity sequence after.store := by
  unfold deferOrSurrender
  split
  · rw [← bind_assoc]
    apply (worker.meet_onStore_atomic _ _ desk).bind
    · intro fault after alike
      exact booked.still alike.store
    · intro attempts noted atomic
      have kept := booked.untouched_recordFailure different atomic.1
      split
      · rw [← bind_assoc]
        apply (worker.meet_onStore_atomic _ _ noted).bind
        · intro fault after alike
          rw [alike.store]
          exact kept
        · intro id after given
          exact ends_pure _ (kept.trans (kept.booked.untouched_surrender different given.1))
      · exact ends_pure _ kept
  · exact ends_pure _ (booked.still rfl)

theorem dealWith_untouched (real : worker.options.dryRun = false) (planned : Planned) :
    (worker.dealWith entity planned entry).Ends desk fun _ after =>
      desk.store.Untouched entity sequence after.store := by
  unfold dealWith
  simp only [real, Bool.false_eq_true, ↓reduceIte]
  have handled : (worker.applyWithRetries entity entry (decode entry.delivery) 0
      (worker.options.retry.attemptsPerRun - 1)).Ends desk fun _ after =>
        desk.store.Untouched entity sequence after.store := by
    apply applyWithRetries_ends
    · intro outcome around after beside applied
      exact booked.untouched_apply applied
    · intro fault after alike
      exact booked.still alike.store
    · intro fault now between alike _
      rw [← alike.store] at booked ⊢
      exact deferOrSurrender_untouched booked different
  apply handled.bind
  · intro fault after untouched
    exact untouched
  · intro ending after untouched
    exact ends_pure _ untouched

/-- A record of a window is no matter for the others, nor for the cursors and the feed. -/
theorem step_untouched (real : worker.options.dryRun = false) (progress : Progress) :
    (worker.step entity progress entry).Ends desk fun _ after =>
      desk.Attended after ∧ desk.store.Untouched entity sequence after.store := by
  have untouched : (worker.step entity progress entry).Ends desk fun _ after =>
      desk.store.Untouched entity sequence after.store := by
    unfold step
    split
    · exact ends_pure _ (booked.still rfl)
    · apply (worker.isCancelled_ends desk).bind
      · intro fault after told
        exact booked.still told.2.store
      · intro cancelled asked told
        split
        · exact ends_pure _ (booked.still told.2.store)
        · rw [← told.2.store] at booked ⊢
          apply (dealWith_untouched booked different real progress.planned).bind
          · intro fault after untouched
            exact untouched
          · intro answer after untouched
            exact ends_pure _ untouched
  have frame : (worker.step entity progress entry).Ends desk fun _ after =>
      desk.SameBeside after ∧ after.store.cursors = desk.store.cursors := by
    rw [step_eq_attend, map_eq_pure_bind]
    apply (worker.attend_frame entity progress entry desk).bind
    · intro fault after kept
      exact kept
    · intro answer after kept
      exact ends_pure _ kept
  exact ⟨⟨frame.1, frame.2, untouched.booked⟩, untouched⟩

end

/-- The end of a window adds no line to the ledger. -/
theorem settle_lists (worker : Worker σ) (entity : Entity) (tally : Tally) (desk : Desk σ) :
    (worker.settle entity tally).Ends desk fun _ after => ∀ about sequence,
      after.store.Lists about sequence → desk.store.Lists about sequence := by
  apply (worker.settle_clears entity tally desk).mono
  intro result after ends about sequence listed
  cases result with
  | error fault => exact ends.store ▸ listed
  | ok _ =>
    simp only at ends
    split at ends
    · obtain ⟨_, _, around, _, kept | cleared⟩ := ends
      · exact listed.of_same (by rw [kept, Desk.moved_attempts])
      · have ledger := clearAttempts_eq_ok cleared
        rw [Desk.moved_attempts] at ledger
        by_cases same : about = entity
        · subst same
          exact Lists.of_filter (by rw [ledger]) listed
        · exact listed.of_same (by rw [ledger, PerEntity.get_set_of_ne _ _ same])
    · exact ends.store ▸ listed

end Worker

end RecordSync.Run
