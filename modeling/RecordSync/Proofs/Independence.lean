import RecordSync.Proofs.Concord
import RecordSync.Proofs.DryRun

/-! The kinds of records are independent of each other: a run over one leaves the
other alone, so the order in which they are drained does not matter. -/

namespace RecordSync.Run

open RecordSync.Calendar RecordSync.Feed RecordSync.Record RecordSync.Store
open Work

variable {σ : Type} {calm : σ → Prop} {worker : Worker σ} {entity one other : Entity}
  {desk before after : Desk σ}

/-- A desk at which a kind of record was spared agrees on it with the desk before. -/
theorem Desk.Spares.agrees (spares : before.Spares entity after) (quiet : calm before.around)
    (calmly : calm after.around) : before.Agrees calm entity 0 after := by
  obtain ⟨marks, same, kept⟩ := spares.feed
  exact ⟨spares.store.concurs 0, spares.memory, same ▸ .remembering kept, quiet, calmly⟩

theorem Desk.Agrees.symm {given : Nat} (agrees : before.Agrees calm entity given after) :
    after.Agrees calm entity given before :=
  ⟨agrees.store.symm, agrees.memory.symm, agrees.source.symm, agrees.calmly, agrees.quiet⟩

theorem Desk.Agrees.trans {given : Nat} (first : before.Agrees calm entity given desk)
    (second : desk.Agrees calm entity given after) : before.Agrees calm entity given after :=
  ⟨first.store.trans second.store, second.memory.trans first.memory,
    first.source.trans second.source, first.quiet, second.calmly⟩

namespace Worker

/-- Two feeds are drained by a run over each, one after the other. -/
theorem exec_drainAll_pair {maxBatches : Option Nat} {first second : Tally} :
    (worker.drainAll [one, other] maxBatches).exec desk = (.ok [first, second], after) ↔
      ∃ between, (worker.runUntilIdle one maxBatches).exec desk = (.ok first, between) ∧
        (worker.runUntilIdle other maxBatches).exec between = (.ok second, after) := by
  constructor
  · intro drained
    rcases ran : (worker.runUntilIdle one maxBatches).exec desk with ⟨fault | tally, between⟩
    · rw [exec_drainAll_of_error ran] at drained
      cases drained
    · rw [exec_drainAll_of_ok ran] at drained
      rcases alsoRan : (worker.runUntilIdle other maxBatches).exec between with
        ⟨fault | later, final⟩
      · rw [exec_drainAll_of_error alsoRan] at drained
        cases drained
      · rw [exec_drainAll_of_ok alsoRan] at drained
        cases drained
        exact ⟨between, rfl, alsoRan⟩
  · rintro ⟨between, ran, alsoRan⟩
    rw [exec_drainAll_of_ok ran, exec_drainAll_of_ok alsoRan]
    rfl

/-- A run that gives no record up does the same at a desk that agrees. -/
theorem runUntilIdle_same {now : Instant} {bench : Desk σ} {maxBatches : Option Nat}
    {tally : Tally} (steady : worker.surroundings.Steady now calm)
    (agrees : desk.Agrees calm entity 0 bench)
    (ran : (worker.runUntilIdle entity maxBatches).exec desk = (.ok tally, after))
    (kept : tally.quarantined = 0) :
    ∃ final, (worker.runUntilIdle entity maxBatches).exec bench = (.ok tally, final) ∧
      after.Agrees calm entity 0 final := by
  have twin := runUntilIdle_twin steady maxBatches agrees
  obtain ⟨same, agree⟩ := twin.of_exec ran
  refine ⟨_, Prod.ext same rfl, agree.mono fun _ => ?_⟩
  show 0 + tally.quarantined = 0
  rw [kept]

/-- Whatever a run over one kind of record meets, it changes no row, event, cursor,
failure or quarantine entry of the other. While nothing fails and the clock stands
still, both kinds may be drained in either order: the counts, the rows, the ledger, the
cursors and, but for their numbers, the events are the same. -/
theorem kinds_independent (worker : Worker σ) (different : other ≠ one) (desk : Desk σ)
    (keyed : desk.store.quarantine.Keyed) :
    (∀ request, (worker.serve one request).Ends desk fun _ after => desk.Spares other after) ∧
    (∀ (now : Instant) (calm : σ → Prop), worker.surroundings.Steady now calm →
      calm desk.around → ∀ (maxBatches : Option Nat) (first second : Tally) (after : Desk σ),
      (worker.drainAll [one, other] maxBatches).exec desk = (.ok [first, second], after) →
      first.quarantined = 0 → second.quarantined = 0 →
      ∃ final, (worker.drainAll [other, one] maxBatches).exec desk = (.ok [second, first], final) ∧
        final.store.rows = after.store.rows ∧ final.store.attempts = after.store.attempts ∧
        final.store.cursors = after.store.cursors ∧ final.memory = after.memory ∧
        ∀ entity, final.store.log.told entity = after.store.log.told entity ∧
          final.store.quarantine.ofEntity entity = after.store.quarantine.ofEntity entity) := by
  constructor
  · intro request
    exact (worker.serve_spares different request desk keyed).mono fun _ _ spares => spares.1
  · intro now calm steady quiet maxBatches first second after drained keptFirst keptSecond
    obtain ⟨between, ran, alsoRan⟩ := exec_drainAll_pair.mp drained
    -- The other run does at the first desk what it did once the one had left it alone.
    obtain ⟨spared, keyedBetween⟩ :=
      (worker.serve_spares different (.untilIdle maxBatches) desk keyed).of_exec ran
    obtain ⟨_, _, agreeSelf⟩ := runUntilIdle_same steady (.refl one 0 desk quiet) ran keptFirst
    have untouched := spared.agrees quiet agreeSelf.quiet
    obtain ⟨middle, ranEarlier, agreeOther⟩ :=
      runUntilIdle_same steady untouched.symm alsoRan keptSecond
    obtain ⟨sparedOne, keyedMiddle⟩ :=
      (worker.serve_spares different.symm (.untilIdle maxBatches) desk keyed).of_exec ranEarlier
    obtain ⟨final, ranLater, agreeOne⟩ := runUntilIdle_same steady
      (sparedOne.agrees quiet agreeOther.calmly) ran keptFirst
    -- Each kind was spared by the run over the other one, whichever came first.
    obtain ⟨sparedLater, _⟩ := (worker.serve_spares different.symm (.untilIdle maxBatches)
      between keyedBetween).of_exec alsoRan
    obtain ⟨sparedOther, _⟩ := (worker.serve_spares different (.untilIdle maxBatches) middle
      keyedMiddle).of_exec ranLater
    have agree (entity : Entity) : after.Agrees calm entity 0 final := by
      rcases Entity.eq_or_eq different entity with rfl | rfl
      · exact (sparedLater.agrees agreeSelf.quiet agreeOther.quiet).symm.trans agreeOne
      · exact agreeOther.trans (sparedOther.agrees agreeOther.calmly agreeOne.calmly)
    refine ⟨final, exec_drainAll_pair.mpr ⟨middle, ranEarlier, ranLater⟩, ?_, ?_, ?_, ?_, ?_⟩
    · exact PerEntity.ext_get fun entity => (agree entity).store.rows
    · exact PerEntity.ext_get fun entity => (agree entity).store.attempts
    · exact PerEntity.ext_get fun entity => (agree entity).store.cursors
    · exact PerEntity.ext_get fun entity => (agree entity).memory
    · intro entity
      exact ⟨(agree entity).store.events rfl, (agree entity).store.quarantine rfl⟩

private def clerk : Worker Unit :=
  ⟨motionless (.ofMillis 0), "sync", .store, ⟨1, false, some 25, false, false, .immediate 5 1⟩⟩

/-- A payload that either kind of record can be read from. -/
private def either : String :=
  "\x7b\"id\":\"a\",\"createdon\":\"2020-01-01T00:00:00Z\"," ++
    "\"modifiedon\":\"2020-01-01T00:00:00Z\",\"statecode\":0," ++
    "\"attributes\":\x7b\"firstname\":\"A\",\"lastname\":\"B\"," ++
    "\"dfeta_personid\":\"a\",\"dfeta_inductionstatus\":389040000\x7d\x7d"

private def twins : Desk Unit := ⟨.empty, .start, .memory ⟨[either, "?"], [either]⟩, ()⟩

/-- Both kinds have a record with the same external id at the same place. -/
theorem kinds_independent_same_keys :
    (clerk.serve .contact .batch).Ends twins (fun _ after => twins.Spares .induction after) ∧
    ∃ first second after final,
      (clerk.drainAll [.contact, .induction] none).exec twins = (.ok [first, second], after) ∧
      (clerk.drainAll [.induction, .contact] none).exec twins = (.ok [second, first], final) ∧
      first.created = 1 ∧ first.invalid = 1 ∧ second.created = 1 ∧
      final.store.rows = after.store.rows ∧
      ∀ entity, final.store.log.told entity = after.store.log.told entity := by
  obtain ⟨spares, drains⟩ := kinds_independent clerk (by decide : Entity.induction ≠ .contact)
    twins Quarantine.empty_keyed
  have drained := @exec_of_answer _ _ (clerk.drainAll [.contact, .induction] none) twins
    [⟨.contact, 3, 1, 1, 0, 0, 0, 0, 0, 1, 0, 0, 0, 0, 2, .exhausted, false⟩,
      ⟨.induction, 2, 1, 1, 0, 0, 0, 0, 0, 0, 0, 0, 0, 0, 1, .exhausted, false⟩] (by decide +kernel)
  obtain ⟨final, drainedAgain, rows, _, _, _, told⟩ := drains _ _ (motionless_steady _) trivial none
    _ _ _ drained rfl rfl
  exact ⟨spares .batch, _, _, _, final, drained, drainedAgain, rfl, rfl, rfl, rows,
    fun entity => (told entity).1⟩

end Worker

end RecordSync.Run
