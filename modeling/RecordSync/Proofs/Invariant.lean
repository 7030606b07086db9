import RecordSync.Proofs.Runs

/-! What every call of a worker keeps, its runs keep, whatever surrounds them and
however they end. -/

namespace RecordSync.Run

open RecordSync.Calendar RecordSync.Change RecordSync.Feed RecordSync.Record RecordSync.Store
open Work

variable {σ : Type}

def surrenderOf (entity : Entity) (entry : Entry) (fault : SyncFault) (attempts : Nat) :
    Surrender where
  entity := entity
  sequence := entry.sequence
  externalId := (decode entry.delivery).externalId?
  reason := fault.message
  attempts := attempts
  payload := entry.delivery.payload

/-- A condition that each call of a worker for one kind of record keeps. The entries
of its pages meet a condition of their own. -/
structure Worker.Preserves (worker : Worker σ) (entity : Entity) (delivered : Entry → Prop)
    (invariant : Desk σ → Prop) : Prop where
  alike : ∀ {before after : Desk σ}, before.Alike after → invariant before → invariant after
  fetched : ∀ {before after : Desk σ} {position : Nat} {page : Page},
    before.source.fetch entity position worker.options.window = .ok (page, after.source) →
    after.store = before.store → after.memory = before.memory → invariant before →
    invariant after ∧ ∀ entry ∈ page.entries, delivered entry
  applied : ∀ {before after : Desk σ} {entry : Entry} {outcome : Outcome} {now : Instant},
    delivered entry → before.SameBeside after →
    before.store.apply worker.actor (decode entry.delivery) now = .ok (outcome, after.store) →
    invariant before → invariant after
  counted : ∀ {before after : Desk σ} {entry : Entry} {fault : SyncFault} {now : Instant}
    {attempts : Nat}, before.SameBeside after →
    before.store.recordFailure entity entry.sequence (decode entry.delivery).externalId?
      fault.message now = .ok (attempts, after.store) →
    invariant before → invariant after
  surrendered : ∀ {before after : Desk σ} {entry : Entry} {fault : SyncFault} {now : Instant}
    {attempts id : Nat}, delivered entry →
    worker.Failed (decode entry.delivery) fault now before → before.SameBeside after →
    before.store.surrender ⟨worker.actor, now⟩ (surrenderOf entity entry fault attempts) =
      .ok (id, after.store) →
    invariant before → invariant after
  moved : ∀ {before after : Desk σ} {position : Nat} {now : Instant},
    (before.moved worker.cursors entity position now).Alike after →
    invariant before → invariant after
  cleared : ∀ {before after : Desk σ} {position : Nat}, before.SameBeside after →
    before.store.clearAttempts entity position = .ok after.store →
    invariant before → invariant after

namespace Worker.Preserves

variable {worker : Worker σ} {entity : Entity} {delivered : Entry → Prop}
  {invariant : Desk σ → Prop} {desk : Desk σ} {entry : Entry}

section
variable (preserves : worker.Preserves entity delivered invariant)
include preserves

theorem deferOrSurrender {fault : SyncFault} {now : Instant} (member : delivered entry)
    (failed : worker.Failed (decode entry.delivery) fault now desk) (holds : invariant desk) :
    (worker.deferOrSurrender entity entry (decode entry.delivery) fault now).Ends desk
      fun _ after => invariant after := by
  unfold Worker.deferOrSurrender
  split
  · rw [← bind_assoc]
    apply (worker.meet_onStore_atomic _ _ desk).bind
    · intro fault after alike
      exact preserves.alike alike holds
    · intro attempts noted recorded
      have kept := preserves.counted recorded.2 recorded.1 holds
      split
      · rw [← bind_assoc]
        apply (worker.meet_onStore_atomic _ _ noted).bind
        · intro fault after alike
          exact preserves.alike alike kept
        · intro id after given
          have still := failed.counted recorded.2 (recordFailure_onlyAttempts recorded.1)
          exact ends_pure _ (preserves.surrendered member still given.2 given.1 kept)
      · exact ends_pure _ kept
  · exact ends_pure _ holds

theorem dealWith (planned : Planned) (member : delivered entry) (holds : invariant desk) :
    (worker.dealWith entity planned entry).Ends desk fun _ after => invariant after := by
  cases real : worker.options.dryRun with
  | true =>
    apply (worker.dealWith_dry entity planned entry desk real).mono
    intro result after alike
    exact preserves.alike alike holds
  | false =>
    unfold Worker.dealWith
    simp only [real, Bool.false_eq_true, ↓reduceIte]
    have handled : (worker.applyWithRetries entity entry (decode entry.delivery) 0
        (worker.options.retry.attemptsPerRun - 1)).Ends desk fun _ after => invariant after := by
      apply applyWithRetries_ends
      · intro outcome around after beside applied
        exact preserves.applied member beside applied holds
      · intro fault after alike
        exact preserves.alike alike holds
      · intro fault now between alike failed
        exact preserves.deferOrSurrender member failed (preserves.alike alike holds)
    apply handled.bind
    · intro fault after kept
      exact kept
    · intro ending after kept
      exact ends_pure _ kept

theorem step (progress : Progress) (member : delivered entry) (holds : invariant desk) :
    (worker.step entity progress entry).Ends desk fun _ after => invariant after := by
  unfold Worker.step
  split
  · exact ends_pure _ holds
  · apply (worker.isCancelled_ends desk).bind
    · intro fault after told
      exact preserves.alike told.2 holds
    · intro cancelled asked told
      have still := preserves.alike told.2 holds
      split
      · exact ends_pure _ still
      · apply (preserves.dealWith progress.planned member still).bind
        · intro fault after kept
          exact kept
        · intro answer after kept
          exact ends_pure _ kept

theorem fetch (position : Nat) (holds : invariant desk) :
    (worker.fetch entity position).Ends desk fun result after => invariant after ∧
      ∀ page, result = .ok page → ∀ entry ∈ page.entries, delivered entry := by
  unfold Worker.fetch
  apply (worker.meet_ends _ desk).bind
  · intro fault after alike
    exact ⟨preserves.alike alike holds, nofun⟩
  · intro _ met alike
    have still := preserves.alike alike holds
    apply Ends.of_get
    cases fetched : met.source.fetch entity position worker.options.window with
    | error fault => exact ends_throw _ ⟨still, nofun⟩
    | ok answer =>
      obtain ⟨page, source⟩ := answer
      obtain ⟨kept, members⟩ := @preserves.fetched met { met with source } position page fetched
        rfl rfl still
      refine ⟨kept, ?_⟩
      rintro _ ⟨⟩
      exact members

theorem settle (tally : Tally) (holds : invariant desk) :
    (worker.settle entity tally).Ends desk fun _ after => invariant after := by
  apply (worker.settle_clears entity tally desk).mono
  intro result after ends
  cases result with
  | error fault => exact preserves.alike ends holds
  | ok _ =>
    simp only at ends
    split at ends
    · obtain ⟨_, _, around, beside, stays | cleared⟩ := ends
      · exact preserves.moved ⟨beside, stays⟩ holds
      · exact preserves.cleared beside cleared (preserves.moved (.refl _) holds)
    · exact preserves.alike ends holds

theorem windowFrom (cursor : Nat) (planned : Planned) (holds : invariant desk) :
    (worker.windowFrom entity cursor planned).Ends desk fun _ after => invariant after := by
  unfold Worker.windowFrom
  apply (preserves.fetch cursor holds).bind
  · intro fault after kept
    exact kept.1
  · intro page opened kept
    apply (foldlM_ends
      (fun entries _ between => invariant between ∧ ∀ entry ∈ entries, delivered entry)
      (fun _ between => invariant between) ?_ page.entries _ opened
      ⟨kept.1, kept.2 page rfl⟩).bind
    · intro fault after kept
      exact kept
    · intro progress attended kept
      apply (preserves.settle _ kept.1).bind
      · intro fault after kept
        exact kept
      · intro _ after kept
        exact ends_pure _ kept
    · rintro entry rest progress between ⟨still, members⟩
      apply (preserves.step progress (members entry List.mem_cons_self) still).mono
      intro result after kept
      cases result with
      | error fault => exact kept
      | ok next => exact ⟨kept, fun other later => members other (List.mem_cons_of_mem _ later)⟩

theorem loadCursor (holds : invariant desk) :
    (worker.loadCursor entity).Ends desk fun _ after => invariant after :=
  (worker.loadCursor_ends entity desk).mono fun _ _ ends => preserves.alike ends.1 holds

theorem nextCursor (total : Tally) (holds : invariant desk) :
    (worker.nextCursor entity total).Ends desk fun _ after => invariant after := by
  unfold Worker.nextCursor
  split
  · exact ends_pure _ holds
  · exact preserves.loadCursor holds

theorem drainOn (maxBatches : Option Nat) (fuel : Nat) (total : Tally) (planned : Planned)
    (holds : invariant desk) :
    (worker.drainOn entity maxBatches fuel total planned).Ends desk
      fun _ after => invariant after := by
  induction fuel generalizing total planned desk with
  | zero => exact ends_pure _ holds
  | succ fuel ih =>
    unfold Worker.drainOn
    split
    · apply (preserves.nextCursor total holds).bind
      · intro fault after kept
        exact kept
      · intro cursor found kept
        apply (preserves.windowFrom cursor planned kept).bind
        · intro fault after kept
          exact kept
        · intro window after kept
          exact ih _ _ kept
    · exact ends_pure _ holds

theorem drainFrom (maxBatches : Option Nat) (cursor : Nat) (holds : invariant desk) :
    (worker.drainFrom entity maxBatches cursor).Ends desk fun _ after => invariant after := by
  unfold Worker.drainFrom
  apply Ends.of_get
  apply (preserves.windowFrom cursor [] holds).bind
  · intro fault after kept
    exact kept
  · intro window after kept
    exact preserves.drainOn maxBatches _ _ _ kept

/-- A run keeps what each of its calls keeps. -/
theorem serve (request : Request) (holds : invariant desk) :
    (worker.serve entity request).Ends desk fun _ after => invariant after := by
  cases request with
  | batch =>
    apply (preserves.loadCursor holds).bind
    · intro fault after kept
      exact kept
    · intro cursor found kept
      apply (preserves.windowFrom cursor [] kept).bind
      · intro fault after kept
        exact kept
      · intro window after kept
        exact ends_pure _ kept
  | untilIdle maxBatches =>
    apply (preserves.loadCursor holds).bind
    · intro fault after kept
      exact kept
    · intro cursor found kept
      exact preserves.drainFrom maxBatches cursor kept

end

end Worker.Preserves

end RecordSync.Run
