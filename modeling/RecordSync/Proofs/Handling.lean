import RecordSync.Proofs.Exec
import RecordSync.Proofs.Ledger
import RecordSync.Run.Window

/-! How a worker deals with one record, and what that does to the store: the
change is applied once and as a whole, or only the ledger of failures grows, or
the record enters the quarantine. -/

namespace RecordSync.Run

open RecordSync.Calendar RecordSync.Change RecordSync.Feed RecordSync.Record RecordSync.Store
open Work

variable {σ α β : Type}

/-- The end of work that makes one call to the store: it answers as the
operation does, or it met a fault and nothing changed. -/
def Atomic (operation : Store → Except SyncFault (α × Store)) (before : Desk σ) :
    Except SyncFault α → Desk σ → Prop
  | .ok value, after => operation before.store = .ok (value, after.store) ∧ before.SameBeside after
  | .error _, after => before.Alike after

/-- What was done to the store has the same result if it starts from a desk that
differs in its surroundings only. -/
theorem Atomic.of_alike {operation : Store → Except SyncFault (α × Store)}
    {before between after : Desk σ} {result : Except SyncFault α} (alike : before.Alike between)
    (atomic : Atomic operation between result after) : Atomic operation before result after := by
  cases result with
  | ok value =>
    obtain ⟨done, beside⟩ := atomic
    rw [alike.store] at done
    exact ⟨done, alike.toSameBeside.trans beside⟩
  | error fault => exact alike.trans atomic

/-- An operation that only answers a question leaves everything as it was. -/
theorem Atomic.asked {query : Store → Except SyncFault α} {before after : Desk σ} {value : α}
    (atomic : Atomic (fun store => (query store).map (·, store)) before (.ok value) after) :
    query before.store = .ok value ∧ before.Alike after := by
  obtain ⟨done, beside⟩ := atomic
  cases answer : query before.store with
  | error fault =>
    simp only [answer, Except.map] at done
    cases done
  | ok found =>
    simp only [answer, Except.map, Except.ok.injEq, Prod.mk.injEq] at done
    exact ⟨by rw [done.1], beside, done.2.symm⟩

namespace Worker

theorem onStore_atomic (operation : Store → Except SyncFault (α × Store)) (desk : Desk σ) :
    (onStore operation).Ends desk (Atomic operation desk) := by
  apply (onStore_ends operation desk).mono
  intro result after answered
  cases result with
  | ok value => exact answered
  | error fault => exact answered.2

theorem meet_onStore_atomic (worker : Worker σ) (call : Call)
    (operation : Store → Except SyncFault (α × Store)) (desk : Desk σ) :
    Ends (do worker.meet call; onStore operation) desk (Atomic operation desk) := by
  apply (worker.meet_ends call desk).bind
  · intro fault after alike
    exact alike
  · intro _ between alike
    exact (onStore_atomic operation between).mono fun result after => Atomic.of_alike alike

/-- Planning reads at most one row and changes nothing. -/
theorem preview_atomic (worker : Worker σ) (change : Change) (now : Instant) (desk : Desk σ) :
    (worker.preview change now).Ends desk
      (Atomic (fun store => (store.preview change now).map (·, store)) desk) := by
  unfold preview Store.preview
  cases change.target? with
  | none => exact ends_pure _ ⟨rfl, .refl desk⟩
  | some key =>
    apply (worker.meet_onStore_atomic (.read key.1 key.2) _ desk).bind
    · intro fault after alike
      exact alike
    · intro row after atomic
      obtain ⟨read, alike⟩ := atomic.asked
      refine ends_pure _ ⟨?_, alike.toSameBeside⟩
      simp [read, Except.map, alike.store]

theorem carryOut_atomic (worker : Worker σ) (plan : Plan) (now : Instant) (desk : Desk σ) :
    (worker.carryOut plan now).Ends desk
      (Atomic (fun store => store.carryOut ⟨worker.actor, now⟩ plan) desk) := by
  unfold carryOut
  cases callFor plan with
  | none => exact onStore_atomic _ desk
  | some call => exact worker.meet_onStore_atomic call _ desk

/-- One attempt applies the change as a whole or not at all. -/
theorem apply_atomic (worker : Worker σ) (change : Change) (now : Instant) (desk : Desk σ) :
    (worker.apply change now).Ends desk
      (Atomic (fun store => store.apply worker.actor change now) desk) := by
  unfold apply
  apply (worker.preview_atomic change now desk).bind
  · intro fault after alike
    exact alike
  · intro plan between atomic
    obtain ⟨planned, alike⟩ := atomic.asked
    apply (worker.carryOut_atomic plan now between).mono
    intro result after carried
    have carried := carried.of_alike alike
    cases result with
    | error fault => exact carried
    | ok outcome =>
      refine ⟨?_, carried.2⟩
      simp only [Store.apply, planned]
      exact carried.1

/-- An attempt on a change failed, and since then nothing changed but the ledger of
failures. -/
def Failed (worker : Worker σ) (change : Change) (fault : SyncFault) (now : Instant)
    (desk : Desk σ) : Prop :=
  ∃ start after, (worker.apply change now).exec start = (.error fault, after) ∧
    start.SameBeside desk ∧ start.store.OnlyAttempts desk.store

theorem Failed.counted {worker : Worker σ} {change : Change} {fault : SyncFault} {now : Instant}
    {before after : Desk σ} (failed : worker.Failed change fault now before)
    (beside : before.SameBeside after) (ledger : before.store.OnlyAttempts after.store) :
    worker.Failed change fault now after := by
  obtain ⟨start, met, tried, same, only⟩ := failed
  exact ⟨start, met, tried, same.trans beside, only.trans ledger⟩

theorem Failed.of_alike {worker : Worker σ} {change : Change} {fault : SyncFault} {now : Instant}
    {before after : Desk σ} (failed : worker.Failed change fault now before)
    (alike : before.Alike after) : worker.Failed change fault now after :=
  failed.counted alike.toSameBeside (.of_eq alike.store)

/-- One attempt to apply a change. A fault leaves the store as it was, and one
that is returned to be tried again is transient. -/
theorem applyOnce_ends (worker : Worker σ) (change : Change) (desk : Desk σ) :
    (worker.applyOnce change).Ends desk fun result after =>
      match result with
      | .ok (.ok outcome) => desk.SameBeside after ∧
          desk.store.apply worker.actor change (worker.reading desk.around) =
            .ok (outcome, after.store)
      | .ok (.error (fault, now)) => desk.Alike after ∧ fault.isTransient = true ∧
          now = worker.reading desk.around ∧ worker.Failed change fault now after
      | .error fault => desk.Alike after ∧ fault.isTransient = false := by
  unfold applyOnce
  apply (worker.now_ends desk).bind
  · intro fault after ends
    cases ends.1
  · intro now between ends
    obtain ⟨told, alike⟩ := ends
    injection told with told
    subst told
    have atomic := worker.apply_atomic change (worker.reading desk.around) between
    unfold Ends
    rw [exec_bind_of_ok (exec_attempt _ between)]
    rcases ran : (worker.apply change (worker.reading desk.around)).exec between
      with ⟨fault | outcome, after⟩
    · have same : between.Alike after := atomic.of_exec ran
      have unchanged : desk.Alike after := alike.trans same
      have failed : worker.Failed change fault (worker.reading desk.around) after :=
        ⟨between, after, ran, same.toSameBeside, .of_eq same.store⟩
      cases transient : fault.isTransient with
      | true => simpa [transient] using ⟨unchanged, failed⟩
      | false => simpa [transient] using unchanged
    · obtain ⟨applied, beside⟩ := (atomic.of_exec ran).of_alike alike
      exact ⟨beside, applied⟩

/-- What the handling of a record, real and not a dry run, may have done. -/
def Dealt (worker : Worker σ) (entity : Entity) (entry : Entry) (before : Desk σ) :
    Except SyncFault Ending → Desk σ → Prop
  | .ok (.terminal outcome), after => before.SameBeside after ∧
      ∃ around, before.store.apply worker.actor (decode entry.delivery) (worker.reading around) =
        .ok (outcome, after.store)
  | .ok .quarantined, after => before.SameBeside after ∧
      ∃ ledger author id record, before.store.OnlyAttempts ledger ∧
        record.entity = entity ∧ record.sequence = entry.sequence ∧
        record.payload = entry.delivery.payload ∧
        ledger.surrender author record = .ok (id, after.store)
  | .ok .deferred, after => before.SameBeside after ∧ before.store.OnlyAttempts after.store
  | .error _, after => before.SameBeside after ∧ before.store.OnlyAttempts after.store

theorem Dealt.of_alike {worker : Worker σ} {entity : Entity} {entry : Entry}
    {before between after : Desk σ} {result : Except SyncFault Ending}
    (alike : before.Alike between) (dealt : worker.Dealt entity entry between result after) :
    worker.Dealt entity entry before result after := by
  have same : before.SameBeside between := alike.toSameBeside
  unfold Dealt at *
  rw [alike.store] at dealt
  split at dealt <;> exact ⟨same.trans dealt.1, dealt.2⟩

/-- What failed adds to the ledger at most, unless it is given up. -/
theorem deferOrSurrender_dealt (worker : Worker σ) (entity : Entity) (entry : Entry)
    (change : Change) (fault : SyncFault) (now : Instant) (desk : Desk σ) :
    (worker.deferOrSurrender entity entry change fault now).Ends desk
      (worker.Dealt entity entry desk) := by
  unfold deferOrSurrender
  split
  · apply (worker.meet_ends _ desk).bind
    · intro fault after alike
      exact ⟨alike.toSameBeside, .of_eq alike.store⟩
    · intro _ met alike
      apply (onStore_atomic _ met).bind
      · intro fault after unchanged
        exact ⟨(alike.trans unchanged).toSameBeside, .of_eq (alike.trans unchanged).store⟩
      · intro attempts counted atomic
        obtain ⟨recorded, beside⟩ := atomic.of_alike alike
        have ledger : desk.store.OnlyAttempts counted.store := recordFailure_onlyAttempts recorded
        split
        · apply (worker.meet_ends _ counted).bind
          · intro fault after unchanged
            exact ⟨beside.trans unchanged.toSameBeside, ledger.trans (.of_eq unchanged.store)⟩
          · intro _ called alikeAgain
            apply (onStore_atomic _ called).bind
            · intro fault after refused
              have unchanged := alikeAgain.trans refused
              exact ⟨beside.trans unchanged.toSameBeside, ledger.trans (.of_eq unchanged.store)⟩
            · intro id after given
              obtain ⟨surrendered, besideAgain⟩ := given.of_alike alikeAgain
              exact ends_pure _ ⟨beside.trans besideAgain, counted.store, _, id, _, ledger, rfl, rfl,
                rfl, surrendered⟩
        · exact ends_pure _ ⟨beside, ledger⟩
  · exact ends_pure _ ⟨.refl desk, .of_eq rfl⟩

/-- However many attempts it takes, the change is applied at most once: one of them
applies it, or ends the work, or all of them change nothing. -/
theorem applyWithRetries_ends {worker : Worker σ} {entity : Entity} {entry : Entry}
    {change : Change} {desk : Desk σ} {post : Except SyncFault Ending → Desk σ → Prop}
    (applied : ∀ outcome around after, desk.SameBeside after →
      desk.store.apply worker.actor change (worker.reading around) = .ok (outcome, after.store) →
      post (.ok (.terminal outcome)) after)
    (faulted : ∀ fault after, desk.Alike after → post (.error fault) after)
    (spent : ∀ fault now between, desk.Alike between → worker.Failed change fault now between →
      (worker.deferOrSurrender entity entry change fault now).Ends between post)
    (retry left : Nat) :
    (worker.applyWithRetries entity entry change retry left).Ends desk post := by
  suffices resumed : ∀ between, desk.Alike between →
      (worker.applyWithRetries entity entry change retry left).Ends between post from
    resumed desk (.refl desk)
  induction left generalizing retry with
  | zero =>
    intro between alike
    unfold applyWithRetries
    apply (worker.applyOnce_ends change between).bind
    · intro fault after ends
      exact faulted fault after (alike.trans ends.1)
    · intro attempted after ends
      rcases attempted with ⟨fault, now⟩ | outcome
      · exact spent fault now after (alike.trans ends.1) ends.2.2.2
      · exact ends_pure _ (applied outcome between.around after (alike.toSameBeside.trans ends.1)
          (alike.store ▸ ends.2))
  | succ left ih =>
    intro between alike
    unfold applyWithRetries
    apply (worker.applyOnce_ends change between).bind
    · intro fault after ends
      exact faulted fault after (alike.trans ends.1)
    · intro attempted after ends
      rcases attempted with ⟨fault, now⟩ | outcome
      · apply (worker.isCancelled_ends after).bind
        · intro fault later told
          obtain ⟨⟨_, impossible⟩, _⟩ := told
          cases impossible
        · intro cancelled asked told
          have asking : desk.Alike asked := (alike.trans ends.1).trans told.2
          split
          · exact spent fault now asked asking (ends.2.2.2.of_alike told.2)
          · apply (worker.wait_ends _ asked).bind
            · intro fault later waited
              cases waited.1
            · intro _ waited alikeAgain
              exact ih (retry + 1) waited (asking.trans alikeAgain.2)
      · exact ends_pure _ (applied outcome between.around after (alike.toSameBeside.trans ends.1)
          (alike.store ▸ ends.2))

theorem applyWithRetries_dealt (worker : Worker σ) (entity : Entity) (entry : Entry)
    (retry left : Nat) (desk : Desk σ) :
    (worker.applyWithRetries entity entry (decode entry.delivery) retry left).Ends desk
      (worker.Dealt entity entry desk) := by
  apply applyWithRetries_ends
  · intro outcome around after beside applied
    exact ⟨beside, around, applied⟩
  · intro fault after alike
    exact ⟨alike.toSameBeside, .of_eq alike.store⟩
  · intro fault now between alike _
    exact (worker.deferOrSurrender_dealt entity entry _ fault now between).mono
      fun result final => Dealt.of_alike alike

theorem dealWith_dealt (worker : Worker σ) (entity : Entity) (planned : Planned) (entry : Entry)
    (desk : Desk σ) (real : worker.options.dryRun = false) :
    (worker.dealWith entity planned entry).Ends desk fun result after =>
      worker.Dealt entity entry desk (result.map (·.1)) after ∧
        ∀ answer, result = .ok answer → answer.2 = planned := by
  unfold dealWith
  simp only [real, Bool.false_eq_true, ↓reduceIte]
  apply (worker.applyWithRetries_dealt entity entry 0 _ desk).bind
  · intro fault after dealt
    exact ⟨dealt, fun _ impossible => by cases impossible⟩
  · intro ending after dealt
    refine ends_pure _ ⟨dealt, ?_⟩
    rintro answer ⟨⟩
    rfl

end Worker

end RecordSync.Run
