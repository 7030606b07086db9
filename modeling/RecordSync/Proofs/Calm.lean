import RecordSync.Proofs.Interleaving

/-! A worker whom nothing disturbs: the clock stands still, no call meets a
fault, and nobody tells it to stop. Each part of its work comes to an answer
that the desk alone decides. -/

namespace RecordSync.Run

open RecordSync.Calendar RecordSync.Change RecordSync.Feed RecordSync.Record RecordSync.Store
open Work

variable {σ α : Type}

/-- Surroundings that are calm and stay so, whatever they are asked. -/
structure Surroundings.Calm (surroundings : Surroundings σ) (now : Instant) (calm : σ → Prop) :
    Prop where
  clock : ∀ around, calm around →
    (surroundings.now around).1 = now ∧ calm (surroundings.now around).2
  going : ∀ around, calm around →
    (surroundings.cancelled around).1 = false ∧ calm (surroundings.cancelled around).2
  faultless : ∀ call around, calm around →
    (surroundings.meet call around).1 = none ∧ calm (surroundings.meet call around).2

/-- A clock that always says the same, and nothing else. -/
def motionless (now : Instant) : Surroundings Unit :=
  ⟨fun _ => (now, ()), fun _ => (false, ()), fun _ _ => (none, ()), fun _ _ => ()⟩

theorem motionless_calm (now : Instant) : (motionless now).Calm now fun _ => True :=
  ⟨fun _ _ => ⟨rfl, trivial⟩, fun _ _ => ⟨rfl, trivial⟩, fun _ _ _ => ⟨rfl, trivial⟩⟩

def Desk.Still (calm : σ → Prop) (before after : Desk σ) : Prop :=
  before.Alike after ∧ calm after.around

namespace Worker

variable {worker : Worker σ} {now : Instant} {calm : σ → Prop} {entity : Entity} {desk : Desk σ}

section
variable (undisturbed : worker.surroundings.Calm now calm) (quiet : calm desk.around)
include undisturbed quiet

theorem now_answers : worker.now.Answers desk fun time after =>
    time = now ∧ desk.Still calm after :=
  ⟨_, rfl, (undisturbed.clock _ quiet).1, ⟨⟨rfl, rfl⟩, rfl⟩, (undisturbed.clock _ quiet).2⟩

theorem isCancelled_answers : worker.isCancelled.Answers desk fun cancelled after =>
    cancelled = false ∧ desk.Still calm after :=
  ⟨_, rfl, (undisturbed.going _ quiet).1, ⟨⟨rfl, rfl⟩, rfl⟩, (undisturbed.going _ quiet).2⟩

theorem meet_answers (call : Call) : (worker.meet call).Answers desk fun _ after =>
    desk.Still calm after := by
  obtain ⟨faultless, still⟩ := undisturbed.faultless call _ quiet
  unfold Answers Ends
  rw [exec_meet, faultless]
  exact ⟨(), rfl, ⟨⟨rfl, rfl⟩, rfl⟩, still⟩

theorem meet_onStore_answers (call : Call) (operation : Store → Except SyncFault (α × Store))
    {value : α} {store : Store} (done : operation desk.store = .ok (value, store)) :
    Answers (do worker.meet call; onStore operation) desk fun answer after =>
      answer = value ∧ after.store = store ∧ desk.SameBeside after ∧ calm after.around := by
  apply (meet_answers undisturbed quiet call).bind
  intro _ met still
  unfold Answers Ends
  rw [exec_onStore, still.1.store, done]
  exact ⟨value, rfl, rfl, rfl, ⟨still.1.memory, still.1.source⟩, still.2⟩

theorem meet_onStore_calm (call : Call) (operation : Store → Except SyncFault (α × Store)) :
    Ends (do worker.meet call; onStore operation) desk fun _ after => calm after.around := by
  apply (meet_answers undisturbed quiet call).bind_ends
  intro _ met still
  unfold Ends
  rw [exec_onStore]
  split
  · exact still.2
  · exact still.2

theorem readRow_answers {externalId : String} {row : Option Row}
    (read : desk.store.read entity externalId = .ok row) :
    (worker.readRow entity externalId).Answers desk fun answer after =>
      answer = row ∧ desk.Still calm after := by
  apply (meet_onStore_answers undisturbed quiet (.read entity externalId)
    (fun store => (store.read entity externalId).map (·, store)) (by rw [read]; rfl)).mono
  intro answer after answered
  exact ⟨answered.1, ⟨answered.2.2.1, answered.2.1⟩, answered.2.2.2⟩

theorem preview_answers {change : Change} {planned : Plan}
    (previewed : desk.store.preview change now = .ok planned) :
    (worker.preview change now).Answers desk fun answer after =>
      answer = planned ∧ desk.Still calm after := by
  unfold preview
  unfold Store.preview at previewed
  cases target : change.target? with
  | none =>
    simp only [target, Except.ok.injEq] at previewed
    exact answers_pure _ ⟨previewed, .refl desk, quiet⟩
  | some key =>
    simp only [target] at previewed
    cases read : desk.store.read key.1 key.2 with
    | error fault =>
      simp only [read, Except.map] at previewed
      cases previewed
    | ok row =>
      simp only [read, Except.map, Except.ok.injEq] at previewed
      apply (readRow_answers undisturbed quiet read).bind
      intro answer after answered
      exact answers_pure _ ⟨answered.1 ▸ previewed, answered.2⟩

/-- An undisturbed worker applies what the store accepts. -/
theorem apply_answers {change : Change} {outcome : Outcome} {store : Store}
    (applied : desk.store.apply worker.actor change now = .ok (outcome, store)) :
    (worker.apply change now).Answers desk fun answer after =>
      answer = outcome ∧ after.store = store ∧ desk.SameBeside after ∧ calm after.around := by
  unfold apply
  unfold Store.apply at applied
  cases previewed : desk.store.preview change now with
  | error fault =>
    simp only [previewed] at applied
    cases applied
  | ok planned =>
    simp only [previewed] at applied
    apply (preview_answers undisturbed quiet previewed).bind
    intro plan between answered
    obtain ⟨rfl, still⟩ := answered
    rw [← still.1.store] at applied
    have carried : (worker.carryOut plan now).Answers between fun answer after =>
        answer = outcome ∧ after.store = store ∧ between.SameBeside after ∧ calm after.around := by
      unfold carryOut
      cases callFor plan with
      | some call => exact meet_onStore_answers undisturbed still.2 call _ applied
      | none =>
        show (onStore fun store => store.carryOut ⟨worker.actor, now⟩ plan).Answers between _
        unfold Answers Ends
        rw [exec_onStore, applied]
        exact ⟨outcome, rfl, rfl, rfl, ⟨rfl, rfl⟩, still.2⟩
    apply carried.mono
    intro answer after ended
    exact ⟨ended.1, ended.2.1, still.1.toSameBeside.trans ended.2.2.1, ended.2.2.2⟩

/-- A record that the store accepts is dealt with at the first attempt. -/
theorem dealWith_answers (real : worker.options.dryRun = false) (planned : Planned) {entry : Entry}
    {outcome : Outcome} {store : Store}
    (applied : desk.store.apply worker.actor (decode entry.delivery) now = .ok (outcome, store)) :
    (worker.dealWith entity planned entry).Answers desk fun answer after =>
      answer = (.terminal outcome, planned) ∧ after.store = store ∧ desk.SameBeside after ∧
        calm after.around := by
  have attempted : (worker.applyOnce (decode entry.delivery)).Answers desk fun answer after =>
      answer = .ok outcome ∧ after.store = store ∧ desk.SameBeside after ∧ calm after.around := by
    unfold applyOnce
    apply (now_answers undisturbed quiet).bind
    intro time told still
    obtain ⟨rfl, still⟩ := still
    rw [← still.1.store] at applied
    obtain ⟨value, after, ran, same, stored, beside, calmly⟩ :=
      (apply_answers undisturbed still.2 applied).exec
    unfold Answers Ends
    rw [exec_bind_of_ok (exec_attempt _ told), ran, same]
    exact ⟨_, rfl, rfl, stored, still.1.toSameBeside.trans beside, calmly⟩
  unfold dealWith
  simp only [real, Bool.false_eq_true, ↓reduceIte]
  have dealt (left : Nat) : (worker.applyWithRetries entity entry (decode entry.delivery) 0
      left).Answers desk fun answer after => answer = .terminal outcome ∧ after.store = store ∧
        desk.SameBeside after ∧ calm after.around := by
    cases left <;>
    · unfold applyWithRetries
      apply attempted.bind
      intro answer after ended
      obtain ⟨rfl, ended⟩ := ended
      exact answers_pure _ ⟨rfl, ended⟩
  apply (dealt _).bind
  intro ending after ended
  obtain ⟨rfl, ended⟩ := ended
  exact answers_pure _ ⟨rfl, ended⟩

/-- A record of a dry run is only planned. -/
theorem dealWith_dry_answers (dry : worker.options.dryRun = true) {planned : Planned}
    {entry : Entry} {plan : Plan} {next : Planned}
    (plans : ∀ between : Desk σ, desk.Still calm between →
      (worker.planOn planned (decode entry.delivery) now).Answers between fun answer after =>
        answer = (plan, next) ∧ between.Still calm after) :
    (worker.dealWith entity planned entry).Answers desk fun answer after =>
      answer = (.terminal plan.outcome, next) ∧ desk.Still calm after := by
  unfold dealWith
  simp only [dry, ↓reduceIte]
  apply (now_answers undisturbed quiet).bind
  intro time told still
  obtain ⟨rfl, still⟩ := still
  apply (plans told still).bind
  intro answer after ended
  obtain ⟨rfl, ended⟩ := ended
  exact answers_pure _ ⟨rfl, still.1.trans ended.1, ended.2⟩

/-- A record that is dealt with while there is no reason to stop. -/
theorem step_answers {progress : Progress} {entry : Entry} (going : progress.stop = none)
    {ending : Ending} {planned : Planned} {post : Desk σ → Prop}
    (deals : ∀ between : Desk σ, desk.Still calm between →
      (worker.dealWith entity progress.planned entry).Answers between fun answer after =>
        answer = (ending, planned) ∧ post after) :
    (worker.step entity progress entry).Answers desk fun next after =>
      next = { progress.note worker.options entry.sequence ending with planned } ∧ post after := by
  unfold step
  simp only [going, Option.isSome_none, Bool.false_eq_true, ↓reduceIte]
  apply (isCancelled_answers undisturbed quiet).bind
  intro cancelled asked told
  obtain ⟨rfl, still⟩ := told
  simp only [Bool.false_eq_true, ↓reduceIte]
  apply (deals asked still).bind
  intro answer after ended
  obtain ⟨rfl, ended⟩ := ended
  exact answers_pure _ ⟨rfl, ended⟩

/-- A record that the store accepts is applied while there is no reason to stop. -/
theorem step_applied_answers (real : worker.options.dryRun = false) {progress : Progress}
    {entry : Entry} (going : progress.stop = none) {outcome : Outcome} {store : Store}
    (applied : desk.store.apply worker.actor (decode entry.delivery) now = .ok (outcome, store)) :
    (worker.step entity progress entry).Answers desk fun next after =>
      next = { progress.note worker.options entry.sequence (.terminal outcome) with
        planned := progress.planned } ∧ after.store = store ∧ desk.SameBeside after ∧
          calm after.around := by
  apply step_answers undisturbed quiet going
  intro between still
  rw [← still.1.store] at applied
  apply (dealWith_answers undisturbed still.2 real progress.planned applied).mono
  intro answer after ended
  exact ⟨ended.1, ended.2.1, still.1.toSameBeside.trans ended.2.2.1, ended.2.2.2⟩

/-- A record of a dry run is planned while there is no reason to stop. -/
theorem step_planned_answers (dry : worker.options.dryRun = true) {progress : Progress}
    {entry : Entry} (going : progress.stop = none) {plan : Plan} {planned : Planned}
    (plans : ∀ between : Desk σ, desk.Still calm between →
      (worker.planOn progress.planned (decode entry.delivery) now).Answers between
        fun answer after => answer = (plan, planned) ∧ between.Still calm after) :
    (worker.step entity progress entry).Answers desk fun next after =>
      next = { progress.note worker.options entry.sequence (.terminal plan.outcome) with planned } ∧
        desk.Still calm after := by
  apply step_answers undisturbed quiet going
  intro between still
  apply (dealWith_dry_answers undisturbed still.2 dry fun later further =>
    plans later ⟨still.1.trans further.1, further.2⟩).mono
  intro answer after ended
  exact ⟨ended.1, still.1.trans ended.2.1, ended.2.2⟩

theorem loadCursor_answers : (worker.loadCursor entity).Answers desk fun cursor after =>
    cursor = desk.cursor worker.cursors entity ∧ desk.Still calm after := by
  unfold loadCursor
  apply (meet_answers undisturbed quiet _).bind
  intro _ met still
  rw [← still.1.cursor]
  cases worker.cursors with
  | memory => exact ⟨_, rfl, rfl, still⟩
  | store => exact ⟨_, rfl, rfl, still⟩

theorem fetch_answers (sound : desk.source.Sound) (readable : desk.source.Readable entity)
    (position : Nat) : (worker.fetch entity position).Answers desk fun page after =>
      desk.Reread after ∧ calm after.around ∧
        page.Covers (desk.source.entries entity) (desk.source.extent entity) position
          worker.options.window := by
  have answers : (worker.fetch entity position).Answers desk fun _ after => calm after.around := by
    unfold fetch
    apply (meet_answers undisturbed quiet _).bind
    intro _ met still
    apply Ends.of_get
    obtain ⟨page, source, fetched⟩ := readable.fetch position worker.options.window
    rw [still.1.source, fetched]
    exact ⟨page, rfl, still.2⟩
  apply (answers.and_ends (worker.fetch_ends entity position desk sound)).mono
  intro page after ended
  exact ⟨ended.2.1, ended.1, (ended.2.2 page rfl).2⟩

/-- A window of an undisturbed worker opens where it should. -/
theorem openWindow_answers (sound : desk.source.Sound) (readable : desk.source.Readable entity)
    (onward : Option Nat) (planned : Planned) :
    (worker.openWindow entity onward planned).Answers desk fun opening after =>
      let cursor := onward.getD (desk.cursor worker.cursors entity)
      opening.2 = worker.opened entity cursor planned ∧ desk.Reread after ∧ calm after.around ∧
        opening.1.Covers (desk.source.entries entity) (desk.source.extent entity) cursor
          worker.options.window := by
  have fetched (cursor : Nat) (found : Desk σ) (still : desk.Still calm found) :
      Answers (do
        let page ← worker.fetch entity cursor
        return (page, worker.opened entity cursor planned)) found fun opening after =>
          opening.2 = worker.opened entity cursor planned ∧ desk.Reread after ∧
            calm after.around ∧ opening.1.Covers (desk.source.entries entity)
              (desk.source.extent entity) cursor worker.options.window := by
    have same : found.source = desk.source := still.1.source
    apply (fetch_answers undisturbed still.2 (same ▸ sound) (same ▸ readable) cursor).bind
    intro page after ended
    rw [same] at ended
    exact answers_pure _ ⟨rfl, still.1.trans_reread ended.1, ended.2⟩
  unfold openWindow
  cases onward with
  | some position =>
    simp only [pure_bind]
    exact fetched position desk ⟨.refl desk, quiet⟩
  | none =>
    apply (loadCursor_answers undisturbed quiet).bind
    intro cursor found answered
    obtain ⟨rfl, still⟩ := answered
    exact fetched _ found still

/-- A cursor moves that is where it is expected, to where its place can hold it. -/
theorem advanceCursor_answers {expected next : Nat}
    (there : desk.cursor worker.cursors entity = expected) (holds : worker.cursors.Holds next) :
    (worker.advanceCursor entity expected next).Answers desk fun _ after =>
      calm after.around := by
  unfold advanceCursor
  apply (meet_answers undisturbed quiet _).bind
  intro _ met still
  rw [← still.1.cursor] at there
  cases place : worker.cursors with
  | memory =>
    rw [place] at there
    have moved : met.memory.advance entity expected next = .ok (met.memory.set entity next) := by
      simp only [MemoryCursors.advance, show met.memory.get entity = expected from there, ne_eq,
        not_true_eq_false, ↓reduceIte]
    apply Ends.of_get
    rw [moved]
    exact ⟨(), rfl, still.2⟩
  | store =>
    rw [place] at there
    apply (now_answers undisturbed still.2).bind
    intro time asked told
    have found : asked.store.cursor entity = expected := by
      rw [told.2.1.store]
      exact there
    have within : ¬ Store.greatestPosition < next := Nat.not_lt.mpr (holds place)
    unfold Answers Ends
    rw [exec_onStore]
    simp only [Store.advanceCursor, found, within, ne_eq, not_true_eq_false, ↓reduceIte, Except.map]
    exact ⟨(), trivial, told.2.2⟩

/-- The cursor moves if it is where the window found it and its place can hold
the new position. -/
theorem settle_answers {tally : Tally}
    (there : worker.moves tally = true →
      desk.cursor worker.cursors entity = tally.cursorBefore ∧
        worker.cursors.Holds tally.cursorAfter) :
    (worker.settle entity tally).Answers desk fun _ after => calm after.around := by
  unfold settle
  change Answers (if worker.moves tally then _ else _) desk _
  split
  · rename_i further
    obtain ⟨found, holds⟩ := there further
    apply (advanceCursor_answers undisturbed quiet found holds).bind
    intro _ advanced still
    unfold Answers Ends
    rw [exec_bind_of_ok (exec_attempt _ advanced)]
    exact ⟨(), rfl, meet_onStore_calm undisturbed still _ _⟩
  · exact answers_pure _ quiet

/-- The end of a window of a dry run changes nothing. -/
theorem settle_dry_answers (dry : worker.options.dryRun = true) (tally : Tally) :
    (worker.settle entity tally).Answers desk fun _ after => desk.Still calm after := by
  have unmoved : worker.moves tally = false := by simp [moves, dry]
  have answers : (worker.settle entity tally).Answers desk fun _ after => calm after.around :=
    settle_answers undisturbed quiet fun moving => absurd moving (by simp [unmoved])
  apply (answers.and_ends (worker.settle_ends entity tally desk)).mono
  intro _ after ended
  obtain ⟨still, ends⟩ := ended
  simp only [unmoved, Bool.false_eq_true, ↓reduceIte] at ends
  exact ⟨ends, still⟩

/-- The end of a window that is no dry run leaves the cursor where it belongs. -/
theorem settle_real_answers (real : worker.options.dryRun = false) {tally : Tally}
    (there : desk.cursor worker.cursors entity = tally.cursorBefore)
    (onward : tally.cursorBefore ≤ tally.cursorAfter)
    (holds : tally.cursorBefore < tally.cursorAfter → worker.cursors.Holds tally.cursorAfter) :
    (worker.settle entity tally).Answers desk fun _ after => calm after.around ∧
      after.source = desk.source ∧ after.store.rows = desk.store.rows ∧
      after.cursor worker.cursors entity = tally.cursorAfter ∧
      ∀ other, other ≠ entity →
        after.cursor worker.cursors other = desk.cursor worker.cursors other := by
  have answers : (worker.settle entity tally).Answers desk fun _ after => calm after.around :=
    settle_answers undisturbed quiet fun moving =>
      ⟨there, holds (by simpa [moves, real] using moving)⟩
  have moved := @settle_moved _ worker entity (fun _ => True) (fun _ => trivial) tally desk real
    there onward
  apply ((answers.and_ends (worker.settle_frame entity tally desk)).and_ends moved).mono
  intro _ after ended
  obtain ⟨⟨still, source, records, _⟩, moved⟩ := ended
  exact ⟨still, source, records.rows.symm, moved.cursor, fun other => moved.cursor_other⟩

end

end Worker

end RecordSync.Run
