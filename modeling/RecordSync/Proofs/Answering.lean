import RecordSync.Proofs.Accounting
import RecordSync.Proofs.Ceiling

/-! Runs that come to an answer. Whatever fails about single rows, and however often, is
taken into account and ends no run; only the feed, the cursor, the ledger and the
quarantine have to be there. -/

namespace RecordSync

open RecordSync.Calendar RecordSync.Change RecordSync.Feed RecordSync.Record RecordSync.Store

namespace Run

open Work

def Call.isAboutRow : Call → Bool
  | .read .. | .write .. | .delete .. => true
  | _ => false

namespace Worker

/-- Surroundings in which no call ends a run: what calls about rows meet can be tried again,
but for a dry run, and calls about the feed, the cursor, the ledger and the quarantine meet
no fault. -/
structure Steady (worker : Worker σ) (entity : Entity) : Prop where
  rows : ∀ call around fault, call.isAboutRow = true →
    (worker.surroundings.meet call around).1 = some fault →
    fault.isTransient = true ∧ worker.options.dryRun = false
  fetch : ∀ around, (worker.surroundings.meet (.fetch entity) around).1 = none
  loadCursor : ∀ around, (worker.surroundings.meet (.loadCursor entity) around).1 = none
  advanceCursor : ∀ around, (worker.surroundings.meet (.advanceCursor entity) around).1 = none
  recordFailure : ∀ externalId around,
    (worker.surroundings.meet (.recordFailure entity externalId) around).1 = none
  surrender : ∀ externalId around,
    (worker.surroundings.meet (.surrender entity externalId) around).1 = none

end Worker

end Run

namespace Store

def Readable (store : Store) : Prop :=
  ∀ entity externalId, ∃ found, store.read entity externalId = .ok found

theorem read_transient {store : Store} {entity : Entity} {externalId : String} {fault : SyncFault}
    (refused : store.read entity externalId = .error fault) : fault.isTransient = true := by
  unfold Store.read at refused
  split at refused
  · cases refused
  · split at refused <;> cases refused
    rfl

theorem upsert_transient {store : Store} {author : Author} {row : Row} {fault : SyncFault}
    (refused : store.upsert author row = .error fault) : fault.isTransient = true := by
  unfold Store.upsert at refused
  split at refused
  · unfold Store.insert at refused
    dsimp only at refused
    split at refused
    · cases refused
      rfl
    · split at refused
      · cases refused
        rfl
      · split at refused <;> cases refused
        rfl
  · unfold Store.overwrite at refused
    dsimp only at refused
    split at refused
    · cases refused
      rfl
    · split at refused <;> cases refused
      rfl

/-- No plan is refused for good. -/
theorem carryOut_transient {store : Store} {author : Author} {plan : Plan} {fault : SyncFault}
    (refused : store.carryOut author plan = .error fault) : fault.isTransient = true := by
  have written {row : Row} {outcome : Outcome} (refused : (store.upsert author row).map
      (fun store => (outcome, store)) = .error fault) : fault.isTransient = true := by
    cases upserted : store.upsert author row with
    | ok after =>
      rw [upserted] at refused
      cases refused
    | error other =>
      rw [upserted] at refused
      cases refused
      exact upsert_transient upserted
  cases plan with
  | insert row => exact written refused
  | update row stale changed previous => exact written refused
  | delete entity externalId => cases refused
  | skip outcome => cases refused

end Store

namespace Run

open Work

/-- Work whose faults can all be tried again. -/
def Work.Passing {σ α : Type} (work : Work σ α) (desk : Desk σ) : Prop :=
  work.Ends desk fun result _ => ∀ fault, result = .error fault → fault.isTransient = true

theorem Work.Passing.bind {σ α β : Type} {work : Work σ α} {desk : Desk σ}
    {next : α → Work σ β} (first : work.Passing desk)
    (rest : ∀ value after, (next value).Passing after) : Work.Passing (work >>= next) desk := by
  apply Ends.bind first
  · rintro fault after passing _ ⟨⟩
    exact passing fault rfl
  · intro value after _
    exact rest value after

/-- Every question to the surroundings has an answer. -/
theorem Worker.ask_serves {σ α : Type} (question : σ → α × σ) (desk : Desk σ) :
    (ask question).Answers desk fun _ after => desk.Alike after :=
  ⟨_, rfl, ⟨rfl, rfl⟩, rfl⟩

theorem Worker.onStore_passing {σ α : Type} {operation : Store → Except SyncFault (α × Store)}
    (transient : ∀ store fault, operation store = .error fault → fault.isTransient = true)
    (desk : Desk σ) : (onStore operation).Passing desk := by
  apply (onStore_ends operation desk).mono
  rintro result after ends fault rfl
  exact transient _ _ ends.1

namespace Worker

variable {σ : Type} {worker : Worker σ} {entity : Entity} {desk : Desk σ} {change : Change}
  {now : Instant} {entry : Entry}

/-- A dry run changes nothing by what it makes of a record. -/
theorem step_dry (dry : worker.options.dryRun = true) (progress : Progress) (entry : Entry)
    (desk : Desk σ) :
    (worker.step entity progress entry).Ends desk fun _ after => desk.Alike after := by
  unfold step
  split
  · exact ends_pure _ (.refl desk)
  · apply (worker.isCancelled_ends desk).bind
    · intro fault after told
      exact told.2
    · intro cancelled asked told
      split
      · exact ends_pure _ told.2
      · apply (worker.dealWith_dry entity progress.planned entry asked dry).bind
        · intro fault after alike
          exact told.2.trans alike
        · intro answer after alike
          exact ends_pure _ (told.2.trans alike)

section
variable (steady : worker.Steady entity)
include steady

theorem meet_passing {call : Call} (about : call.isAboutRow = true) (desk : Desk σ) :
    (worker.meet call).Passing desk := by
  unfold Passing Ends
  rw [exec_meet]
  intro fault refused
  cases met : (worker.surroundings.meet call desk.around).1 with
  | none =>
    rw [met] at refused
    cases refused
  | some other =>
    rw [met] at refused
    cases refused
    exact (steady.rows call desk.around fault about met).1

/-- Whatever an attempt on a change meets can be tried again. -/
theorem apply_passing (change : Change) (now : Instant) (desk : Desk σ) :
    (worker.apply change now).Passing desk := by
  have carried (plan : Plan) (desk : Desk σ) : (worker.carryOut plan now).Passing desk := by
    have written (plan : Plan) (desk : Desk σ) :
        (onStore fun store => store.carryOut ⟨worker.actor, now⟩ plan).Passing desk :=
      onStore_passing (fun _ _ refused => carryOut_transient refused) desk
    unfold carryOut
    cases plan with
    | insert row => exact (meet_passing steady rfl desk).bind fun _ => written _
    | update row stale changed previous =>
      exact (meet_passing steady rfl desk).bind fun _ => written _
    | delete entity externalId => exact (meet_passing steady rfl desk).bind fun _ => written _
    | skip outcome => exact written _ desk
  have readOnce (entity : Entity) (externalId : String) (desk : Desk σ) :
      (worker.readRow entity externalId).Passing desk := by
    apply (meet_passing steady rfl desk).bind
    intro _ after
    apply onStore_passing
    intro store fault refused
    cases read : store.read entity externalId with
    | ok found =>
      rw [read] at refused
      cases refused
    | error other =>
      rw [read] at refused
      cases refused
      exact read_transient read
  have previewed : (worker.preview change now).Passing desk := by
    unfold preview
    split
    · exact nofun
    · exact (readOnce _ _ desk).bind fun _ _ => nofun
  exact previewed.bind fun plan after => carried plan after

/-- An attempt on a change comes to an end, good or bad. -/
theorem applyOnce_serves (change : Change) (desk : Desk σ) :
    (worker.applyOnce change).Answers desk fun _ _ => True := by
  have told : worker.now.exec desk = _ := exec_ask _ desk
  unfold applyOnce Answers Ends
  rw [exec_bind_of_ok told, exec_bind_of_ok (exec_attempt _ _)]
  split
  · exact ⟨_, rfl, trivial⟩
  · rename_i fault refused
    rw [if_pos (apply_passing steady change _ _ fault refused)]
    exact ⟨_, rfl, trivial⟩

/-- A record whose attempts are used up is put off or given up. -/
theorem deferOrSurrender_serves (held : entry.sequence ≤ greatestPosition) (change : Change)
    (fault : SyncFault) (now : Instant) (desk : Desk σ) :
    (worker.deferOrSurrender entity entry change fault now).Answers desk fun _ _ => True := by
  unfold deferOrSurrender
  split
  · obtain ⟨count, ledger, recorded⟩ :=
      recordFailure_of_held held entity change.externalId? fault.message now desk.store
    rw [← bind_assoc]
    apply (meet_onStore_serves (steady.recordFailure _) recorded).bind
    intro attempts counted _
    split
    · obtain ⟨id, given, surrendered⟩ := @surrender_of_held
        ⟨entity, entry.sequence, change.externalId?, fault.message, attempts,
          entry.delivery.payload⟩ held ⟨worker.actor, now⟩ counted.store
      rw [← bind_assoc]
      apply (meet_onStore_serves (steady.surrender _) surrendered).bind
      intro _ after _
      exact answers_pure _ trivial
    · exact answers_pure _ trivial
  · exact answers_pure _ trivial

theorem applyWithRetries_serves (held : entry.sequence ≤ greatestPosition) (change : Change)
    (retry left : Nat) (desk : Desk σ) :
    (worker.applyWithRetries entity entry change retry left).Answers desk fun _ _ => True := by
  induction left generalizing retry desk with
  | zero =>
    unfold applyWithRetries
    apply (applyOnce_serves steady change desk).bind
    rintro (⟨fault, now⟩ | outcome) after _
    · exact deferOrSurrender_serves steady held change fault now after
    · exact answers_pure _ trivial
  | succ left ih =>
    unfold applyWithRetries
    apply (applyOnce_serves steady change desk).bind
    rintro (⟨fault, now⟩ | outcome) after _
    · apply (ask_serves worker.surroundings.cancelled after).bind
      intro cancelled asked _
      split
      · exact deferOrSurrender_serves steady held change fault now asked
      · exact (ask_serves _ asked).bind fun _ rested _ => ih (retry + 1) rested
    · exact answers_pure _ trivial

/-- A dry run plans whatever it comes to if every row can be read. -/
theorem planOn_serves (dry : worker.options.dryRun = true) (rows : desk.store.Readable)
    (planned : Planned) (change : Change) (now : Instant) :
    (worker.planOn planned change now).Answers desk fun _ _ => True := by
  unfold planOn
  split
  · exact answers_pure _ trivial
  · rename_i key _
    split
    · exact answers_pure _ trivial
    · have faultless (around : σ) :
          (worker.surroundings.meet (.read key.1 key.2) around).1 = none := by
        cases met : (worker.surroundings.meet (.read key.1 key.2) around).1 with
        | none => rfl
        | some fault =>
          have real := (steady.rows _ around fault rfl met).2
          rw [dry] at real
          cases real
      obtain ⟨found, read⟩ := rows key.1 key.2
      have reads : (worker.readRow key.1 key.2).Answers desk fun _ _ => True := by
        unfold readRow
        apply (meet_serves faultless desk).bind
        intro _ met alike
        unfold Answers Ends
        rw [exec_onStore, alike.store, read]
        exact ⟨found, rfl, trivial⟩
      exact reads.bind fun _ _ _ => answers_pure _ trivial

theorem dealWith_serves (held : entry.sequence ≤ greatestPosition)
    (rows : worker.options.dryRun = true → desk.store.Readable) (planned : Planned) :
    (worker.dealWith entity planned entry).Answers desk fun _ _ => True := by
  unfold dealWith
  cases dry : worker.options.dryRun with
  | true =>
    simp only [↓reduceIte]
    apply (ask_serves worker.surroundings.now desk).bind
    intro now told alike
    apply (planOn_serves steady dry (alike.store ▸ rows dry) planned _ now).bind
    exact fun _ _ _ => answers_pure _ trivial
  | false =>
    simp only [Bool.false_eq_true, ↓reduceIte]
    apply (applyWithRetries_serves steady held _ _ _ desk).bind
    exact fun _ _ _ => answers_pure _ trivial

theorem step_serves (held : entry.sequence ≤ greatestPosition)
    (rows : worker.options.dryRun = true → desk.store.Readable) (progress : Progress) :
    (worker.step entity progress entry).Answers desk fun _ after =>
      worker.options.dryRun = true → after.store = desk.store := by
  have serves : (worker.step entity progress entry).Answers desk fun _ _ => True := by
    unfold step
    split
    · exact answers_pure _ trivial
    · apply (ask_serves worker.surroundings.cancelled desk).bind
      intro cancelled asked alike
      split
      · exact answers_pure _ trivial
      · rw [← alike.store] at rows
        exact (dealWith_serves steady held rows progress.planned).bind
          fun _ _ _ => answers_pure _ trivial
  cases dry : worker.options.dryRun with
  | true =>
    apply (serves.and_ends (step_dry dry progress entry desk)).mono
    rintro next after ⟨_, alike⟩ _
    exact alike.store
  | false => exact serves.mono fun _ _ _ => nofun

/-- The records of a page, dealt with one after the other. -/
theorem foldlM_step_serves {entries : List Entry}
    (held : ∀ entry ∈ entries, entry.sequence ≤ greatestPosition)
    (rows : worker.options.dryRun = true → desk.store.Readable) (progress : Progress) :
    (entries.foldlM (worker.step entity) progress).Answers desk fun _ after =>
      worker.options.dryRun = true → after.store = desk.store := by
  induction entries generalizing progress desk with
  | nil => exact answers_pure _ fun _ => rfl
  | cons entry rest ih =>
    obtain ⟨first, others⟩ := List.forall_mem_cons.mp held
    rw [List.foldlM_cons]
    apply (step_serves steady first rows progress).bind
    intro next after unwritten
    have still : worker.options.dryRun = true → after.store.Readable := by
      intro dry
      rw [unwritten dry]
      exact rows dry
    apply (ih others still next).mono
    intro last final same dry
    exact (same dry).trans (unwritten dry)

theorem openWindow_serves (readable : desk.source.Readable entity) (onward : Option Nat)
    (planned : Planned) : (worker.openWindow entity onward planned).Answers desk fun _ _ => True := by
  have fetched (position : Nat) {desk : Desk σ} (readable : desk.source.Readable entity) :
      (worker.fetch entity position).Answers desk fun _ _ => True := by
    unfold fetch
    apply (meet_serves steady.fetch desk).bind
    intro _ met alike
    apply Ends.of_get
    obtain ⟨page, source, fetched⟩ := readable.fetch position worker.options.window
    rw [alike.source, fetched]
    exact ⟨page, rfl, trivial⟩
  have loaded : (worker.loadCursor entity).Answers desk fun _ after => desk.Alike after := by
    unfold loadCursor
    apply (meet_serves steady.loadCursor desk).bind
    intro _ met alike
    cases worker.cursors <;> exact ⟨_, rfl, alike⟩
  unfold openWindow
  cases onward with
  | some position =>
    simp only [pure_bind]
    exact (fetched position readable).bind fun _ _ _ => answers_pure _ trivial
  | none =>
    apply loaded.bind
    intro cursor found alike
    exact (fetched cursor (alike.source ▸ readable)).bind fun _ _ _ => answers_pure _ trivial

end

/-- A desk at which a steady worker comes to an answer. -/
structure Ready (worker : Worker σ) (entity : Entity) (desk : Desk σ) : Prop where
  sound : desk.source.Sound
  readable : desk.source.Readable entity
  held : desk.source.extent entity ≤ greatestPosition
  rows : worker.options.dryRun = true → desk.store.Readable

theorem Ready.later {after : Desk σ} (ready : worker.Ready entity desk)
    (feed : desk.SameFeed after)
    (unwritten : worker.options.dryRun = true → after.store = desk.store) :
    worker.Ready entity after := by
  refine ⟨feed.sound, (feed.readable entity).mpr ready.readable, ?_, ?_⟩
  · rw [feed.extent]
    exact ready.held
  · intro dry
    rw [unwritten dry]
    exact ready.rows dry

section
variable (steady : worker.Steady entity) (ready : worker.Ready entity desk)
include steady ready

/-- One window comes to an answer. -/
theorem window_serves {position : Nat} {onward : Option Nat}
    (start : worker.SetsOut entity desk position onward)
    (there : worker.options.dryRun = false → desk.cursor worker.cursors entity = position)
    (planned : Planned) :
    (worker.windowOn entity onward planned).Answers desk fun window after =>
      worker.Ready entity after ∧ (worker.options.dryRun = false →
        after.cursor worker.cursors entity = window.1.cursorAfter) := by
  have serves : (worker.windowOn entity onward planned).Answers desk fun _ after =>
        worker.options.dryRun = true → after.store = desk.store := by
    apply ((openWindow_serves steady ready.readable onward planned).and_ends
      (openWindow_from start planned ready.sound)).bind
    rintro ⟨page, progress⟩ fetched ⟨_, reread, opened⟩
    obtain ⟨rfl, covers⟩ := opened _ rfl
    have held (entry : Entry) (member : entry ∈ page.entries) :
        entry.sequence ≤ greatestPosition :=
      Nat.le_trans (Source.le_extent_of_mem (covers.mem member).1) ready.held
    have rows : worker.options.dryRun = true → fetched.store.Readable := by
      rw [reread.store]
      exact ready.rows
    unfold finish
    apply (((foldlM_step_serves steady held rows _).and_ends
      (worker.foldlM_step_frame entity page.entries _ fetched)).and_ends
      (worker.foldlM_step_midPage entity page position planned fetched)).bind
    rintro progress attended ⟨⟨unwritten, frame⟩, counted⟩
    obtain ⟨_, trail, skipped, midPage⟩ := counted progress rfl
    cases dry : worker.options.dryRun with
    | true =>
      have still : worker.settle entity (worker.conclude page progress) = pure () := by
        simp [settle, dry]
      rw [still, pure_bind]
      exact answers_pure _ fun _ => (unwritten dry).trans reread.store
    | false =>
      have found : attended.cursor worker.cursors entity =
          (worker.conclude page progress).cursorBefore := by
        rw [frame.1.cursor frame.2, reread.cursor, there dry]
        exact midPage.cursorBefore.symm
      have early : (worker.conclude page progress).cursorBefore = position := midPage.cursorBefore
      have late := midPage.cursorAfter_le covers
      have bound := ready.held
      apply (settle_serves steady.advanceCursor found (by omega)).bind
      exact fun _ _ _ => answers_pure _ nofun
  apply (serves.and_ends (window_midPage start there planned ready.sound)).mono
  rintro window after ⟨unwritten, feed, answers⟩
  obtain ⟨_, _, _, _, _, _, _, _, cursor⟩ := answers window rfl
  exact ⟨ready.later feed unwritten, cursor⟩

end

theorem drainOn_serves (steady : worker.Steady entity) (most : Option Nat) (fuel : Nat)
    {total : Tally} (planned : Planned) {desk : Desk σ} (ready : worker.Ready entity desk)
    (there : worker.options.dryRun = false →
      desk.cursor worker.cursors entity = total.cursorAfter) :
    (worker.drainOn entity most fuel total planned).Answers desk fun _ _ => True := by
  induction fuel generalizing total planned desk with
  | zero => exact answers_pure _ trivial
  | succ fuel ih =>
    rw [drainOn_succ]
    split
    · apply (window_serves steady ready (setsOut_onward there) there planned).bind
      rintro ⟨batch, planned⟩ after ⟨still, cursor⟩
      exact ih planned still cursor
    · exact answers_pure _ trivial

theorem runUntilIdle_serves (steady : worker.Steady entity) (most : Option Nat)
    (ready : worker.Ready entity desk) :
    (worker.runUntilIdle entity most).Answers desk fun _ _ => True := by
  refine Ends.congr ?_ (worker.exec_runUntilIdle entity most desk)
  have first : worker.SetsOut entity desk (desk.cursor worker.cursors entity) none := rfl
  apply Answers.bind (window_serves steady ready first (fun _ => rfl) [])
  rintro ⟨batch, planned⟩ after ⟨still, cursor⟩
  exact drainOn_serves steady most _ planned still cursor

end Worker

end Run

end RecordSync
