import RecordSync.Proofs.Attempts
import RecordSync.Proofs.Coverage
import RecordSync.Proofs.Runs

/-! How a run comes to a record: it passes windows, and in the last of them the
records before. From there on its end depends on what is still ahead. -/

namespace RecordSync.Run

open RecordSync.Calendar RecordSync.Change RecordSync.Feed RecordSync.Record RecordSync.Store
open Work

variable {σ : Type}

namespace Request

/-- How many windows a run may take up, as far as its caller says. -/
def most : Request → Option Nat
  | .batch => some 1
  | .untilIdle maxBatches => maxBatches

def further (entity : Entity) (source : Source) : Request → Nat
  | .batch => 0
  | .untilIdle _ => entryBound source entity

end Request

def Tally.join (total : Option Tally) (batch : Tally) : Tally := total.elim batch (·.absorb batch)

theorem Tally.join_stop (total : Option Tally) (batch : Tally) :
    (Tally.join total batch).stop = batch.stop := by
  cases total <;> rfl

theorem Tally.join_cursorAfter (total : Option Tally) (batch : Tally) :
    (Tally.join total batch).cursorAfter = batch.cursorAfter := by
  cases total <;> rfl

/-- A run between two windows: the counts so far, how many windows may follow the next
one, and the desk. -/
structure Interim (σ : Type) where
  total : Option Tally
  left : Nat
  planned : Planned
  desk : Desk σ

/-- A run at a record of a window: the counts of the windows before, how many may follow
this one, its page, the records behind this one, how far it got, and the desk. -/
structure Arrival (σ : Type) where
  total : Option Tally
  left : Nat
  page : Page
  behind : List Entry
  progress : Progress
  desk : Desk σ

/-- How far a window got that came to some records. -/
structure Progress.Onward (opened : Progress) (page : List Entry) (progress : Progress) : Prop where
  cursorBefore : progress.tally.cursorBefore = opened.tally.cursorBefore
  through : progress.through = opened.through ∨ ∃ entry ∈ page, progress.through = entry.sequence
  cuts : ∀ stop, progress.stop = some stop → opened.stop = some stop ∨ stop.Cuts

/-- What is no matter for other records than those that a window came to. -/
structure Desk.Visited (before : Desk σ) (entity : Entity) (page : List Entry) (after : Desk σ) :
    Prop extends before.Attended after where
  others : ∀ sequence, (∀ entry ∈ page, sequence ≠ entry.sequence) →
    before.store.Untouched entity sequence after.store

theorem Progress.Onward.start (opened : Progress) (page : List Entry) : opened.Onward page opened :=
  ⟨rfl, .inl rfl, fun _ same => .inl same⟩

theorem Progress.Onward.trans {opened middle progress : Progress} {page : List Entry}
    (one : opened.Onward page middle) (two : middle.Onward page progress) :
    opened.Onward page progress := by
  refine ⟨two.cursorBefore.trans one.cursorBefore, ?_, ?_⟩
  · rcases two.through with same | passed
    · rw [same]
      exact one.through
    · exact .inr passed
  · intro stop stops
    rcases two.cuts stop stops with earlier | cuts
    · exact one.cuts stop earlier
    · exact .inr cuts

theorem Desk.Visited.start {desk : Desk σ} (booked : desk.store.Booked) (entity : Entity)
    (page : List Entry) : desk.Visited entity page desk :=
  ⟨.refl booked, fun _ _ => booked.still rfl⟩

theorem Desk.Visited.trans {first second third : Desk σ} {entity : Entity} {page : List Entry}
    (one : first.Visited entity page second) (two : second.Visited entity page third) :
    first.Visited entity page third :=
  ⟨one.toAttended.trans two.toAttended, fun sequence apart =>
    (one.others sequence apart).trans (two.others sequence apart)⟩

namespace Worker

def window (worker : Worker σ) (entity : Entity) (planned : Planned) :
    Work σ (Tally × Planned) := do
  let opening ← worker.openWindow entity none planned
  worker.finish entity opening.1 opening.2

/-- What a run does from a window on. -/
def resume (worker : Worker σ) (entity : Entity) (most : Option Nat) (interim : Interim σ) :
    Work σ Tally := do
  let (batch, planned) ← worker.window entity interim.planned
  worker.drainOn entity most interim.left (.join interim.total batch) planned

/-- What a run does once a record is dealt with. -/
def carryOn (worker : Worker σ) (entity : Entity) (most : Option Nat) (arrival : Arrival σ)
    (progress : Progress) : Work σ Tally := do
  let progress ← arrival.behind.foldlM (worker.step entity) progress
  worker.settle entity (worker.conclude arrival.page progress)
  worker.drainOn entity most arrival.left
    (.join arrival.total (worker.conclude arrival.page progress)) progress.planned

/-- The windows that a run passes, each of them full. -/
inductive Passes (worker : Worker σ) (entity : Entity) (most : Option Nat) (first : Interim σ) :
    Interim σ → Prop where
  | start : Passes worker entity most first first
  | window {interim : Interim σ} {left : Nat} {batch : Tally} {planned : Planned} {after : Desk σ}
      (passes : Passes worker entity most first interim) (more : interim.left = left + 1)
      (ran : (worker.window entity interim.planned).exec interim.desk =
        (.ok (batch, planned), after))
      (goes : goesOn most (.join interim.total batch) = true) :
      Passes worker entity most first ⟨some (.join interim.total batch), left, planned, after⟩

/-- A run comes to a record, without a reason to stop. -/
inductive Reaches (worker : Worker σ) (entity : Entity) (request : Request) (start : Desk σ)
    (entry : Entry) : Arrival σ → Prop where
  | intro {interim : Interim σ} {page : Page} {opening progress : Progress}
      {before behind : List Entry} {fetched desk : Desk σ}
      (passes : worker.Passes entity request.most
        ⟨none, request.further entity start.source, [], start⟩ interim)
      (opened : (worker.openWindow entity none interim.planned).exec interim.desk =
        (.ok (page, opening), fetched))
      (shape : page.entries = before ++ entry :: behind)
      (passed : (before.foldlM (worker.step entity) opening).exec fetched = (.ok progress, desk))
      (going : progress.stop = none) :
      Reaches worker entity request start entry
        ⟨interim.total, interim.left, page, behind, progress, desk⟩

variable {worker : Worker σ} {entity : Entity} {request : Request} {most : Option Nat}
  {start desk after : Desk σ} {entry : Entry} {arrival : Arrival σ} {first interim : Interim σ}
  {total : Tally} {planned : Planned}

theorem drainOn_of_stays (stays : goesOn most total = false) (left : Nat) :
    worker.drainOn entity most left total planned = pure total := by
  cases left with
  | zero => rfl
  | succ left => simp [drainOn, stays]

theorem drainOn_of_goes (real : worker.options.dryRun = false) (goes : goesOn most total = true)
    (left : Nat) : worker.drainOn entity most (left + 1) total planned =
      worker.window entity planned >>= fun window =>
        worker.drainOn entity most left (total.absorb window.1) window.2 := by
  rw [drainOn_succ, if_pos goes, onward_of_real real]
  rfl

/-- A run of either kind takes up its first window and goes on from there. -/
theorem exec_serve (request : Request) (desk : Desk σ) :
    (worker.serve entity request).exec desk =
      (worker.resume entity request.most
        ⟨none, request.further entity desk.source, [], desk⟩).exec desk := by
  cases request with
  | batch =>
    show (worker.processBatch entity).exec desk = _
    rw [processBatch_eq_windowOn]
    rfl
  | untilIdle maxBatches => exact worker.exec_runUntilIdle entity maxBatches desk

theorem Passes.exec (real : worker.options.dryRun = false)
    (passes : worker.Passes entity most first interim) :
    (worker.resume entity most first).exec first.desk =
      (worker.resume entity most interim).exec interim.desk := by
  induction passes with
  | start => rfl
  | @window interim left batch planned after passes more ran goes ih =>
    rw [ih]
    conv_lhs => unfold resume
    rw [exec_bind_of_ok ran, more]
    dsimp only
    rw [drainOn_of_goes real goes]
    rfl

/-- From a record on, a run does what is left to do. -/
theorem Reaches.exec (real : worker.options.dryRun = false)
    (reaches : worker.Reaches entity request start entry arrival) :
    (worker.serve entity request).exec start =
      exec (worker.step entity arrival.progress entry >>=
        worker.carryOn entity request.most arrival) arrival.desk := by
  obtain ⟨passes, opened, shape, passed, going⟩ := reaches
  rw [exec_serve, passes.exec real]
  unfold resume window finish
  simp only [bind_assoc]
  rw [exec_bind_of_ok opened, shape, List.foldlM_append, bind_assoc, exec_bind_of_ok passed,
    List.foldlM_cons]
  simp only [bind_assoc, pure_bind]
  rfl

/-- Once a record is dealt with, and there is no reason to stop, the run comes to the one
behind it. -/
theorem Reaches.next (reaches : worker.Reaches entity request start entry arrival)
    {next : Entry} {rest : List Entry} {progress : Progress}
    (behind : arrival.behind = next :: rest)
    (dealt : (worker.step entity arrival.progress entry).exec arrival.desk = (.ok progress, after))
    (going : progress.stop = none) :
    worker.Reaches entity request start next
      { arrival with behind := rest, progress, desk := after } := by
  obtain @⟨interim, page, opening, reached, before, _, fetched, desk, passes, opened, shape, passed,
    _⟩ := reaches
  cases behind
  have further : ((before ++ [entry]).foldlM (worker.step entity) opening).exec fetched =
      (.ok progress, after) := by
    rw [List.foldlM_append, exec_bind_of_ok passed, List.foldlM_cons, exec_bind_of_ok dealt]
    rfl
  exact .intro passes opened (by rw [shape, List.append_assoc]; rfl) further going

theorem step_onward (entity : Entity) (real : worker.options.dryRun = false) {page : List Entry}
    (member : entry ∈ page) (progress : Progress) (desk : Desk σ) :
    (worker.step entity progress entry).Ends desk fun result _ =>
      ∀ next, result = .ok next → progress.Onward page next := by
  rw [step_eq_attend, map_eq_pure_bind]
  apply (worker.attend_ends entity progress entry desk real).bind
  · intro fault after _ next impossible
    cases impossible
  · intro answer after attended
    refine ends_pure _ ?_
    rintro _ ⟨⟩
    cases attended with
    | unreached stopped => exact .start progress page
    | cancelled going alike =>
      refine ⟨rfl, .inl rfl, ?_⟩
      rintro _ ⟨⟩
      exact .inr ⟨nofun, nofun⟩
    | @dealt _ ending going dealt =>
      refine ⟨progress.note_cursorBefore _ _ _, ?_, ?_⟩
      · cases ending with
        | terminal outcome => exact .inr ⟨entry, member, rfl⟩
        | quarantined => exact .inr ⟨entry, member, rfl⟩
        | deferred => exact .inl rfl
      · intro stop stops
        cases ending with
        | terminal outcome => exact .inr (Options.stopAfter_cuts stops)
        | quarantined => exact .inl stops
        | deferred =>
          cases stops
          exact .inr ⟨nofun, nofun⟩

theorem step_visited (entity : Entity) (real : worker.options.dryRun = false) {page : List Entry}
    (member : entry ∈ page) (progress : Progress) (booked : desk.store.Booked) :
    (worker.step entity progress entry).Ends desk fun _ after =>
      desk.Visited entity page after := by
  have spared (sequence : Nat) (different : sequence ≠ entry.sequence) :=
    @step_untouched _ worker entity entry desk sequence booked different real progress
  exact ⟨(spared (entry.sequence + 1) (by omega)).1,
    fun sequence apart => (spared sequence (apart entry member)).2⟩

/-- Some records of a window, one after the other. -/
theorem foldlM_step_visited (entity : Entity) (real : worker.options.dryRun = false)
    (page : List Entry) (opened : Progress) (booked : desk.store.Booked) :
    (page.foldlM (worker.step entity) opened).Ends desk
      (Either (fun progress after => opened.Onward page progress ∧ desk.Visited entity page after)
        fun _ after => desk.Visited entity page after) := by
  apply (foldlM_ends (fun rest progress after => rest ⊆ page ∧ opened.Onward page progress ∧
    desk.Visited entity page after) (fun _ after => desk.Visited entity page after) ?_ page opened
    desk ⟨List.Subset.refl page, .start opened page, .start booked entity page⟩).mono
  · intro result after ends
    cases result with
    | error fault => exact ends
    | ok progress => exact ends.2
  · rintro entry rest progress between ⟨within, onward, visited⟩
    obtain ⟨member, within⟩ := List.cons_subset.mp within
    have visiting := step_visited entity real member progress visited.booked
    unfold Ends
    rcases ran : (worker.step entity progress entry).exec between with ⟨fault | next, after⟩
    · exact visited.trans (visiting.of_exec ran)
    · have further := (step_onward entity real member progress between).of_exec ran next rfl
      exact ⟨within, onward.trans further, visited.trans (visiting.of_exec ran)⟩

/-- A part of a run from one cursor to another, which has nothing to do with the records
up to the first any more. -/
structure Forward (worker : Worker σ) (entity : Entity) (before after : Desk σ) : Prop
    extends before.SameFeed after where
  booked : after.store.Booked
  onward : before.cursor worker.cursors entity ≤ after.cursor worker.cursors entity
  apart : ∀ sequence ≤ before.cursor worker.cursors entity,
    before.store.Apart entity sequence after.store

theorem Forward.trans {before between after : Desk σ} (one : worker.Forward entity before between)
    (two : worker.Forward entity between after) : worker.Forward entity before after :=
  ⟨one.toSameFeed.trans two.toSameFeed, two.booked, one.onward.trans two.onward,
    fun sequence reached => (one.apart sequence reached).trans
      (two.apart sequence (reached.trans one.onward))⟩

theorem Forward.of_alike (alike : desk.Alike after) (sound : desk.source.Sound)
    (booked : desk.store.Booked) : worker.Forward entity desk after := by
  have still (sequence : Nat) : desk.store.Untouched entity sequence after.store :=
    booked.still alike.store
  exact ⟨.of_eq sound alike.source, (still 0).booked, Nat.le_of_eq (alike.cursor _ _).symm,
    fun sequence _ => (still sequence).toApart⟩

theorem Forward.refl (sound : desk.source.Sound) (booked : desk.store.Booked) :
    worker.Forward entity desk desk :=
  .of_alike (.refl desk) sound booked

/-- So is a cursor that moves on, with the ledger cleared up to there or not. -/
theorem Forward.of_moved {position : Nat} {now : Instant}
    (onward : desk.cursor worker.cursors entity ≤ position) (sound : desk.source.Sound)
    (booked : desk.store.Booked)
    (beside : (desk.moved worker.cursors entity position now).SameBeside after)
    (cleared : after.store = (desk.moved worker.cursors entity position now).store ∨
      (desk.moved worker.cursors entity position now).store.clearAttempts entity position =
        .ok after.store) :
    worker.Forward entity desk after ∧ (∀ sequence, desk.store.Apart entity sequence after.store) ∧
      (∀ sequence, position < sequence → desk.store.Untouched entity sequence after.store) ∧
      after.cursor worker.cursors entity = position := by
  have moved (sequence : Nat) : desk.store.Untouched entity sequence
      (desk.moved worker.cursors entity position now).store :=
    booked.untouched (desk.moved_attempts _ _ _ _) (desk.moved_quarantine _ _ _ _)
  have bookedStill := (moved 0).booked
  have apart (sequence : Nat) : desk.store.Apart entity sequence after.store := by
    rcases cleared with same | cleared
    · rw [same]
      exact (moved sequence).toApart
    · exact (moved sequence).toApart.trans (bookedStill.apart_clearAttempts cleared)
  have untouched (sequence : Nat) (ahead : position < sequence) :
      desk.store.Untouched entity sequence after.store := by
    rcases cleared with same | cleared
    · rw [same]
      exact moved sequence
    · exact (moved sequence).trans (bookedStill.untouched_clearAttempts ahead cleared)
  have cursor : after.cursor worker.cursors entity = position := by
    have cursors : after.store.cursors =
        (desk.moved worker.cursors entity position now).store.cursors := by
      rcases cleared with same | cleared
      · rw [same]
      · exact (clearAttempts_onlyAttempts cleared).cursors
    rw [Desk.cursor_congr beside.memory cursors, Desk.cursor_moved_same]
  refine ⟨⟨.of_eq sound ?_, (apart 0).booked, cursor ▸ onward, fun sequence _ => apart sequence⟩,
    apart, untouched, cursor⟩
  rw [beside.source, Desk.moved_source]

/-- The end of a window is no matter for records ahead of the cursor, and others may only
be cleared from the ledger. -/
theorem settle_keeps_forward (real : worker.options.dryRun = false) (tally : Tally)
    (there : desk.cursor worker.cursors entity = tally.cursorBefore)
    (onward : tally.cursorBefore ≤ tally.cursorAfter) (sound : desk.source.Sound)
    (booked : desk.store.Booked) :
    (worker.settle entity tally).Ends desk fun result after =>
      worker.Forward entity desk after ∧
      (∀ sequence, desk.store.Apart entity sequence after.store) ∧
      (∀ sequence, tally.cursorAfter < sequence →
        desk.store.Untouched entity sequence after.store) ∧
      (result = .ok () → after.cursor worker.cursors entity = tally.cursorAfter) := by
  apply (worker.settle_clears entity tally desk).mono
  intro result after ends
  cases result with
  | error fault =>
    exact ⟨.of_alike ends sound booked, fun _ => (booked.still ends.store).toApart,
      fun _ _ => booked.still ends.store, nofun⟩
  | ok _ =>
    simp only at ends ⊢
    split at ends
    · obtain ⟨_, _, around, beside, cleared⟩ := ends
      obtain ⟨forward, apart, untouched, cursor⟩ :=
        Forward.of_moved (there ▸ onward) sound booked beside cleared
      exact ⟨forward, apart, untouched, fun _ => cursor⟩
    · rename_i stays
      simp only [moves, real, Bool.not_false, Bool.true_and, decide_eq_true_eq] at stays
      have cursor := (ends.cursor worker.cursors entity).trans there
      exact ⟨.of_alike ends sound booked, fun _ => (booked.still ends.store).toApart,
        fun _ _ => booked.still ends.store, fun _ => by omega⟩

theorem through_le_cursorAfter (worker : Worker σ) (page : Page) (progress : Progress) :
    progress.through ≤ (worker.conclude page progress).cursorAfter := by
  simp only [conclude]
  split
  · exact Nat.le_refl _
  · exact Nat.le_max_right _ _

/-- A full window moves past its whole page. -/
theorem next_le_cursorAfter {page : Page} {progress : Progress}
    (cuts : ∀ stop, progress.stop = some stop → stop.Cuts)
    (full : (worker.conclude page progress).stop = .windowFull) :
    page.next ≤ (worker.conclude page progress).cursorAfter := by
  have going : progress.stop = none := by
    cases stops : progress.stop with
    | none => rfl
    | some stop =>
      simp only [conclude, stops, Option.getD_some] at full
      exact absurd full (cuts stop stops).2
  simp only [conclude, going, Option.isSome_none, Bool.false_eq_true, ↓reduceIte]
  exact Nat.le_max_left _ _

/-- Records of a window that lie ahead of its cursor. -/
theorem Forward.of_visited {fetched : Desk σ} {page : List Entry} (reread : desk.Reread fetched)
    (ahead : ∀ entry ∈ page, desk.cursor worker.cursors entity < entry.sequence)
    (visited : fetched.Visited entity page after) :
    worker.Forward entity desk after ∧
      after.cursor worker.cursors entity = desk.cursor worker.cursors entity := by
  have stays : after.cursor worker.cursors entity = desk.cursor worker.cursors entity := by
    rw [visited.toSameBeside.cursor visited.cursors, reread.cursor]
  refine ⟨⟨reread.toSameFeed.trans (.of_eq reread.sound visited.source), visited.booked,
    Nat.le_of_eq stays.symm, ?_⟩, stays⟩
  intro sequence reached
  rw [← reread.store]
  refine (visited.others sequence ?_).toApart
  intro entry member
  have := ahead entry member
  omega

/-- A window moves forward. A full one leaves the records ahead of its cursor alone. -/
theorem window_forward (real : worker.options.dryRun = false) (planned : Planned)
    (sound : desk.source.Sound) (booked : desk.store.Booked) :
    (worker.window entity planned).Ends desk fun result after =>
      worker.Forward entity desk after ∧
        ∀ window, result = .ok window → window.1.stop = .windowFull → ∀ sequence,
          after.cursor worker.cursors entity < sequence →
            desk.store.Untouched entity sequence after.store := by
  apply (worker.openWindow_ends entity none planned desk sound).bind
  · intro fault after ends
    have same (sequence : Nat) : desk.store.Untouched entity sequence after.store :=
      booked.still ends.1.store
    refine ⟨⟨ends.1.toSameFeed, (same 0).booked, ?_, fun sequence _ => (same sequence).toApart⟩, ?_⟩
    · rw [ends.1.cursor]
    · intro _ impossible
      cases impossible
  · intro opening fetched ends
    obtain ⟨page, opened⟩ := opening
    obtain ⟨reread, opens⟩ := ends
    obtain ⟨cursor, there, rfl, _, covers⟩ := opens _ rfl
    obtain rfl : cursor = desk.cursor worker.cursors entity := there rfl
    have ahead (entry : Entry) (member : entry ∈ page.entries) :
        desk.cursor worker.cursors entity < entry.sequence := (covers.mem member).2
    obtain ⟨_, _, inside, _⟩ := covers.split (desk.source.entries_pairwise entity)
      fun _ => Source.le_extent_of_mem
    unfold finish
    apply (foldlM_step_visited entity real page.entries _ (reread.store ▸ booked)).bind
    · intro fault after visited
      exact ⟨(Forward.of_visited reread ahead visited).1, fun _ impossible => by cases impossible⟩
    · rintro progress attended ⟨onward, visited⟩
      obtain ⟨forward, stays⟩ := Forward.of_visited reread ahead visited
      have start : progress.tally.cursorBefore = desk.cursor worker.cursors entity :=
        onward.cursorBefore
      have far : desk.cursor worker.cursors entity ≤ progress.through := by
        rcases onward.through with same | ⟨entry, member, same⟩
        · exact Nat.le_of_eq same.symm
        · exact same ▸ Nat.le_of_lt (ahead entry member)
      have further := Nat.le_trans far (worker.through_le_cursorAfter page progress)
      apply (settle_keeps_forward real (worker.conclude page progress) (stays.trans start.symm)
        (start ▸ further) forward.sound visited.booked).bind
      · rintro fault after ⟨settled, _⟩
        exact ⟨forward.trans settled, fun _ impossible => by cases impossible⟩
      · rintro _ after ⟨settled, _, untouched, cursor⟩
        refine ends_pure _ ⟨forward.trans settled, ?_⟩
        rintro _ ⟨⟩ full sequence later
        have beyond : (worker.conclude page progress).cursorAfter < sequence := cursor rfl ▸ later
        have next : page.next ≤ (worker.conclude page progress).cursorAfter :=
          next_le_cursorAfter (fun stop stops => (onward.cuts stop stops).resolve_left nofun) full
        rw [← reread.store]
        refine (visited.others sequence ?_).trans (untouched sequence beyond)
        intro entry member
        have within : entry.sequence ≤ page.next := inside entry member
        omega

/-- So do the windows after the first. -/
theorem drainOn_forward (real : worker.options.dryRun = false) (left : Nat) (total : Tally)
    (planned : Planned) (sound : desk.source.Sound) (booked : desk.store.Booked) :
    (worker.drainOn entity most left total planned).Ends desk fun _ after =>
      worker.Forward entity desk after := by
  induction left generalizing total planned desk with
  | zero => exact ends_pure _ (.refl sound booked)
  | succ left ih =>
    cases goes : goesOn most total with
    | false =>
      rw [drainOn_of_stays goes]
      exact ends_pure _ (.refl sound booked)
    | true =>
      rw [drainOn_of_goes real goes]
      apply (window_forward real planned sound booked).bind
      · rintro fault after ⟨forward, _⟩
        exact forward
      · rintro window after ⟨forward, _⟩
        exact (ih _ _ forward.sound forward.booked).mono fun _ _ further => forward.trans further

/-- Full windows leave the records ahead of their cursors alone. -/
theorem Passes.untouched (passes : worker.Passes entity most first interim)
    (real : worker.options.dryRun = false) (sound : first.desk.source.Sound)
    (booked : first.desk.store.Booked) :
    worker.Forward entity first.desk interim.desk ∧ ∀ sequence,
      interim.desk.cursor worker.cursors entity < sequence →
        first.desk.store.Untouched entity sequence interim.desk.store := by
  induction passes with
  | start => exact ⟨.refl sound booked, fun _ _ => booked.still rfl⟩
  | @window interim left batch planned after passes more ran goes ih =>
    obtain ⟨forward, untouched⟩ := ih
    obtain ⟨further, alone⟩ :=
      (window_forward real interim.planned forward.sound forward.booked).of_exec ran
    have full : batch.stop = .windowFull := (Tally.join_stop _ _).symm.trans (stop_of_goes goes)
    refine ⟨forward.trans further, ?_⟩
    intro sequence ahead
    exact (untouched sequence (Nat.lt_of_le_of_lt further.onward ahead)).trans
      (alone _ rfl full sequence ahead)

/-- What holds once a run comes to a record: it did nothing about it yet, the cursor and
what the window passed are before it, and the records still to come are behind it. -/
structure Approached (worker : Worker σ) (entity : Entity) (start : Desk σ) (entry : Entry)
    (arrival : Arrival σ) : Prop extends start.SameFeed arrival.desk where
  booked : arrival.desk.store.Booked
  untouched : start.store.Untouched entity entry.sequence arrival.desk.store
  cursor : arrival.desk.cursor worker.cursors entity = arrival.progress.tally.cursorBefore
  early : arrival.progress.tally.cursorBefore ≤ arrival.progress.through
  ahead : arrival.progress.through < entry.sequence
  behind : ∀ later ∈ arrival.behind, entry.sequence < later.sequence
  going : arrival.progress.stop = none

theorem Reaches.approached (reaches : worker.Reaches entity request start entry arrival)
    (real : worker.options.dryRun = false) (sound : start.source.Sound)
    (booked : start.store.Booked) : worker.Approached entity start entry arrival := by
  obtain @⟨interim, page, opening, progress, before, behind, fetched, desk, passes, opened, shape,
    passed, going⟩ := reaches
  obtain ⟨forward, untouched⟩ := passes.untouched real sound booked
  obtain ⟨reread, opens⟩ :=
    (worker.openWindow_ends entity none interim.planned _ forward.sound).of_exec opened
  obtain ⟨cursor, there, rfl, _, covers⟩ := opens _ rfl
  obtain rfl : cursor = interim.desk.cursor worker.cursors entity := there rfl
  have sorted : page.entries.Pairwise (·.sequence < ·.sequence) :=
    covers.pairwise (interim.desk.source.entries_pairwise entity)
  rw [shape, List.pairwise_append] at sorted
  obtain ⟨_, order, apart⟩ := sorted
  have ahead (other : Entry) (member : other ∈ page.entries) :
      interim.desk.cursor worker.cursors entity < other.sequence := (covers.mem member).2
  rw [shape] at ahead
  have earlier (other : Entry) (member : other ∈ before) : other.sequence < entry.sequence :=
    apart other member entry (.head _)
  obtain ⟨onward, visited⟩ := (foldlM_step_visited entity real before _
    (reread.store ▸ forward.booked)).of_exec passed
  have start : progress.tally.cursorBefore = interim.desk.cursor worker.cursors entity :=
    onward.cursorBefore
  have far : interim.desk.cursor worker.cursors entity ≤ progress.through ∧
      progress.through < entry.sequence := by
    have first := ahead entry (by simp)
    rcases onward.through with same | ⟨other, member, same⟩
    · rw [same]
      exact ⟨Nat.le_refl _, first⟩
    · rw [same]
      exact ⟨Nat.le_of_lt (ahead other (by simp [member])), earlier other member⟩
  have fetching : interim.desk.store.Untouched entity entry.sequence fetched.store :=
    forward.booked.still reread.store
  refine ⟨?_, visited.booked, ?_, ?_, ?_, far.2, ?_, going⟩
  · exact (forward.toSameFeed.trans reread.toSameFeed).trans (.of_eq reread.sound visited.source)
  · exact ((untouched entry.sequence (ahead entry (by simp))).trans fetching).trans
      (visited.others _ fun other member => Nat.ne_of_gt (earlier other member))
  · rw [start]
    exact (visited.toSameBeside.cursor visited.cursors _ _).trans (reread.cursor _ _)
  · rw [start]
    exact far.1
  · exact fun later member => (List.pairwise_cons.mp order).1 later member

end Worker

end RecordSync.Run
