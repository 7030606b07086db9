import RecordSync.Proofs.Accounting
import RecordSync.Proofs.Chronicle

/-! Where a worker that is on no dry run leaves the cursor, and the rows. A window that ends
with its counts moves the cursor to where they end. One that meets a fault leaves it where it
was, and all that it wrote lies behind it. -/

namespace RecordSync

open RecordSync.Calendar RecordSync.Change RecordSync.Feed RecordSync.Record RecordSync.Store

namespace Store

/-- Nothing happened to the rows, and the log tells no more of rows than it told. -/
structure StillRows (before after : Store) : Prop where
  rows : after.rows = before.rows
  told : after.log.filter (·.note.kind.isOfRow) = before.log.filter (·.note.kind.isOfRow)

theorem StillRows.trans {first second third : Store} (one : first.StillRows second)
    (two : second.StillRows third) : first.StillRows third :=
  ⟨two.rows.trans one.rows, two.told.trans one.told⟩

theorem SameRecords.stillRows {before after : Store} (same : before.SameRecords after) :
    before.StillRows after :=
  ⟨same.rows.symm, by rw [same.log]⟩

theorem surrender_stillRows {before after : Store} {author : Author} {record : Surrender}
    {id : Nat} (given : before.surrender author record = .ok (id, after)) :
    before.StillRows after := by
  unfold surrender at given
  split at given
  · cases given
  · cases given
    exact ⟨rfl, List.filter_cons_of_neg (by simp [EventKind.isOfRow])⟩

/-- All that was written to the rows, and told of them in the log: the records of a trail were
applied one after the other. Between two of them the rows are left alone. -/
inductive Written (actor : String) (clock : Instant → Prop) :
    Store → List (Entry × Outcome) → Store → Prop where
  | nil {store after : Store} (still : store.StillRows after) : Written actor clock store [] after
  | cons {store start between after : Store} {entry : Entry} {outcome : Outcome}
      {trail : List (Entry × Outcome)} {now : Instant} (still : store.StillRows start)
      (allowed : clock now)
      (applied : start.apply actor (decode entry.delivery) now = .ok (outcome, between))
      (rest : Written actor clock between trail after) :
      Written actor clock store ((entry, outcome) :: trail) after

namespace Written

variable {actor : String} {clock : Instant → Prop} {store between after : Store}
  {trail more : List (Entry × Outcome)}

theorem of_still (still : store.StillRows between)
    (written : Written actor clock between trail after) :
    Written actor clock store trail after := by
  cases written with
  | nil same => exact .nil (still.trans same)
  | cons same allowed applied rest => exact .cons (still.trans same) allowed applied rest

theorem append (first : Written actor clock store trail between)
    (second : Written actor clock between more after) :
    Written actor clock store (trail ++ more) after := by
  induction first with
  | nil still => exact second.of_still still
  | cons still allowed applied _ ih => exact .cons still allowed applied (ih second)

theorem then_still (written : Written actor clock store trail between)
    (still : between.StillRows after) : Written actor clock store trail after := by
  simpa using written.append (.nil still)

end Written

end Store

namespace Run

open Work

/-- The records of a trail that came to an outcome; those that were given up did not. -/
def outcomesOf (trail : List (Entry × Ending)) : List (Entry × Outcome) :=
  trail.filterMap fun visit =>
    match visit.2 with
    | .terminal outcome => some (visit.1, outcome)
    | _ => none

theorem outcomesOf_append (trail more : List (Entry × Ending)) :
    outcomesOf (trail ++ more) = outcomesOf trail ++ outcomesOf more := List.filterMap_append

theorem outcomesOf_sublist (trail : List (Entry × Ending)) :
    ((outcomesOf trail).map (·.1)).Sublist (trail.map (·.1)) := by
  induction trail with
  | nil => exact .slnil
  | cons visit rest ih =>
    obtain ⟨entry, ending⟩ := visit
    cases ending with
    | terminal outcome => exact ih.cons_cons entry
    | quarantined => exact ih.cons entry
    | deferred => exact ih.cons entry

variable {σ : Type}

namespace Worker

def Ticks (worker : Worker σ) (now : Instant) : Prop := ∃ around, worker.reading around = now

/-- A window that ended with its counts. It found the cursor where they begin and left it where
they end, and all that it wrote to the rows was to apply records of that stretch. -/
structure Committed (worker : Worker σ) (entity : Entity) (before : Desk σ) (tally : Tally)
    (trail : List (Entry × Outcome)) (after : Desk σ) : Prop where
  found : tally.cursorBefore = before.cursor worker.cursors entity
  stands : after.cursor worker.cursors entity = tally.cursorAfter
  written : Written worker.actor worker.Ticks before.store trail after.store
  inside : ∀ step ∈ trail, step.1 ∈ before.source.entries entity ∧
    tally.cursorBefore < step.1.sequence ∧ step.1.sequence ≤ tally.cursorAfter

/-- A window that met a fault. The cursors are where they were, all that it wrote to the rows was
to apply records behind the cursor, and the next window from there comes to them again. -/
structure Interrupted (worker : Worker σ) (entity : Entity) (before : Desk σ)
    (trail : List (Entry × Outcome)) (after : Desk σ) : Prop where
  memory : after.memory = before.memory
  cursors : after.store.cursors = before.store.cursors
  written : Written worker.actor worker.Ticks before.store trail after.store
  behind : ∀ step ∈ trail, step.1 ∈ before.source.entries entity ∧
    before.cursor worker.cursors entity < step.1.sequence
  again : ∀ (next : Desk σ) (planned : Planned) (page : Page) (progress : Progress)
    (final : Desk σ), after.source.GrowsInto next.source →
    next.cursor worker.cursors entity = after.cursor worker.cursors entity →
    (worker.openWindow entity none planned).exec next = (.ok (page, progress), final) →
      (trail.map (·.1)).Sublist page.entries

/-- The windows of a run that ended with their counts, one after the other. -/
inductive Completes (worker : Worker σ) (entity : Entity) (start : Desk σ) :
    List Tally → List (Entry × Outcome) → Desk σ → Prop where
  | none : Completes worker entity start [] [] start
  | window {tallies : List Tally} {trail more : List (Entry × Outcome)} {between after : Desk σ}
      {tally : Tally} {planned later : Planned}
      (completes : Completes worker entity start tallies trail between)
      (ran : (worker.window entity planned).exec between = (.ok (tally, later), after))
      (committed : worker.Committed entity between tally more after) :
      Completes worker entity start (tallies ++ [tally]) (trail ++ more) after

variable {worker : Worker σ} {entity : Entity} {page : Page} {left : List Entry}
  {progress : Progress} {entry : Entry} {before between after : Desk σ}
  {trail : List (Entry × Ending)}

/-- What dealing with one record writes to the rows. -/
theorem Attended.written {answer : Option Ending × Progress}
    (attended : worker.Attended entity progress entry between answer after) :
    Written worker.actor worker.Ticks between.store (outcomesOf (trailOf entry answer.1))
      after.store := by
  cases attended with
  | unreached stopped => exact .nil ⟨rfl, rfl⟩
  | cancelled going alike => exact .nil ⟨by rw [alike.store], by rw [alike.store]⟩
  | @dealt _ ending going dealt =>
    cases ending with
    | terminal outcome =>
      obtain ⟨_, around, applied⟩ := dealt
      exact .cons ⟨rfl, rfl⟩ ⟨around, rfl⟩ applied (.nil ⟨rfl, rfl⟩)
    | quarantined =>
      obtain ⟨_, _, _, _, _, only, _, _, _, given⟩ := dealt
      exact .nil (only.sameRecords.stillRows.trans (surrender_stillRows given))
    | deferred => exact .nil dealt.2.sameRecords.stillRows

theorem Attended.takes {answer : Option Ending × Progress}
    (attended : worker.Attended entity progress entry between answer after) :
    worker.Takes progress entry answer := by
  cases attended with
  | unreached stopped => exact .unreached stopped
  | cancelled going alike => exact .cancelled going
  | @dealt _ ending going dealt =>
    cases ending <;> exact .dealt going _ progress.planned

/-- The records of a page: those that came to an outcome were applied, and a fault comes after
some of them. -/
theorem foldlM_step_written (real : worker.options.dryRun = false) (entity : Entity) (page : Page)
    (cursor : Nat) (planned : Planned) (desk : Desk σ) :
    (page.entries.foldlM (worker.step entity) (worker.opened entity cursor planned)).Ends desk
      (Either (fun progress after => ∃ trail skipped,
          MidPage page cursor [] trail skipped progress ∧
          Written worker.actor worker.Ticks desk.store (outcomesOf trail) after.store)
        fun _ after => ∃ trail : List (Entry × Ending),
          (trail.map (·.1)).Sublist page.entries ∧
          Written worker.actor worker.Ticks desk.store (outcomesOf trail) after.store) := by
  apply foldlM_ends (fun left progress after => ∃ trail skipped,
    MidPage page cursor left trail skipped progress ∧
    Written worker.actor worker.Ticks desk.store (outcomesOf trail) after.store)
  · rintro entry left progress between ⟨trail, skipped, midPage, written⟩
    rw [step_eq_attend, map_eq_pure_bind]
    apply (worker.attend_ends entity progress entry between real).bind
    · intro fault after dealt
      refine ⟨trail, ?_, written.then_still dealt.2.sameRecords.stillRows⟩
      rw [midPage.shape]
      exact List.sublist_append_left _ _
    · intro answer after attended
      obtain ⟨skipped, further⟩ := midPage.takes attended.takes
      refine ends_pure _ ⟨_, skipped, further, ?_⟩
      rw [outcomesOf_append]
      exact written.append attended.written
  · exact ⟨[], [], ⟨worker.opened_reckons entity cursor planned, rfl, fun _ => rfl⟩,
      .nil ⟨rfl, rfl⟩⟩

/-- A window that met a fault after it applied some records of its page. -/
theorem Interrupted.of_written {desk : Desk σ} {outcomes : List (Entry × Outcome)}
    (feed : desk.SameFeed after) (memory : after.memory = desk.memory)
    (cursors : after.store.cursors = desk.store.cursors)
    (covers : page.Covers (desk.source.entries entity) (desk.source.extent entity)
      (desk.cursor worker.cursors entity) worker.options.window)
    (passed : (outcomes.map (·.1)).Sublist page.entries)
    (written : Written worker.actor worker.Ticks desk.store outcomes after.store) :
    worker.Interrupted entity desk outcomes after := by
  have stands := Desk.cursor_congr memory cursors worker.cursors entity
  refine ⟨memory, cursors, written, ?_, ?_⟩
  · intro step member
    exact covers.mem (passed.subset (List.mem_map_of_mem member))
  · intro next planned later progress final grows there ran
    have sets : worker.SetsOut entity next (desk.cursor worker.cursors entity) none :=
      there.trans stands
    obtain ⟨_, opens⟩ := (openWindow_from sets planned (grows.sound feed.sound)).of_exec ran
    obtain ⟨added, entries, _⟩ := grows.1.entries entity
    rw [feed.entries] at entries
    have longer : page.entries <+: later.entries := by
      rw [covers.entries_eq, (opens _ rfl).2.entries_eq, entries, List.filter_append]
      exact (List.prefix_append _ _).take _
    exact passed.trans longer.sublist

/-- One window, however it ends. -/
theorem window_written (real : worker.options.dryRun = false) (planned : Planned) (desk : Desk σ)
    (sound : desk.source.Sound) :
    (worker.window entity planned).Ends desk fun result after => desk.SameFeed after ∧
      match result with
      | .ok answer => ∃ trail, worker.Committed entity desk answer.1 trail after
      | .error _ => ∃ trail, worker.Interrupted entity desk trail after := by
  have start : worker.SetsOut entity desk (desk.cursor worker.cursors entity) none := rfl
  apply (openWindow_from start planned sound).bind
  · rintro fault after ⟨reread, _⟩
    refine ⟨reread.toSameFeed, [], reread.memory, by rw [reread.store], .nil ?_, nofun, ?_⟩
    · rw [reread.store]
      exact ⟨rfl, rfl⟩
    · intro next planned later progress final _ _ _
      exact List.nil_sublist _
  · rintro ⟨page, progress⟩ fetched ⟨reread, opened⟩
    obtain ⟨rfl, covers⟩ := opened _ rfl
    have same {after : Desk σ} (source : after.source = fetched.source) : desk.SameFeed after :=
      reread.toSameFeed.trans (.of_eq reread.sound source)
    have interrupted {after : Desk σ} {trail : List (Entry × Ending)}
        (beside : fetched.SameBeside after) (cursors : after.store.cursors = fetched.store.cursors)
        (passed : (trail.map (·.1)).Sublist page.entries)
        (written : Written worker.actor worker.Ticks fetched.store (outcomesOf trail) after.store) :
        worker.Interrupted entity desk (outcomesOf trail) after :=
      .of_written (same beside.source) (beside.memory.trans reread.memory)
        (cursors.trans (by rw [reread.store])) covers ((outcomesOf_sublist trail).trans passed)
        (reread.store ▸ written)
    unfold finish
    apply Ends.bind_exec
    · intro fault after ran
      have frame := (worker.foldlM_step_frame entity page.entries _ fetched).of_exec ran
      obtain ⟨trail, passed, written⟩ :=
        (foldlM_step_written real entity page _ planned fetched).of_exec ran
      exact ⟨same frame.1.source, _, interrupted frame.1 frame.2 passed written⟩
    · intro progress attended ran
      have frame := (worker.foldlM_step_frame entity page.entries _ fetched).of_exec ran
      obtain ⟨trail, skipped, midPage, written⟩ :=
        (foldlM_step_written real entity page _ planned fetched).of_exec ran
      have passed : (trail.map (·.1)).Sublist page.entries := by
        rw [midPage.shape]
        exact List.sublist_append_left _ _
      apply Ends.bind_exec
      · intro fault after settled
        have unmoved := (worker.settle_ends entity _ attended).of_exec settled
        have beside := frame.1.trans unmoved.toSameBeside
        refine ⟨same beside.source, _, interrupted beside ?_ passed ?_⟩
        · rw [unmoved.store]
          exact frame.2
        · rw [unmoved.store]
          exact written
      · intro _ after settled
        have kept := (worker.settle_frame entity _ attended).of_exec settled
        have conserves := midPage.conserves worker (.of_covers covers)
        have found : attended.cursor worker.cursors entity = desk.cursor worker.cursors entity := by
          rw [frame.1.cursor frame.2, reread.cursor]
        have still := same (kept.1.trans frame.1.source)
        refine ends_pure _ ⟨still, outcomesOf trail, midPage.cursorBefore, ?_, ?_, ?_⟩
        · exact midPage.settled conserves real found settled
        · exact (reread.store ▸ written).then_still kept.2.1.stillRows
        · intro step member
          have listed := (outcomesOf_sublist trail).subset (List.mem_map_of_mem member)
          rw [conserves.stretch] at listed
          exact mem_between.mp listed

namespace Completes

variable {tallies : List Tally} {trail : List (Entry × Outcome)} {start : Desk σ}

/-- The cursor is where the last window left it. -/
theorem cursor (completes : worker.Completes entity start tallies trail after) :
    after.cursor worker.cursors entity =
      (tallies.getLast?.map (·.cursorAfter)).getD (start.cursor worker.cursors entity) := by
  cases completes with
  | none => rfl
  | window _ _ committed => simp [committed.stands]

/-- What the windows wrote to the rows, one after the other. -/
theorem written (completes : worker.Completes entity start tallies trail after) :
    Written worker.actor worker.Ticks start.store trail after.store := by
  induction completes with
  | none => exact .nil ⟨rfl, rfl⟩
  | window _ _ committed ih => exact ih.append committed.written

end Completes

/-- A run that met a fault: some windows ended with their counts, and the next one met it. -/
def Halted (worker : Worker σ) (entity : Entity) (start after : Desk σ) : Prop :=
  ∃ tallies trail interim more, worker.Completes entity start tallies trail interim ∧
    worker.Interrupted entity interim more after

/-- One window and nothing else. -/
theorem processBatch_written (real : worker.options.dryRun = false) (desk : Desk σ)
    (sound : desk.source.Sound) :
    (worker.processBatch entity).Ends desk fun result after =>
      match result with
      | .ok tally => ∃ trail, worker.Committed entity desk tally trail after
      | .error _ => ∃ trail, worker.Interrupted entity desk trail after := by
  rw [processBatch_eq_windowOn]
  apply (window_written real [] desk sound).bind
  · intro fault after ends
    exact ends.2
  · intro answer after ends
    exact ends_pure _ ends.2

/-- A run over a feed that grows before each of its windows is one stretch, too, as the last of
them found the feed. -/
theorem Runs.committed {most : Option Nat} {start : Desk σ} {found : Source} {total : Tally}
    {planned : Planned} (real : worker.options.dryRun = false) (sound : start.source.Sound)
    (runs : worker.Runs entity most start found total planned after) :
    Desk.SameFeed { after with source := found } after ∧
      ∃ trail, worker.Committed entity { start with source := found } total trail after := by
  induction runs with
  | @first found batch planned after grows ran =>
    have read : Source.Sound found := grows.sound sound
    obtain ⟨feed, committed⟩ :=
      (window_written real [] { start with source := found } read).of_exec ran
    exact ⟨⟨feed.marks, feed.sound⟩, committed⟩
  | @next earlier found total batch planned further between after runs goes grows ran ih =>
    obtain ⟨same, trail, one⟩ := ih
    have read : Source.Sound found := grows.sound same.sound
    rw [onward_of_real real] at ran
    obtain ⟨feed, more, two⟩ :=
      (window_written real planned { between with source := found } read).of_exec ran
    have follows : batch.cursorBefore = total.cursorAfter := two.found.trans one.stands
    obtain ⟨_, passed⟩ := (runs.sums sound).conserves
    have late : total.cursorAfter ≤ batch.cursorAfter := by
      have sets : worker.SetsOut entity { between with source := found }
        (between.cursor worker.cursors entity) none := rfl
      obtain ⟨_, window⟩ := (window_conserves sets (fun _ => rfl) planned read).of_exec ran
      obtain ⟨⟨_, counted⟩, _⟩ := window _ rfl
      exact follows ▸ counted.onward
    refine ⟨⟨feed.marks, feed.sound⟩, trail ++ more, one.found, two.stands,
      one.written.append two.written, ?_⟩
    intro step member
    show step.1 ∈ found.entries entity ∧ total.cursorBefore < step.1.sequence ∧
      step.1.sequence ≤ batch.cursorAfter
    rcases List.mem_append.mp member with before | last
    · obtain ⟨listed, behind, within⟩ := one.inside step before
      obtain ⟨added, entries, _⟩ := grows.1.entries entity
      rw [entries, same.entries]
      exact ⟨List.mem_append_left _ listed, behind, Nat.le_trans within late⟩
    · obtain ⟨listed, behind, within⟩ := two.inside step last
      refine ⟨listed, ?_, within⟩
      calc total.cursorBefore
        _ ≤ total.cursorAfter := passed.onward
        _ = batch.cursorBefore := follows.symm
        _ < step.1.sequence := behind

/-- The windows of a run after the first. -/
theorem drainOn_halted (real : worker.options.dryRun = false) (maxBatches : Option Nat)
    (fuel : Nat) (total : Tally) (planned : Planned) {start desk : Desk σ} {tallies : List Tally}
    {trail : List (Entry × Outcome)}
    (completes : worker.Completes entity start tallies trail desk) (sound : desk.source.Sound) :
    (worker.drainOn entity maxBatches fuel total planned).Ends desk
      (Either (fun _ _ => True) fun _ after => worker.Halted entity start after) := by
  induction fuel generalizing total planned desk tallies trail with
  | zero => exact ends_pure total trivial
  | succ fuel ih =>
    cases goes : goesOn maxBatches total with
    | false =>
      rw [drainOn_of_stays goes]
      exact ends_pure total trivial
    | true =>
      rw [drainOn_of_goes real goes]
      apply Ends.bind_exec
      · intro fault after ran
        obtain ⟨_, more, interrupted⟩ := (window_written real planned desk sound).of_exec ran
        exact ⟨tallies, trail, desk, more, completes, interrupted⟩
      · intro answer after ran
        obtain ⟨feed, more, committed⟩ := (window_written real planned desk sound).of_exec ran
        exact ih _ _ (completes.window ran committed) feed.sound

/-- A run until it is idle that meets a fault. -/
theorem runUntilIdle_halted (real : worker.options.dryRun = false) (maxBatches : Option Nat)
    (desk : Desk σ) (sound : desk.source.Sound) :
    (worker.runUntilIdle entity maxBatches).Ends desk
      (Either (fun _ _ => True) fun _ after => worker.Halted entity desk after) := by
  refine Ends.congr ?_ (worker.exec_runUntilIdle entity maxBatches desk)
  change Ends (worker.window entity [] >>= _) desk _
  apply Ends.bind_exec
  · intro fault after ran
    obtain ⟨_, more, interrupted⟩ := (window_written real [] desk sound).of_exec ran
    exact ⟨[], [], desk, more, .none, interrupted⟩
  · intro answer after ran
    obtain ⟨feed, more, committed⟩ := (window_written real [] desk sound).of_exec ran
    exact drainOn_halted real maxBatches _ _ _ (Completes.none.window ran committed) feed.sound

/-- Whatever fails, and wherever: a window of a worker that is on no dry run ends with counts
from the cursor that it found to the one that it left, or it meets a fault, leaves the cursor
where it was, and the records that it wrote are seen again. A run that meets a fault leaves the
cursor where its last whole window did, with all that it wrote up to there in place. It is no
different if the feed grows before each window of a run. -/
theorem results_agree_with_cursor (real : worker.options.dryRun = false) (entity : Entity)
    (desk : Desk σ) (sound : desk.source.Sound) :
    (∀ tally after, (worker.processBatch entity).exec desk = (.ok tally, after) →
      ∃ trail, worker.Committed entity desk tally trail after) ∧
    (∀ fault after, (worker.processBatch entity).exec desk = (.error fault, after) →
      ∃ trail, worker.Interrupted entity desk trail after) ∧
    (∀ maxBatches fault after,
      (worker.runUntilIdle entity maxBatches).exec desk = (.error fault, after) →
      ∃ tallies trail interim more, worker.Completes entity desk tallies trail interim ∧
        worker.Interrupted entity interim more after ∧
        after.cursor worker.cursors entity =
          (tallies.getLast?.map (·.cursorAfter)).getD (desk.cursor worker.cursors entity) ∧
        Written worker.actor worker.Ticks desk.store (trail ++ more) after.store) ∧
    ∀ most found total planned after,
      worker.Runs entity most desk found total planned after →
      (∃ trail, worker.Committed entity { desk with source := found } total trail after) ∧
      ∀ further fault final, after.source.GrowsInto further →
        (worker.window entity planned).exec { after with source := further } =
          (.error fault, final) →
        ∃ trail, worker.Interrupted entity { after with source := further } trail final := by
  refine ⟨?_, ?_, ?_, ?_⟩
  · intro tally after ran
    exact (processBatch_written real desk sound).of_exec ran
  · intro fault after ran
    exact (processBatch_written real desk sound).of_exec ran
  · intro maxBatches fault after ran
    obtain ⟨tallies, trail, interim, more, completes, interrupted⟩ :=
      (runUntilIdle_halted real maxBatches desk sound).of_exec ran
    refine ⟨tallies, trail, interim, more, completes, interrupted, ?_,
      completes.written.append interrupted.written⟩
    rw [← completes.cursor]
    exact Desk.cursor_congr interrupted.memory interrupted.cursors _ _
  · intro most found total planned after runs
    obtain ⟨feed, committed⟩ := runs.committed real sound
    refine ⟨committed, fun further fault final grows ran => ?_⟩
    have read : Source.Sound further := grows.sound feed.sound
    exact ((window_written real planned { after with source := further } read).of_exec ran).2

private def movesOnce : Surroundings Bool where
  now moved := (.ofMillis 0, moved)
  cancelled moved := (false, moved)
  meet call moved :=
    match call with
    | .advanceCursor _ => (if moved then some (.store .locked) else none, true)
    | _ => (none, moved)
  wait _ moved := moved

private def oneAtATime : Worker Bool :=
  ⟨movesOnce, "sync", .store, ⟨1, false, some 25, false, false, .immediate 5 1⟩⟩

private def exempted (id : Int) (externalId : String) : StoredRow :=
  ⟨id, externalId, .induction ⟨"p", "exempt", none, none⟩, .active, .integer 0, .integer 0,
    .integer 0, .integer 0, ""⟩

private def twoRows : Desk Bool where
  store := { Store.empty with rows := ⟨⟨[], 0⟩, ⟨[exempted 1 "a", exempted 2 "b"], 2⟩⟩ }
  memory := .start
  source := .memory ⟨[], ["\x7b\"id\":\"a\",\"change\":\"remove\"\x7d",
    "\x7b\"id\":\"b\",\"change\":\"remove\"\x7d"]⟩
  around := false

/-- The first window deletes its row and moves the cursor. The second deletes its row and
cannot move it: both rows are gone, and the second record is still ahead. -/
theorem results_agree_with_cursor_unmoved :
    ∃ (fault : SyncFault) (after : Desk Bool) (tallies : List Tally)
      (trail : List (Entry × Outcome)) (interim : Desk Bool) (more : List (Entry × Outcome)),
      (oneAtATime.runUntilIdle .induction none).exec twoRows = (.error fault, after) ∧
      oneAtATime.Completes .induction twoRows tallies trail interim ∧
      oneAtATime.Interrupted .induction interim more after ∧
      (tallies.getLast?.map (·.cursorAfter)).getD 0 = 1 ∧
      (after.store.rows.get .induction).rows = [] := by
  have sound : twoRows.source.Sound := trivial
  obtain ⟨unanswered, there, gone⟩ :
      ((oneAtATime.runUntilIdle .induction none).exec twoRows).1.toOption = none ∧
      ((oneAtATime.runUntilIdle .induction none).exec twoRows).2.cursor .store .induction = 1 ∧
      (((oneAtATime.runUntilIdle .induction none).exec twoRows).2.store.rows.get
        .induction).rows = [] := by
    decide +kernel
  obtain ⟨fault, ran⟩ := exec_of_no_answer unanswered
  obtain ⟨tallies, trail, interim, more, completes, interrupted, stands, _⟩ :=
    (results_agree_with_cursor rfl .induction twoRows sound).2.2.1 _ _ _ ran
  exact ⟨fault, _, tallies, trail, interim, more, ran, completes, interrupted,
    stands.symm.trans there, gone⟩

end Worker

end Run

end RecordSync
