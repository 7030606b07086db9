import RecordSync.Proofs.Interleaving
import RecordSync.Proofs.Trail

/-! What a window that is no dry run does to the store: it applies the records
of a stretch of the feed, from its cursor on, each once and in order. The one
way out of this is a record that is given up, and that shows. -/

namespace RecordSync.Run

open RecordSync.Calendar RecordSync.Change RecordSync.Feed RecordSync.Record RecordSync.Store
open Work

variable {σ : Type}

/-- The reasons to stop in the middle of a page. -/
def Stop.Cuts (stop : Stop) : Prop := stop ≠ .exhausted ∧ stop ≠ .windowFull

theorem Options.stopAfter_cuts {options : Options} {sequence : Nat} {tally : Tally}
    {outcome : Outcome} {stop : Stop}
    (stops : options.stopAfter sequence tally outcome = some stop) : stop.Cuts := by
  unfold stopAfter at stops
  split at stops
  · split at stops
    · split at stops
      · cases stops
        exact ⟨nofun, nofun⟩
      · cases stops
    · cases stops
  · split at stops
    · cases stops
      exact ⟨nofun, nofun⟩
    · cases stops
  · cases stops

/-- What became of the desk while the records of a trail were applied. -/
structure Worker.Worked (worker : Worker σ) (clock : Instant → Prop) (before : Desk σ)
    (trail : List (Entry × Outcome)) (after : Desk σ) : Prop where
  beside : before.SameBeside after
  cursors : after.store.cursors = before.store.cursors
  quarantine : after.store.quarantine = before.store.quarantine
  applied : Applied worker.actor clock before.store trail after.store

/-- What a window has counted once the records of a trail are applied. -/
structure Progress.Counts (opened : Progress) (trail : List (Entry × Outcome))
    (progress : Progress) : Prop where
  counters : ∀ counter ∈ Tally.counters,
    counter progress.tally = counter opened.tally + Tally.total counter trail
  through : progress.through = lastPlace opened.through (trail.map (·.1))
  quarantined : progress.tally.quarantined = opened.tally.quarantined
  cursorBefore : progress.tally.cursorBefore = opened.tally.cursorBefore

namespace Worker

variable {worker : Worker σ} {clock : Instant → Prop} {entity : Entity} {entry : Entry}
  {before between after : Desk σ} {trail : List (Entry × Outcome)}

theorem Worked.start (desk : Desk σ) : worker.Worked clock desk [] desk :=
  ⟨.refl desk, rfl, rfl, .nil (.refl _)⟩

/-- Nothing but the ledger changes between two records. -/
theorem Worked.ledger (worked : worker.Worked clock before trail between)
    (beside : between.SameBeside after) (only : between.store.OnlyAttempts after.store) :
    worker.Worked clock before trail after :=
  ⟨worked.beside.trans beside, only.cursors.trans worked.cursors,
    only.quarantine.trans worked.quarantine, worked.applied.then_same only.sameRecords⟩

theorem Worked.snoc (worked : worker.Worked clock before trail between)
    (beside : between.SameBeside after) {outcome : Outcome} {now : Instant} (allowed : clock now)
    (applied : between.store.apply worker.actor (decode entry.delivery) now =
      .ok (outcome, after.store)) :
    worker.Worked clock before (trail ++ [(entry, outcome)]) after :=
  ⟨worked.beside.trans beside, (apply_cursors applied).trans worked.cursors,
    (apply_quarantine applied).trans worked.quarantine, worked.applied.snoc allowed applied⟩

end Worker

namespace Progress.Counts

variable {opened progress : Progress} {trail : List (Entry × Outcome)}

theorem start (opened : Progress) : opened.Counts [] opened :=
  ⟨fun _ _ => rfl, rfl, rfl, rfl⟩

theorem snoc (counts : opened.Counts trail progress) (options : Options) (entry : Entry)
    (outcome : Outcome) : opened.Counts (trail ++ [(entry, outcome)])
      (progress.note options entry.sequence (.terminal outcome)) := by
  refine ⟨?_, by simp [note, lastPlace], ?_, ?_⟩
  · intro counter counted
    rw [Tally.total_snoc]
    have recorded := Tally.counter_record counted progress.tally outcome
    have before := counts.counters counter counted
    simp only [note]
    omega
  · rw [← counts.quarantined]
    cases outcome <;> rfl
  · rw [← counts.cursorBefore]
    cases outcome <;> rfl

/-- A window that stops has counted what it had counted. -/
theorem stopped (counts : opened.Counts trail progress) (stop : Stop) :
    opened.Counts trail { progress with stop := some stop } := { counts with }

theorem deferred (counts : opened.Counts trail progress) (options : Options) (sequence : Nat) :
    opened.Counts trail (progress.note options sequence .deferred) :=
  { counts with
    counters := fun counter counted => by
      rw [← counts.counters counter counted]
      exact Tally.counter_congr counted rfl }

end Progress.Counts

/-- A window in the middle of its page: what it passed is a trail, and from a
stop on the records are left alone. -/
inductive Worker.Midway (worker : Worker σ) (clock : Instant → Prop) (page : List Entry)
    (before : Desk σ) (opened : Progress) (left : List Entry) (progress : Progress)
    (after : Desk σ) : Prop where
  | surrendered (quarantine : after.store.quarantine.entries ≠ [])
      (counted : progress.tally.quarantined ≠ 0)
  | going (trail : List (Entry × Outcome)) (whole : page = trail.map (·.1) ++ left)
      (worked : worker.Worked clock before trail after) (counts : opened.Counts trail progress)
      (stop : progress.stop = none)
  | stopped (trail : List (Entry × Outcome)) (skipped : List Entry) (stop : Stop)
      (whole : page = trail.map (·.1) ++ (skipped ++ left))
      (worked : worker.Worked clock before trail after) (counts : opened.Counts trail progress)
      (stops : progress.stop = some stop) (cuts : stop.Cuts)

/-- How a window ends that meets a fault. -/
inductive Worker.Faulted (worker : Worker σ) (clock : Instant → Prop) (page : List Entry)
    (before after : Desk σ) : Prop where
  | surrendered (quarantine : after.store.quarantine.entries ≠ [])
  | worked (trail : List (Entry × Outcome)) (left : List Entry)
      (whole : page = trail.map (·.1) ++ left) (worked : worker.Worked clock before trail after)

/-- The records of a trail are a stretch of the feed, from the cursor on. -/
structure Lane.Advanced (lane : Lane) (before : Desk σ) (trail : List (Entry × Outcome))
    (reach : Nat) (after : Desk σ) : Prop where
  quarantine : after.store.quarantine = before.store.quarantine
  applied : Applied lane.actor lane.clock before.store trail after.store
  stretch : trail.map (·.1) =
    between (before.source.entries lane.entity) (before.cursor lane.place lane.entity) reach
  early : before.cursor lane.place lane.entity ≤ reach
  late : reach ≤ max (before.cursor lane.place lane.entity) (before.source.extent lane.entity)

/-- A window or a run that ended with its counts: the cursor is at the end of the
stretch. -/
structure Lane.Completed (lane : Lane) (before : Desk σ) (tally : Tally)
    (trail : List (Entry × Outcome)) (after : Desk σ) : Prop
    extends lane.Advanced before trail tally.cursorAfter after where
  moved : lane.Moved before tally.cursorAfter after
  readable : before.source.Readable lane.entity
  quarantined : tally.quarantined = 0
  counters : ∀ counter ∈ Tally.counters, counter tally = Tally.total counter trail
  exhausted : tally.stop = .exhausted → before.source.extent lane.entity ≤ tally.cursorAfter

/-- One that met a fault: the cursor may be before the end of the stretch. -/
structure Lane.Aborted (lane : Lane) (before : Desk σ) (trail : List (Entry × Outcome))
    (middle reach : Nat) (after : Desk σ) : Prop
    extends lane.Advanced before trail reach after where
  moved : lane.Moved before middle after
  behind : middle ≤ reach

/-- How a window or a run ends that is no dry run. -/
inductive Lane.RunEnd (lane : Lane) (before : Desk σ) : Except SyncFault Tally → Desk σ → Prop where
  | surrendered {result : Except SyncFault Tally} {after : Desk σ}
      (quarantine : after.store.quarantine.entries ≠ [])
      (counted : ∀ tally, result = .ok tally → tally.quarantined ≠ 0) :
      RunEnd lane before result after
  | completed {tally : Tally} {after : Desk σ} (trail : List (Entry × Outcome))
      (completed : lane.Completed before tally trail after) : RunEnd lane before (.ok tally) after
  | aborted {fault : SyncFault} {after : Desk σ} (trail : List (Entry × Outcome))
      (middle reach : Nat) (aborted : lane.Aborted before trail middle reach after) :
      RunEnd lane before (.error fault) after

namespace Worker

variable {worker : Worker σ} {clock : Instant → Prop} {entity : Entity} {entry : Entry}
  {page left : List Entry} {before between after : Desk σ} {opened progress : Progress}

/-- A record that was given up stays in the quarantine, whatever is dealt with later. -/
theorem Attended.quarantine {answer : Option Ending × Progress}
    (attended : worker.Attended entity progress entry between answer after)
    (filled : between.store.quarantine.entries ≠ []) :
    after.store.quarantine.entries ≠ [] := by
  cases attended with
  | unreached stopped => exact filled
  | cancelled going alike => rwa [alike.store]
  | @dealt _ ending going dealt =>
    cases ending with
    | terminal outcome =>
      obtain ⟨_, _, applied⟩ := dealt
      rwa [apply_quarantine applied]
    | quarantined =>
      obtain ⟨_, _, _, _, _, _, _, _, _, given⟩ := dealt
      exact (surrender_spec given).2.2
    | deferred => rwa [dealt.2.quarantine]

theorem Attended.quarantined {answer : Option Ending × Progress}
    (attended : worker.Attended entity progress entry between answer after)
    (counted : progress.tally.quarantined ≠ 0) : answer.2.tally.quarantined ≠ 0 := by
  cases attended with
  | unreached stopped => exact counted
  | cancelled going alike => exact counted
  | @dealt _ ending going dealt =>
    cases ending with
    | terminal outcome => cases outcome <;> exact counted
    | quarantined => exact Nat.succ_ne_zero _
    | deferred => exact counted

/-- One record more. -/
theorem Midway.attended (ticks : ∀ around, clock (worker.reading around))
    (midway : worker.Midway clock page before opened (entry :: left) progress between)
    {answer : Option Ending × Progress}
    (attended : worker.Attended entity progress entry between answer after) :
    worker.Midway clock page before opened left answer.2 after := by
  cases midway with
  | surrendered quarantine counted =>
    exact .surrendered (attended.quarantine quarantine) (attended.quarantined counted)
  | stopped trail skipped stop whole worked counts stops cuts =>
    cases attended with
    | unreached stopped =>
      exact .stopped trail (skipped ++ [entry]) stop (by simpa using whole) worked counts stops cuts
    | cancelled going alike => simp [stops] at going
    | dealt going dealt => simp [stops] at going
  | going trail whole worked counts stop =>
    cases attended with
    | unreached stopped => simp [stop] at stopped
    | cancelled going alike =>
      exact .stopped trail [entry] .cancelled whole
        (worked.ledger alike.toSameBeside (.of_eq alike.store)) (counts.stopped _) rfl
        ⟨nofun, nofun⟩
    | @dealt _ ending going dealt =>
      cases ending with
      | quarantined =>
        obtain ⟨_, _, _, _, _, _, _, _, _, given⟩ := dealt
        exact .surrendered (surrender_spec given).2.2 (Nat.succ_ne_zero _)
      | deferred =>
        exact .stopped trail [entry] (.deferred entry.sequence) whole
          (worked.ledger dealt.1 dealt.2) (counts.deferred worker.options _) rfl ⟨nofun, nofun⟩
      | terminal outcome =>
        obtain ⟨beside, around, applied⟩ := dealt
        have passed := worked.snoc beside (ticks around) applied
        have counted := counts.snoc worker.options entry outcome
        have shape : page = (trail ++ [(entry, outcome)]).map (·.1) ++ left := by
          simpa using whole
        cases stops : (progress.note worker.options entry.sequence (.terminal outcome)).stop with
        | none => exact .going _ shape passed counted stops
        | some stop =>
          exact .stopped _ [] stop shape passed counted stops (Options.stopAfter_cuts stops)

theorem Midway.unsettled (midway : worker.Midway clock page before opened left progress after) :
    worker.Faulted clock page before after := by
  cases midway with
  | surrendered quarantine counted => exact .surrendered quarantine
  | going trail whole worked counts stop => exact .worked trail _ whole worked
  | stopped trail skipped stop whole worked counts stops cuts =>
    exact .worked trail _ whole worked

theorem Faulted.ledger (faulted : worker.Faulted clock page before between)
    (beside : between.SameBeside after) (only : between.store.OnlyAttempts after.store) :
    worker.Faulted clock page before after := by
  cases faulted with
  | surrendered quarantine => exact .surrendered (by rwa [only.quarantine])
  | worked trail left whole worked => exact .worked trail left whole (worked.ledger beside only)

/-- Dealing with records changes nothing about the feed. -/
theorem foldlM_step_source {result : Except SyncFault Progress} {desk : Desk σ}
    (ran : (page.foldlM (worker.step entity) opened).exec desk = (result, after)) :
    after.source = desk.source := by
  have frame : (page.foldlM (worker.step entity) opened).Ends desk
      (Either (fun _ later => later.source = desk.source) fun _ later =>
        later.source = desk.source) := by
    apply foldlM_ends (fun _ _ later => later.source = desk.source)
    · intro entry rest progress found same
      rw [step_eq_attend, map_eq_pure_bind]
      apply (worker.attend_frame entity progress entry found).bind
      · intro fault later frame
        exact frame.1.source.trans same
      · intro answer later frame
        exact ends_pure _ (frame.1.source.trans same)
    · rfl
  have ends := frame.of_exec ran
  cases result with
  | error fault => exact ends
  | ok progress => exact ends

/-- All records of a page. -/
theorem foldlM_step_ends (ticks : ∀ around, clock (worker.reading around))
    (real : worker.options.dryRun = false) (entity : Entity) (page : List Entry)
    (opened : Progress) (going : opened.stop = none) (desk : Desk σ) :
    (page.foldlM (worker.step entity) opened).Ends desk
      (Either (worker.Midway clock page desk opened [])
        fun _ after => worker.Faulted clock page desk after) := by
  apply foldlM_ends
  · intro entry left progress between midway
    rw [step_eq_attend, map_eq_pure_bind]
    apply (worker.attend_ends entity progress entry between real).bind
    · intro fault after dealt
      exact midway.unsettled.ledger dealt.1 dealt.2
    · intro answer after attended
      exact ends_pure _ (midway.attended ticks attended)
  · exact .going [] rfl (.start desk) (.start opened) going

/-- The records that a window passed up to a fault are a stretch of the feed. -/
theorem Worked.advanced {trail : List (Entry × Outcome)} {rest : List Entry}
    (worked : worker.Worked clock between trail after) (reread : before.Reread between)
    (whole : (before.source.entries entity).filter
      (before.cursor worker.cursors entity < ·.sequence) = trail.map (·.1) ++ rest) :
    (worker.lane entity clock).Advanced before trail
      (lastPlace (before.cursor worker.cursors entity) (trail.map (·.1))) after := by
  have inside (entry : Entry) (member : entry ∈ trail.map (·.1)) :
      entry ∈ before.source.entries entity ∧
        before.cursor worker.cursors entity < entry.sequence := by
    have present := whole ▸ List.mem_append_left rest member
    simpa using List.mem_filter.mp present
  refine ⟨?_, ?_, ?_, ?_, ?_⟩
  · rw [worked.quarantine, reread.store]
  · rw [← reread.store]
    exact worked.applied
  · exact (between_lastPlace (Source.entries_pairwise _ _) whole).symm
  · exact le_lastPlace fun entry member => (inside entry member).2
  · apply lastPlace_le (Nat.le_max_left _ _)
    intro entry member
    exact Nat.le_trans (Source.le_extent_of_mem (inside entry member).1) (Nat.le_max_right _ _)

/-- The records passed up to a fault, with the cursor where it was. -/
theorem Worked.aborted {trail : List (Entry × Outcome)} {rest : List Entry} {fault : SyncFault}
    (worked : worker.Worked clock between trail after) (reread : before.Reread between)
    (whole : (before.source.entries entity).filter
      (before.cursor worker.cursors entity < ·.sequence) = trail.map (·.1) ++ rest) :
    (worker.lane entity clock).RunEnd before (.error fault) after := by
  have advanced := worked.advanced reread whole
  refine .aborted trail _ _ ⟨advanced, .stayed rfl (worked.beside.memory.trans reread.memory) ?_,
    advanced.early⟩
  rw [worked.cursors, reread.store]

theorem Faulted.aborted {page : Page} {fault : SyncFault} (reread : before.Reread between)
    (covers : page.Covers (before.source.entries entity) (before.source.extent entity)
      (before.cursor worker.cursors entity) worker.options.window)
    (faulted : worker.Faulted clock page.entries between after) :
    (worker.lane entity clock).RunEnd before (.error fault) after := by
  cases faulted with
  | surrendered quarantine => exact .surrendered quarantine fun _ impossible => by cases impossible
  | worked trail left shape worked =>
    obtain ⟨rest, whole, _⟩ := covers.split (before.source.entries_pairwise entity)
      fun _ => Source.le_extent_of_mem
    exact worked.aborted reread
      (show _ = trail.map (·.1) ++ (left ++ rest) by rw [whole, shape, List.append_assoc])

/-- A window that no reason stopped sets its cursor to where its page ends. -/
theorem conclude_going {page : Page} {progress : Progress} (going : progress.stop = none)
    (through : progress.through ≤ page.next) :
    worker.conclude page progress = { progress.tally with
      stop := if page.entries.length < worker.options.window then .exhausted else .windowFull
      cursorAfter := page.next } := by
  unfold conclude
  simp only [going, Option.isSome_none, Bool.false_eq_true, ↓reduceIte, Option.getD_none,
    Nat.max_eq_left through]

/-- A window that no reason stopped belongs where its page ends. -/
theorem conclude_of_going {page : Page} {entries : List Entry} {cursor extent most : Nat}
    {planned : Planned} {trail : List (Entry × Outcome)}
    (covers : page.Covers entries extent cursor most)
    (inside : ∀ entry ∈ page.entries, entry.sequence ≤ page.next)
    (shape : page.entries = trail.map (·.1))
    (counts : (worker.opened entity cursor planned).Counts trail progress)
    (stop : progress.stop = none) : (worker.conclude page progress).cursorAfter = page.next := by
  have through : progress.through ≤ page.next := by
    rw [counts.through, ← shape]
    exact lastPlace_le covers.position_le_next inside
  rw [conclude_going stop through]

/-- The end of a window that gave no record up, given how far it came. -/
theorem Worked.completed {page : Page} {trail : List (Entry × Outcome)} {planned : Planned}
    {final : Desk σ} (ticks : ∀ around, clock (worker.reading around))
    (real : worker.options.dryRun = false) (readable : before.source.Readable entity)
    (reread : before.Reread between) (worked : worker.Worked clock between trail after)
    (counts : (worker.opened entity (before.cursor worker.cursors entity) planned).Counts trail
      progress)
    (advanced : (worker.lane entity clock).Advanced before trail
      (worker.conclude page progress).cursorAfter after)
    (exhausted : (worker.conclude page progress).stop = .exhausted →
      before.source.extent entity ≤ (worker.conclude page progress).cursorAfter)
    (settled : (worker.settle entity (worker.conclude page progress)).exec after =
      (.ok (), final)) :
    (worker.lane entity clock).RunEnd before (.ok (worker.conclude page progress)) final := by
  obtain ⟨_, records, quarantine⟩ := (worker.settle_frame entity _ after).of_exec settled
  have start : (worker.conclude page progress).cursorBefore =
      before.cursor worker.cursors entity := counts.cursorBefore
  have found : after.cursor worker.cursors entity = before.cursor worker.cursors entity := by
    rw [worked.beside.cursor worked.cursors, reread.cursor]
  have moved := (worker.settle_moved entity ticks (worker.conclude page progress) after real
    (found.trans start.symm) (start ▸ advanced.early)).of_exec settled
  refine .completed trail ⟨⟨quarantine.trans advanced.quarantine,
    advanced.applied.then_same records, advanced.stretch, advanced.early, advanced.late⟩, ?_,
    readable, counts.quarantined, ?_, exhausted⟩
  · exact (Lane.Moved.congr moved worked.beside.memory worked.cursors).congr reread.memory
      (by rw [reread.store])
  · intro counter counted
    have counts := counts.counters counter counted
    have opened : counter
        (worker.opened entity (before.cursor worker.cursors entity) planned).tally = 0 :=
      (Tally.counter_congr counted rfl).symm.trans (Tally.counter_start counted entity _)
    have concluded : counter (worker.conclude page progress) = counter progress.tally :=
      Tally.counter_congr counted rfl
    omega

/-- The end of a window, given how far it came with its page. -/
theorem Midway.concluded {page : Page} {planned : Planned} {final : Desk σ}
    (ticks : ∀ around, clock (worker.reading around)) (real : worker.options.dryRun = false)
    (readable : before.source.Readable entity) (reread : before.Reread between)
    (covers : page.Covers (before.source.entries entity) (before.source.extent entity)
      (before.cursor worker.cursors entity) worker.options.window)
    (midway : worker.Midway clock page.entries between
      (worker.opened entity (before.cursor worker.cursors entity) planned) [] progress after)
    (settled : (worker.settle entity (worker.conclude page progress)).exec after =
      (.ok (), final)) :
    (worker.lane entity clock).RunEnd before (.ok (worker.conclude page progress)) final := by
  obtain ⟨_, _, quarantine⟩ := (worker.settle_frame entity _ after).of_exec settled
  have sorted := before.source.entries_pairwise entity
  have bounded : ∀ entry ∈ before.source.entries entity,
      entry.sequence ≤ before.source.extent entity := fun _ => Source.le_extent_of_mem
  obtain ⟨rest, whole, inside, beyond⟩ := covers.split sorted bounded
  cases midway with
  | surrendered filled counted =>
    refine .surrendered (by rw [quarantine]; exact filled) ?_
    rintro _ ⟨⟩
    exact counted
  | going trail shape worked counts stop =>
    rw [List.append_nil] at shape
    have after_eq := conclude_of_going covers inside shape counts stop
    have advanced := worked.advanced reread (shape ▸ whole)
    refine worked.completed ticks real readable reread counts
      ⟨advanced.quarantine, advanced.applied, ?_, ?_, ?_⟩ ?_ settled
    · rw [after_eq, ← shape]
      exact (covers.between_eq sorted bounded).symm
    · rw [after_eq]
      exact covers.position_le_next
    · rw [after_eq]
      exact covers.next_le_max bounded
    · intro exhausted
      simp only [conclude, stop, Option.getD_none] at exhausted
      split at exhausted
      · rename_i short
        rw [after_eq, covers.next_of_short short]
        omega
      · cases exhausted
  | stopped trail skipped stop shape worked counts stops cuts =>
    rw [List.append_nil] at shape
    have after_eq : (worker.conclude page progress).cursorAfter =
        lastPlace (before.cursor worker.cursors entity) (trail.map (·.1)) := by
      simp only [conclude, stops, Option.isSome_some, ↓reduceIte]
      exact counts.through
    have advanced := worked.advanced reread
      (show _ = trail.map (·.1) ++ (skipped ++ rest) by rw [whole, shape, List.append_assoc])
    refine worked.completed ticks real readable reread counts (after_eq ▸ advanced) ?_ settled
    intro exhausted
    simp only [conclude, stops, Option.getD_some] at exhausted
    exact absurd exhausted cuts.1

/-- One window from its cursor. -/
theorem window_ends (ticks : ∀ around, clock (worker.reading around))
    (real : worker.options.dryRun = false) (planned : Planned) (desk : Desk σ)
    (sound : desk.source.Sound) :
    (worker.windowOn entity none planned).Ends desk fun result after =>
      desk.SameFeed after ∧ (worker.lane entity clock).RunEnd desk (result.map (·.1)) after := by
  apply (worker.openWindow_ends entity none planned desk sound).bind
  · intro fault after ends
    exact ⟨ends.1.toSameFeed, (Worked.start after).aborted ends.1 (List.nil_append _).symm⟩
  · intro opening fetched ends
    obtain ⟨page, progress⟩ := opening
    obtain ⟨reread, opened⟩ := ends
    obtain ⟨cursor, there, rfl, readable, covers⟩ := opened _ rfl
    have from_cursor : cursor = desk.cursor worker.cursors entity := there rfl
    subst from_cursor
    unfold finish
    have feed {after : Desk σ} (same : after.source = fetched.source) : desk.SameFeed after :=
      reread.toSameFeed.trans (.of_eq reread.sound same)
    apply Ends.bind_exec
    · intro fault after ran
      have faulted := (foldlM_step_ends ticks real entity page.entries _ rfl fetched).of_exec ran
      exact ⟨feed (foldlM_step_source ran), faulted.aborted reread covers⟩
    · intro progress attended ran
      have midway := (foldlM_step_ends ticks real entity page.entries _ rfl fetched).of_exec ran
      have same := foldlM_step_source ran
      apply Ends.bind_exec
      · intro fault after settled
        have frame := (worker.settle_frame entity _ attended).of_exec settled
        have unmoved := (worker.settle_ends entity _ attended).of_exec settled
        exact ⟨feed (frame.1.trans same), (midway.unsettled.ledger unmoved.toSameBeside
          (.of_eq unmoved.store)).aborted reread covers⟩
      · intro _ after settled
        have frame := (worker.settle_frame entity _ attended).of_exec settled
        exact ends_pure _ ⟨feed (frame.1.trans same),
          midway.concluded ticks real readable reread covers settled⟩

end Worker

end RecordSync.Run
