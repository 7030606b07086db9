import RecordSync.Proofs.Passage

/-! Windows one after the other, none of them dry: their stretches of the feed
join to one stretch, and their counts to one count. The feed may grow between them. -/

namespace RecordSync.Run

open RecordSync.Calendar RecordSync.Change RecordSync.Feed RecordSync.Record RecordSync.Store
open Work

variable {σ : Type}

namespace Lane

variable {lane : Lane} {before between after : Desk σ} {first second : List (Entry × Outcome)}

/-- Two stretches, the second from where the first left the cursor. -/
theorem Advanced.trans {middle reach : Nat} (feed : before.SameFeed between)
    (one : lane.Advanced before first middle between)
    (found : between.cursor lane.place lane.entity = middle)
    (two : lane.Advanced between second reach after) :
    lane.Advanced before (first ++ second) reach after := by
  have early := one.early
  have late := one.late
  have further := two.early
  have within := two.late
  rw [found] at further within
  rw [feed.extent] at within
  refine ⟨two.quarantine.trans one.quarantine, one.applied.append two.applied, ?_, by omega,
    by omega⟩
  rw [List.map_append, one.stretch, two.stretch, feed.entries, found]
  exact between_append (before.source.entries_pairwise lane.entity) early further

theorem Completed.trans {total batch : Tally} (feed : before.SameFeed between)
    (one : lane.Completed before total first between)
    (two : lane.Completed between batch second after) :
    lane.Completed before (total.absorb batch) (first ++ second) after := by
  refine ⟨one.toAdvanced.trans feed one.moved.cursor two.toAdvanced, one.moved.trans two.moved,
    one.readable, ?_, ?_, ?_⟩
  · show total.quarantined + batch.quarantined = 0
    rw [one.quarantined, two.quarantined]
  · intro counter counted
    rw [Tally.counter_absorb counted, Tally.total_append, one.counters counter counted,
      two.counters counter counted]
  · intro exhausted
    rw [← feed.extent]
    exact two.exhausted exhausted

theorem Aborted.trans {total : Tally} {middle reach : Nat} (feed : before.SameFeed between)
    (one : lane.Completed before total first between)
    (two : lane.Aborted between second middle reach after) :
    lane.Aborted before (first ++ second) middle reach after :=
  ⟨one.toAdvanced.trans feed one.moved.cursor two.toAdvanced, one.moved.trans two.moved,
    two.behind⟩

/-- What entered the quarantine stays there. -/
theorem RunEnd.quarantine {result : Except SyncFault Tally}
    (ended : lane.RunEnd before result after)
    (filled : before.store.quarantine.entries ≠ []) : after.store.quarantine.entries ≠ [] := by
  cases ended with
  | surrendered quarantine _ => exact quarantine
  | completed trail completed => rwa [completed.quarantine]
  | aborted trail middle reach aborted => rwa [aborted.quarantine]

/-- A window after others of the same run. -/
theorem RunEnd.trans {total : Tally} {result : Except SyncFault Tally}
    (feed : before.SameFeed between) (one : lane.RunEnd before (.ok total) between)
    (two : lane.RunEnd between result after) :
    lane.RunEnd before (result.map total.absorb) after := by
  have surrendered (filled : after.store.quarantine.entries ≠ [])
      (counted : ∀ batch, result = .ok batch → total.quarantined + batch.quarantined ≠ 0) :
      lane.RunEnd before (result.map total.absorb) after := by
    refine .surrendered filled ?_
    intro tally same
    cases result with
    | error fault => cases same
    | ok batch =>
      cases same
      exact counted batch rfl
  cases one with
  | surrendered quarantine counted =>
    have given := counted total rfl
    exact surrendered (two.quarantine quarantine) fun batch _ => by omega
  | completed trail completed =>
    cases two with
    | surrendered quarantine counted =>
      refine surrendered quarantine ?_
      intro batch same
      have given := counted batch same
      omega
    | completed more further => exact .completed _ (completed.trans feed further)
    | aborted more middle reach aborted =>
      exact .aborted _ middle reach (.trans feed completed aborted)

end Lane

namespace Worker

variable {worker : Worker σ} {clock : Instant → Prop} {entity : Entity} {before : Desk σ}

/-- One window and nothing else. -/
theorem processBatch_ends (ticks : ∀ around, clock (worker.reading around))
    (real : worker.options.dryRun = false) (desk : Desk σ) (sound : desk.source.Sound) :
    (worker.processBatch entity).Ends desk fun result after =>
      desk.SameFeed after ∧ (worker.lane entity clock).RunEnd desk result after := by
  rw [processBatch_eq_windowOn]
  apply (window_ends ticks real [] desk sound).bind
  · intro fault after ends
    exact ends
  · intro window after ends
    exact ends_pure _ ends

/-- The later windows of a run. -/
theorem drainOn_ends (ticks : ∀ around, clock (worker.reading around))
    (real : worker.options.dryRun = false) (maxBatches : Option Nat) (fuel : Nat) (total : Tally)
    (planned : Planned) (desk : Desk σ) (feed : before.SameFeed desk)
    (one : (worker.lane entity clock).RunEnd before (.ok total) desk) :
    (worker.drainOn entity maxBatches fuel total planned).Ends desk fun result after =>
      before.SameFeed after ∧ (worker.lane entity clock).RunEnd before result after := by
  induction fuel generalizing total planned desk with
  | zero => exact ends_pure total ⟨feed, one⟩
  | succ fuel ih =>
    rw [drainOn_succ, onward_of_real real]
    split
    · apply (window_ends ticks real planned desk feed.sound).bind
      · intro fault after ends
        exact ⟨feed.trans ends.1, one.trans feed ends.2⟩
      · intro window after ends
        exact ih _ _ after (feed.trans ends.1) (one.trans feed ends.2)
    · exact ends_pure total ⟨feed, one⟩

theorem runUntilIdle_ends (ticks : ∀ around, clock (worker.reading around))
    (real : worker.options.dryRun = false) (maxBatches : Option Nat) (desk : Desk σ)
    (sound : desk.source.Sound) :
    (worker.runUntilIdle entity maxBatches).Ends desk fun result after =>
      desk.SameFeed after ∧ (worker.lane entity clock).RunEnd desk result after := by
  refine Ends.congr ?_ (worker.exec_runUntilIdle entity maxBatches desk)
  apply (window_ends ticks real [] desk sound).bind
  · intro fault after ends
    exact ends
  · intro window after ends
    exact drainOn_ends ticks real maxBatches _ _ _ after ends.1 ends.2

end Worker

/-- What a worker is asked to do with a feed. -/
inductive Request where
  | batch
  | untilIdle (maxBatches : Option Nat)

def Worker.serve (worker : Worker σ) (entity : Entity) : Request → Work σ Tally
  | .batch => worker.processBatch entity
  | .untilIdle maxBatches => worker.runUntilIdle entity maxBatches

theorem Worker.serve_ends {worker : Worker σ} {clock : Instant → Prop} {entity : Entity}
    (ticks : ∀ around, clock (worker.reading around)) (real : worker.options.dryRun = false)
    (request : Request) (desk : Desk σ) (sound : desk.source.Sound) :
    (worker.serve entity request).Ends desk fun result after =>
      desk.SameFeed after ∧ (worker.lane entity clock).RunEnd desk result after := by
  cases request with
  | batch => exact processBatch_ends ticks real desk sound
  | untilIdle maxBatches => exact runUntilIdle_ends ticks real maxBatches desk sound

namespace Worker

/-- The windows of a run so far, one after the other, with their counts and the desk
that they leave. The feed may grow before each of them reads it; the source is the
one that the last of them found. -/
inductive Runs (worker : Worker σ) (entity : Entity) (most : Option Nat) (start : Desk σ) :
    Source → Tally → Planned → Desk σ → Prop where
  | first {found : Source} {batch : Tally} {planned : Planned} {after : Desk σ}
      (grows : start.source.GrowsInto found)
      (ran : (worker.windowOn entity none []).exec { start with source := found } =
        (.ok (batch, planned), after)) :
      Runs worker entity most start found batch planned after
  | next {earlier found : Source} {total batch : Tally} {planned further : Planned}
      {between after : Desk σ}
      (runs : Runs worker entity most start earlier total planned between)
      (goes : goesOn most total = true) (grows : between.source.GrowsInto found)
      (ran : (worker.windowOn entity (worker.onward total.cursorAfter) planned).exec
        { between with source := found } = (.ok (batch, further), after)) :
      Runs worker entity most start found (total.absorb batch) further after

variable {worker : Worker σ} {entity : Entity} {most : Option Nat} {start after : Desk σ}
  {found : Source} {total : Tally} {planned : Planned}

theorem stop_of_goes (goes : goesOn most total = true) : total.stop = .windowFull := by
  simp only [goesOn, Bool.and_eq_true, beq_iff_eq] at goes
  exact goes.1

theorem openWindow_opened (worker : Worker σ) (entity : Entity) (onward : Option Nat)
    (planned : Planned) (desk : Desk σ) :
    (worker.openWindow entity onward planned).Yields desk fun opening _ =>
      ∃ cursor, opening.2 = worker.opened entity cursor planned := by
  have fetched (cursor : Nat) (desk : Desk σ) : Yields (do
      let page ← worker.fetch entity cursor
      return (page, worker.opened entity cursor planned)) desk fun opening _ =>
        ∃ cursor, opening.2 = worker.opened entity cursor planned :=
    .bind_exec fun page _ _ => yields_pure _ ⟨cursor, rfl⟩
  unfold openWindow
  cases onward with
  | some position =>
    simp only [pure_bind]
    exact fetched position desk
  | none => exact .bind_exec fun cursor found _ => fetched cursor found

/-- Nothing is planned ahead unless a run is dry. -/
theorem foldlM_step_planned (real : worker.options.dryRun = false) (entries : List Entry)
    (progress : Progress) (desk : Desk σ) :
    (entries.foldlM (worker.step entity) progress).Yields desk fun next _ =>
      next.planned = progress.planned := by
  induction entries generalizing progress desk with
  | nil => exact yields_pure _ rfl
  | cons entry rest ih =>
    rw [List.foldlM_cons, step_eq_attend, map_eq_pure_bind, bind_assoc]
    apply Yields.bind_exec
    intro answer between ran
    have same : answer.2.planned = progress.planned := by
      cases (worker.attend_ends entity progress entry desk real).of_exec ran with
      | unreached stopped => rfl
      | cancelled going alike => rfl
      | @dealt _ ending going dealt => cases ending <;> rfl
    rw [pure_bind, ← same]
    exact ih answer.2 between

theorem windowOn_planned (real : worker.options.dryRun = false) (onward : Option Nat)
    (planned : Planned) (desk : Desk σ) :
    (worker.windowOn entity onward planned).Yields desk fun window _ => window.2 = planned := by
  refine (worker.openWindow_opened entity onward planned desk).bind ?_
  rintro ⟨page, progress⟩ fetched ⟨cursor, rfl⟩
  apply Yields.bind_exec
  intro progress attended ran
  exact .bind_exec fun _ after _ => yields_pure _
    (foldlM_step_planned real page.entries _ fetched progress attended ran)

theorem Runs.planned_nil (real : worker.options.dryRun = false)
    (runs : worker.Runs entity most start found total planned after) : planned = [] := by
  induction runs with
  | first grows ran => exact windowOn_planned real none [] _ _ _ ran
  | next runs goes grows ran ih => exact (windowOn_planned real _ _ _ _ _ ran).trans ih

/-- With nothing planned, a window is a run for one window. -/
theorem exec_serve_batch {desk : Desk σ} {batch : Tally}
    (ran : (worker.windowOn entity none []).exec desk = (.ok (batch, planned), after)) :
    (worker.serve entity .batch).exec desk = (.ok batch, after) := by
  show (worker.processBatch entity).exec desk = _
  rw [processBatch_eq_windowOn, exec_bind_of_ok ran]
  rfl

end Worker

end RecordSync.Run
