import RecordSync.Proofs.Answering
import RecordSync.Proofs.Undisturbed

/-! How many windows a run takes. A full window moves on past as many entries as it holds,
so a run that no record stops takes one window for each full page of what is ahead of its
cursor, and one that is not full. -/

namespace RecordSync

open RecordSync.Calendar RecordSync.Change RecordSync.Feed RecordSync.Record RecordSync.Store

def Feed.ahead (entries : List Entry) (position : Nat) : Nat :=
  (entries.filter (position < ·.sequence)).length

namespace Run

open Work

namespace Tally

/-- What a window from a position comes to, given how many entries it holds at most. -/
inductive Fills (entries : List Entry) (size position : Nat) (tally : Tally) : Prop where
  | full (stop : tally.stop = .windowFull)
      (passed : ahead entries position = size + ahead entries tally.cursorAfter) :
      Fills entries size position tally
  | last (stop : tally.stop = .exhausted) (few : ahead entries position < size) :
      Fills entries size position tally
  | cut (cuts : tally.stop.Cuts) : Fills entries size position tally

/-- How many windows a run took that had so many entries ahead: one that is not full behind
all that are, or no more than that if something stopped it. -/
def Took (count size : Nat) (tally : Tally) : Prop :=
  tally.stop = .exhausted ∧ tally.batches = count / size + 1 ∨
    tally.stop.Cuts ∧ tally.batches ≤ count / size + 1

/-- A run between two windows, when no more than so many may follow: it is through, or all
of its windows were full and there are not as many entries left as windows. -/
def OnPace (entries : List Entry) (count size left : Nat) (tally : Tally) : Prop :=
  tally.Took count size ∨ tally.stop = .windowFull ∧
    count = tally.batches * size + ahead entries tally.cursorAfter ∧
    ahead entries tally.cursorAfter < left

/-- One more window behind some that were full. -/
theorem Fills.onPace {entries : List Entry} {count size left position before : Nat}
    {batch total : Tally} (fills : batch.Fills entries size position)
    (passed : count = before * size + ahead entries position)
    (room : ahead entries position < left + size) (some : 1 ≤ size)
    (batches : total.batches = before + 1) (stop : total.stop = batch.stop)
    (reached : total.cursorAfter = batch.cursorAfter) : total.OnPace entries count size left := by
  cases fills with
  | full full further =>
    refine .inr ⟨stop.trans full, ?_, ?_⟩
    · rw [batches, reached, passed, further, Nat.succ_mul, Nat.add_assoc]
    · rw [reached]
      omega
  | last last few =>
    refine .inl (.inl ⟨stop.trans last, ?_⟩)
    rw [batches, passed, Nat.mul_comm, Nat.mul_add_div some, Nat.div_eq_of_lt few, Nat.add_zero]
  | cut cuts =>
    refine .inl (.inr ⟨stop ▸ cuts, ?_⟩)
    have full : before ≤ count / size := by
      rw [Nat.le_div_iff_mul_le some, passed]
      exact Nat.le_add_right _ _
    omega

end Tally

namespace Worker

variable {σ : Type} {worker : Worker σ} {entity : Entity} {desk : Desk σ}

/-- A page fills its window, or it is the last one. -/
theorem MidPage.fills {page : Page} {source : Source} {position : Nat}
    {trail : List (Entry × Ending)} {skipped : List Entry} {progress : Progress}
    (midPage : MidPage page position [] trail skipped progress)
    (covers : page.Covers (source.entries entity) (source.extent entity) position
      worker.options.window) :
    (worker.conclude page progress).Fills (source.entries entity) worker.options.window position := by
  cases stops : progress.stop with
  | some stop =>
    have stopped : (worker.conclude page progress).stop = stop := by simp [conclude, stops]
    exact .cut (stopped ▸ midPage.cuts stop stops)
  | none =>
    obtain ⟨rest, whole, inside, beyond⟩ := covers.split (source.entries_pairwise entity)
      fun _ => Source.le_extent_of_mem
    have shape := midPage.shape
    rw [midPage.reached stops, List.append_nil, List.append_nil] at shape
    have through : progress.through ≤ page.next := by
      rw [midPage.through, ← shape]
      exact lastPlace_le covers.position_le_next inside
    rw [conclude_going stops through]
    rcases covers.full_or_all with full | ⟨short, all⟩
    · refine .full (if_neg (Nat.not_lt.mpr (Nat.le_of_eq full.symm))) ?_
      unfold ahead
      rw [filter_eq_of_split covers.position_le_next whole inside beyond, whole,
        List.length_append, full]
    · refine .last (if_pos short) ?_
      unfold ahead
      rwa [← all]

/-- The windows after the first. As many may follow as there are entries, so their number
never ends the run. -/
theorem drainOn_onPace (fuel : Nat) {total : Tally} (planned : Planned) {desk : Desk σ}
    {entries : List Entry} {count : Nat} (same : desk.source.entries entity = entries)
    (there : worker.options.dryRun = false →
      desk.cursor worker.cursors entity = total.cursorAfter)
    (pace : total.OnPace entries count worker.options.window fuel)
    (sound : desk.source.Sound) :
    (worker.drainOn entity none fuel total planned).Yields desk fun tally _ =>
      tally.Took count worker.options.window := by
  induction fuel generalizing total planned desk with
  | zero =>
    rcases pace with took | ⟨_, _, none⟩
    · exact yields_pure _ took
    · exact absurd none (Nat.not_lt_zero _)
  | succ fuel ih =>
    rcases pace with took | ⟨full, passed, room⟩
    · have stays : goesOn none total = false := by
        rcases took with ⟨stop, _⟩ | ⟨cuts, _⟩
        · simp [goesOn, stop]
        · simp [goesOn, cuts.2]
      rw [drainOn_of_stays stays]
      exact yields_pure _ took
    · rw [drainOn_succ, if_pos (by simp [goesOn, full])]
      apply Yields.bind_exec
      rintro ⟨batch, planned⟩ after ran
      obtain ⟨feed, window⟩ :=
        (window_midPage (setsOut_onward there) there _ sound).of_exec ran
      obtain ⟨page, progress, trail, skipped, covers, midPage, one, rfl, cursor⟩ := window _ rfl
      have fills := midPage.fills covers
      rw [same] at fills
      have some := worker.options.one_le_window
      refine ih planned ((feed.entries entity).trans same) cursor ?_ feed.sound
      refine fills.onPace passed (by omega) some ?_ rfl rfl
      exact congrArg (total.batches + ·) one

/-- A run to the end of a feed that answers took the windows that it had to. -/
theorem runUntilIdle_took (worker : Worker σ) (entity : Entity) (desk : Desk σ)
    (sound : desk.source.Sound) :
    (worker.runUntilIdle entity none).Yields desk fun tally _ =>
      tally.Took (ahead (desk.source.entries entity) (desk.cursor worker.cursors entity))
        worker.options.window := by
  refine Yields.congr ?_ (worker.exec_runUntilIdle entity none desk)
  apply Yields.bind_exec
  rintro ⟨batch, planned⟩ after ran
  have first : worker.SetsOut entity desk (desk.cursor worker.cursors entity) none := rfl
  obtain ⟨feed, window⟩ := (window_midPage first (fun _ => rfl) [] sound).of_exec ran
  obtain ⟨page, progress, trail, skipped, covers, midPage, one, rfl, cursor⟩ := window _ rfl
  have few := List.length_filter_le (desk.cursor worker.cursors entity < ·.sequence)
    (desk.source.entries entity)
  have bound := length_entries_le desk.source entity
  have some := worker.options.one_le_window
  have passed : ahead (desk.source.entries entity) (desk.cursor worker.cursors entity) =
      0 * worker.options.window +
        ahead (desk.source.entries entity) (desk.cursor worker.cursors entity) := by
    rw [Nat.zero_mul, Nat.zero_add]
  refine drainOn_onPace _ planned (feed.entries entity) cursor ?_ feed.sound
  refine (midPage.fills covers).onPace passed ?_ some one rfl rfl
  unfold ahead
  omega

/-- A run to the end of a feed, dry or not, takes one window for each full page of what is
ahead of the cursor and one more, and then it has caught up; if a record stops it before
that, or somebody does, it takes no more windows than that. And it comes to an answer,
whatever fails about single rows. -/
theorem drains_in_windows (worker : Worker σ) (entity : Entity) (desk : Desk σ)
    (sound : desk.source.Sound) :
    (∀ total after, (worker.runUntilIdle entity none).exec desk = (.ok total, after) →
      total.Took (ahead (desk.source.entries entity) (desk.cursor worker.cursors entity))
        worker.options.window) ∧
    (worker.Steady entity → worker.Ready entity desk →
      ∃ total after, (worker.runUntilIdle entity none).exec desk = (.ok total, after)) := by
  constructor
  · exact worker.runUntilIdle_took entity desk sound
  · intro steady ready
    obtain ⟨total, after, ran, _⟩ := (runUntilIdle_serves steady none ready).exec
    exact ⟨total, after, ran⟩

/-- One row cannot be read, whenever it is tried. -/
private def stuckAtA : Surroundings Unit where
  now around := (.ofMillis 0, around)
  cancelled around := (false, around)
  meet call around :=
    match call with
    | .read _ externalId => (if externalId = "a" then some (.store .locked) else none, around)
    | _ => (none, around)
  wait _ around := around

private def stuckWorker : Worker Unit :=
  ⟨stuckAtA, "sync", .store, ⟨0, false, some 25, false, false, .immediate 1 1⟩⟩

private def laden : Desk Unit :=
  ⟨.empty, .start, .memory ⟨["\x7b\"id\":\"a\",\"change\":\"remove\"\x7d",
    "\x7b\"id\":\"b\",\"change\":\"remove\"\x7d"], []⟩, ()⟩

private theorem stuckWorker_steady : stuckWorker.Steady .contact := by
  refine ⟨?_, fun _ => rfl, fun _ => rfl, fun _ => rfl, fun _ _ => rfl, fun _ _ => rfl⟩
  intro call around fault about met
  cases call with
  | read entity externalId =>
    have locked : (if externalId = "a" then some (.store .locked) else none) = some fault := met
    split at locked <;> cases locked
    exact ⟨rfl, rfl⟩
  | write entity externalId => cases met
  | delete entity externalId => cases met
  | _ => cases about

/-- Two records in windows of one, the first of which is given up at once. -/
theorem drains_in_windows_of_one : ∃ total after,
    (stuckWorker.runUntilIdle .contact none).exec laden = (.ok total, after) ∧
    total.quarantined = 1 ∧ total.stop = .exhausted ∧ total.batches = 3 := by
  have ready : stuckWorker.Ready .contact laden := ⟨trivial, trivial, by decide, nofun⟩
  obtain ⟨counts, answers⟩ := drains_in_windows stuckWorker .contact laden trivial
  obtain ⟨total, after, ran⟩ := answers stuckWorker_steady ready
  have evaluated : ((stuckWorker.runUntilIdle .contact none).exec laden).1.toOption.map
      (fun total => (total.quarantined, total.stop)) = some (1, .exhausted) := by decide +kernel
  rw [ran] at evaluated
  obtain ⟨quarantined, stop⟩ := Prod.mk.inj (Option.some.inj evaluated)
  refine ⟨total, after, ran, quarantined, stop, ?_⟩
  rcases counts total after ran with ⟨_, batches⟩ | ⟨cuts, _⟩
  · exact batches
  · exact absurd stop cuts.1

end Worker

end Run

end RecordSync
