import RecordSync.Proofs.Rereading
import RecordSync.Proofs.Windows

/-! A run that ends with its feed exhausted has caught up: its cursor is past all that
its last window could read. From there on, the same run changes nothing, whatever
its options, until the feed grows. -/

namespace RecordSync

namespace Run

open RecordSync.Calendar RecordSync.Change RecordSync.Feed RecordSync.Record RecordSync.Store
open Work

variable {σ : Type}

namespace Worker

/-- The two calls with which a window is opened meet no fault. -/
def LetsOpen (worker : Worker σ) (entity : Entity) (around : σ) : Prop :=
  let loaded := worker.surroundings.meet (.loadCursor entity) around
  loaded.1 = none ∧ (worker.surroundings.meet (.fetch entity) loaded.2).1 = none

variable {worker : Worker σ} {entity : Entity} {most : Option Nat} {desk start after : Desk σ}
  {found : Source} {total : Tally} {planned : Planned}

/-- A window whose page was not full, and that did not stop in it, has come to the end
of the feed. -/
theorem MidPage.arrived {page : Page} {entries : List Entry} {extent position : Nat}
    {trail : List (Entry × Ending)} {skipped : List Entry} {progress : Progress}
    (midPage : MidPage page position [] trail skipped progress)
    (covers : page.Covers entries extent position worker.options.window)
    (exhausted : (worker.conclude page progress).stop = .exhausted) :
    extent ≤ (worker.conclude page progress).cursorAfter := by
  cases stops : progress.stop with
  | some stop =>
    simp only [conclude, stops, Option.getD_some] at exhausted
    exact absurd exhausted (midPage.cuts stop stops).1
  | none =>
    by_cases short : page.entries.length < worker.options.window
    · calc extent
        _ ≤ max position extent := Nat.le_max_right _ _
        _ = page.next := (covers.next_of_short short).symm
        _ ≤ max page.next progress.through := Nat.le_max_left _ _
        _ = (worker.conclude page progress).cursorAfter := by simp [conclude, stops]
    · simp only [conclude, stops, Option.getD_none, short, ↓reduceIte] at exhausted
      cases exhausted

theorem readable_of_openWindow {onward : Option Nat} {opening : Page × Progress}
    (sound : desk.source.Sound)
    (ran : (worker.openWindow entity onward planned).exec desk = (.ok opening, after)) :
    desk.source.Readable entity := by
  obtain ⟨_, opens⟩ := (worker.openWindow_ends entity onward planned desk sound).of_exec ran
  obtain ⟨_, _, _, readable, _⟩ := opens opening rfl
  exact readable

/-- A window that ends with the feed exhausted leaves the cursor behind all that the
feed held. -/
theorem window_arrives (real : worker.options.dryRun = false) (planned : Planned)
    (sound : desk.source.Sound) :
    (worker.windowOn entity none planned).Yields desk fun window after =>
      desk.SameFeed after ∧ desk.source.Readable entity ∧
        (window.1.stop = .exhausted →
          desk.source.extent entity ≤ after.cursor worker.cursors entity) := by
  intro window after ran
  have sets : worker.SetsOut entity desk (desk.cursor worker.cursors entity) none := rfl
  obtain ⟨feed, answers⟩ := (window_midPage sets (fun _ => rfl) planned sound).of_exec ran
  obtain ⟨page, progress, trail, skipped, covers, midPage, _, concluded, cursor⟩ :=
    answers window rfl
  have readable : desk.source.Readable entity := by
    rcases opened : (worker.openWindow entity none planned).exec desk with ⟨fault | opening, _⟩
    · rw [windowOn, exec_bind_of_error opened] at ran
      cases ran
    · exact readable_of_openWindow sound opened
  refine ⟨feed, readable, fun exhausted => ?_⟩
  rw [concluded] at exhausted
  rw [cursor real, concluded]
  exact midPage.arrived covers exhausted

/-- So does a run, with what its last window found. -/
theorem Runs.arrived (real : worker.options.dryRun = false) (sound : start.source.Sound)
    (runs : worker.Runs entity most start found total planned after) :
    Desk.SameFeed { after with source := found } after ∧ found.Readable entity ∧
      (total.stop = .exhausted → found.extent entity ≤ after.cursor worker.cursors entity) := by
  induction runs with
  | @first found batch planned after grows ran =>
    have read : Source.Sound found := grows.sound sound
    obtain ⟨feed, arrived⟩ :=
      @window_arrives _ worker entity { start with source := found } real [] read _ _ ran
    exact ⟨⟨feed.marks, feed.sound⟩, arrived⟩
  | @next earlier found total batch planned further between after runs goes grows ran ih =>
    have read : Source.Sound found := grows.sound ih.1.sound
    rw [onward_of_real real] at ran
    obtain ⟨feed, arrived⟩ :=
      @window_arrives _ worker entity { between with source := found } real planned read _ _ ran
    exact ⟨⟨feed.marks, feed.sound⟩, arrived⟩

theorem meet_answers_of_faultless {call : Call}
    (faultless : (worker.surroundings.meet call desk.around).1 = none) :
    (worker.meet call).Answers desk fun _ after => desk.Alike after ∧
      after.around = (worker.surroundings.meet call desk.around).2 := by
  unfold Answers Ends
  rw [exec_meet, faultless]
  exact ⟨(), rfl, ⟨⟨rfl, rfl⟩, rfl⟩, rfl⟩

/-- A window that may be opened is opened. -/
theorem openWindow_answers_of_lets (opens : worker.LetsOpen entity desk.around)
    (readable : desk.source.Readable entity) (planned : Planned) :
    (worker.openWindow entity none planned).Answers desk fun _ _ => True := by
  obtain ⟨loads, fetches⟩ := opens
  have loaded : (worker.loadCursor entity).Answers desk fun _ found => desk.Alike found ∧
      found.around = (worker.surroundings.meet (.loadCursor entity) desk.around).2 := by
    unfold loadCursor
    apply (meet_answers_of_faultless loads).bind
    intro _ met still
    cases worker.cursors <;> exact ⟨_, rfl, still⟩
  unfold openWindow
  apply loaded.bind
  intro cursor found ⟨alike, around⟩
  rw [← around] at fetches
  have fetched : (worker.fetch entity cursor).Answers found fun _ _ => True := by
    unfold fetch
    apply (meet_answers_of_faultless fetches).bind
    intro _ met ⟨same, _⟩
    apply Ends.of_get
    obtain ⟨page, source, fetched⟩ := readable.fetch cursor worker.options.window
    rw [same.source, alike.source, fetched]
    exact ⟨page, rfl, trivial⟩
  exact fetched.bind fun _ _ _ => answers_pure _ trivial

/-- Nothing is left to do for a window that opens behind the end of the feed. -/
theorem finish_idle {page : Page} {cursor : Nat} (empty : page.entries = [])
    (stays : page.next = cursor) (planned : Planned) :
    worker.finish entity page (worker.opened entity cursor planned) =
      pure ((worker.opened entity cursor planned).tally, planned) := by
  have concluded : worker.conclude page (worker.opened entity cursor planned) =
      (worker.opened entity cursor planned).tally := by
    have room : 0 < worker.options.window := Nat.le_max_right _ _
    simp [conclude, opened, empty, stays, room, Tally.start]
  have unmoved : worker.settle entity (worker.opened entity cursor planned).tally = pure () := by
    simp [settle, opened, Tally.start]
  unfold finish
  rw [empty, List.foldlM_nil, pure_bind, concluded, unmoved, pure_bind]
  rfl

/-- A run from behind the end of the feed is over with its first window, in which it
finds nothing. -/
theorem serve_idle (request : Request) (sound : desk.source.Sound)
    (readable : desk.source.Readable entity)
    (arrived : desk.source.extent entity ≤ desk.cursor worker.cursors entity)
    (opens : worker.LetsOpen entity desk.around) :
    (worker.serve entity request).Answers desk fun tally after =>
      tally = (worker.opened entity (desk.cursor worker.cursors entity) []).tally ∧
        desk.Reread after := by
  have sets : worker.SetsOut entity desk (desk.cursor worker.cursors entity) none := rfl
  have idle : (worker.window entity []).Answers desk fun window after =>
      window.1 = (worker.opened entity (desk.cursor worker.cursors entity) []).tally ∧
        desk.Reread after := by
    unfold window
    apply ((openWindow_answers_of_lets opens readable []).and_ends
      (openWindow_from sets [] sound)).bind
    intro ⟨page, progress⟩ fetched ⟨_, reread, opened⟩
    obtain ⟨rfl, covers⟩ := opened _ rfl
    have nothing : (desk.source.entries entity).filter
        (desk.cursor worker.cursors entity < ·.sequence) = [] := by
      apply List.filter_eq_nil_iff.mpr
      intro entry member
      have within := Source.le_extent_of_mem member
      simp
      omega
    have empty : page.entries = [] := by
      rw [covers.entries_eq, nothing, List.take_nil]
    have room : 0 < worker.options.window := Nat.le_max_right _ _
    have stays : page.next = desk.cursor worker.cursors entity := by
      rw [covers.next_of_short (by simpa [empty] using room)]
      exact Nat.max_eq_left arrived
    rw [finish_idle empty stays]
    exact answers_pure _ ⟨rfl, reread⟩
  refine Ends.congr ?_ (exec_serve request desk)
  apply idle.bind
  intro ⟨batch, planned⟩ after ⟨found, reread⟩
  subst found
  have ended : goesOn request.most (.join none
      (worker.opened entity (desk.cursor worker.cursors entity) []).tally) = false := rfl
  dsimp only
  rw [drainOn_of_stays ended]
  exact answers_pure _ ⟨rfl, reread⟩

/-- A run that ends with its feed exhausted, and that is no dry run, leaves the cursor
behind all that the feed held when its last window read it, however the feed grew
before. From then on, and while the feed stays as it is, a run of a worker with the
same cursor answers with one window in which there was nothing, and leaves the store,
the cursors and the feed as they are. -/
theorem exhausted_is_caught_up (worker : Worker σ) (entity : Entity)
    (real : worker.options.dryRun = false) :
    (∀ (request : Request) (start after : Desk σ) (total : Tally), start.source.Sound →
      (worker.serve entity request).exec start = (.ok total, after) →
      ∃ marks planned, worker.Runs entity request.most start (start.source.remembering marks)
        total planned after) ∧
    ∀ (most : Option Nat) (start after : Desk σ) (found : Source) (total : Tally)
      (planned : Planned), start.source.Sound →
      worker.Runs entity most start found total planned after → total.stop = .exhausted →
      found.extent entity ≤ after.cursor worker.cursors entity ∧
      ∀ (again : Worker σ) (request : Request) (later : Desk σ),
        again.cursors = worker.cursors → after.Reread later →
        again.LetsOpen entity later.around →
        (again.serve entity request).Answers later fun tally final =>
          tally = { Tally.start entity (after.cursor worker.cursors entity) with
            batches := 1, dryRun := again.options.dryRun } ∧ after.Reread final := by
  constructor
  · intro request start after total sound ran
    exact serve_runs request sound ran
  · intro most start after found total planned sound runs exhausted
    obtain ⟨feed, readable, caughtUp⟩ := runs.arrived real sound
    have arrived := caughtUp exhausted
    refine ⟨arrived, fun again request later place reread opens => ?_⟩
    have same : Desk.SameFeed { after with source := found } later :=
      feed.trans reread.toSameFeed
    have there : later.cursor again.cursors entity = after.cursor worker.cursors entity := by
      rw [place, reread.cursor]
    have behind : later.source.extent entity ≤ later.cursor again.cursors entity := by
      rw [there, same.extent]
      exact arrived
    apply (serve_idle request reread.sound ((same.readable entity).mpr readable) behind opens).mono
    intro tally final ⟨idle, kept⟩
    rw [there] at idle
    exact ⟨idle, reread.trans kept⟩

private def oneByOne : Worker Unit :=
  ⟨motionless (.ofMillis 0), "sync", .store, ⟨1, false, none, false, false, .immediate 5 1⟩⟩

/-- The same worker with other options, on a dry run. -/
private def previewer : Worker Unit :=
  ⟨motionless (.ofMillis 0), "sync", .store, ⟨7, true, some 0, true, true, .immediate 1 1⟩⟩

/-- A file with one line, which is no payload. -/
private def oneLine : Desk Unit :=
  ⟨.empty, .start, .lines ((LineFeed.ofDirectory "feed").after
    (.appended .contact "?\n".toUTF8.toList)), ()⟩

/-- The feed once a blank line and the start of another one are appended. -/
private def furtherOn : Source → Source
  | .lines feed => .lines (feed.after (.appended .contact "\n\x7b".toUTF8.toList))
  | .memory feed => .memory feed

private theorem furtherOn_grows (source : Source) : source.GrowsInto (furtherOn source) := by
  cases source with
  | memory feed => exact .refl _
  | lines feed => exact ⟨LineFeed.grows_appended feed _ _, rfl⟩

private def invalidLine : Tally :=
  ⟨.contact, 1, 0, 0, 0, 0, 0, 0, 0, 1, 0, 0, 0, 0, 1, .windowFull, false⟩

private def blankLine : Tally :=
  ⟨.contact, 1, 0, 0, 0, 0, 0, 0, 0, 0, 0, 0, 0, 1, 2, .exhausted, false⟩

/-- The first window is full; before the second one the file grows by a blank line and
an unfinished one. The cursor comes to rest behind the blank line, and a dry run with
other options finds nothing. -/
theorem exhausted_is_caught_up_blank_line :
    ∃ (found : Source) (total : Tally) (after : Desk Unit),
      oneByOne.Runs .contact none oneLine found total [] after ∧ total.stop = .exhausted ∧
      total.batches = 2 ∧ total.invalid = 1 ∧ found.extent .contact = 2 ∧
      found.extent .contact ≤ after.cursor .store .contact ∧
      (previewer.serve .contact .batch).Answers after fun tally final =>
        tally.batches = 1 ∧ tally.processed = 0 ∧ tally.stop = .exhausted ∧
          tally.cursorBefore = tally.cursorAfter ∧ after.Reread final := by
  have real : oneByOne.options.dryRun = false := rfl
  have sound : oneLine.source.Sound := by
    intro entity
    cases entity
    · exact Mark.fits_top _
    · rfl
  have one := @exec_of_answer _ _ (oneByOne.windowOn .contact none []) oneLine (invalidLine, [])
    (by decide +kernel)
  have first : oneByOne.Runs .contact none oneLine _ invalidLine [] _ :=
    .first (.refl oneLine.source) one
  have two := @exec_of_answer _ _ (oneByOne.windowOn .contact none [])
    { ((oneByOne.windowOn .contact none []).exec oneLine).2 with
      source := furtherOn ((oneByOne.windowOn .contact none []).exec oneLine).2.source }
    (blankLine, []) (by decide +kernel)
  have runs := first.next rfl (furtherOn_grows _) two
  obtain ⟨arrived, idle⟩ :=
    (exhausted_is_caught_up oneByOne .contact real).2 _ _ _ _ _ _ sound runs rfl
  have still := (Desk.Alike.refl _).reread (runs.arrived real sound).1.sound
  refine ⟨_, _, _, runs, rfl, rfl, rfl, by decide +kernel, arrived, ?_⟩
  apply (idle previewer .batch _ rfl still ⟨rfl, rfl⟩).mono
  intro tally final ⟨nothing, kept⟩
  subst nothing
  exact ⟨rfl, rfl, rfl, rfl, kept⟩

end Worker

end Run

end RecordSync
