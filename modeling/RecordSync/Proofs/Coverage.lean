import RecordSync.Proofs.Alone

/-! No record is skipped: whatever lies at or before a cursor has ended for good
in some window. -/

namespace RecordSync.Run

open RecordSync.Calendar RecordSync.Change RecordSync.Feed RecordSync.Record RecordSync.Store
open Work

variable {σ : Type}

theorem Progress.note_cursorBefore (progress : Progress) (options : Options) (sequence : Nat)
    (ending : Ending) :
    (progress.note options sequence ending).tally.cursorBefore = progress.tally.cursorBefore := by
  cases ending with
  | terminal outcome => cases outcome <;> rfl
  | quarantined => rfl
  | deferred => rfl

/-- What a window owes: its page leaves nothing out behind the cursor it set out
from, and what it passed is settled. -/
structure OpenWindow.Accounted (window : OpenWindow σ) (source : Source)
    (settled : Entity → Entry → Prop) : Prop where
  covers : ∀ entry ∈ source.entries window.entity,
    window.progress.tally.cursorBefore < entry.sequence → entry.sequence ≤ window.page.next →
      entry ∈ window.page.entries
  before_next : ∀ entry ∈ window.page.entries, entry.sequence ≤ window.page.next
  next_le : window.page.next ≤ source.extent window.entity
  sorted : window.left.Pairwise (·.sequence < ·.sequence)
  left_subset : window.left ⊆ window.page.entries
  through_le : window.progress.through ≤ window.page.next
  through_settled : ∀ entry ∈ window.page.entries, entry.sequence ≤ window.progress.through →
    settled window.entity entry
  passed_settled : window.progress.stop = none → ∀ entry ∈ window.page.entries,
    entry ∈ window.left ∨ settled window.entity entry

namespace OpenWindow.Accounted

variable {window : OpenWindow σ} {source : Source} {settled : Entity → Entry → Prop}

/-- More is settled later, and the feed only grows. -/
theorem mono {later : Source} {more : Entity → Entry → Prop}
    (accounted : window.Accounted source settled) (grows : source.Grows later)
    (weaken : ∀ entity entry, settled entity entry → more entity entry) :
    window.Accounted later more := by
  obtain ⟨added, entries, behind⟩ := grows.entries window.entity
  refine { accounted with
    covers := ?_
    next_le := Nat.le_trans accounted.next_le (grows.extent_le window.entity)
    through_settled := fun entry member reached =>
      weaken _ _ (accounted.through_settled entry member reached)
    passed_settled := fun going entry member =>
      (accounted.passed_settled going entry member).imp_right (weaken _ _) }
  intro entry member position reached
  rw [entries] at member
  rcases List.mem_append.mp member with old | new
  · exact accounted.covers entry old position reached
  · have late := behind entry new
    have within := accounted.next_le
    omega

/-- A window whose page was just fetched owes nothing yet. -/
theorem opened {worker : Worker σ} {reader : Nat} {entity : Entity} {page : Page} {cursor : Nat}
    {planned : Planned} {around : σ}
    (covers : page.Covers (source.entries entity) (source.extent entity) cursor
      worker.options.window)
    (within : cursor ≤ source.extent entity) :
    OpenWindow.Accounted ⟨worker, reader, entity, page, page.entries,
      worker.opened entity cursor planned, around⟩ source settled := by
  have sorted := source.entries_pairwise entity
  have bounded : ∀ entry ∈ source.entries entity, entry.sequence ≤ source.extent entity :=
    fun _ => Source.le_extent_of_mem
  have next := covers.next_le_max bounded
  have whole := covers.between_eq sorted bounded
  refine ⟨?_, ?_, ?_, covers.pairwise sorted, List.Subset.refl _, covers.position_le_next, ?_, ?_⟩
  · intro entry member behind reached
    exact whole ▸ mem_between.mpr ⟨member, behind, reached⟩
  · intro entry (member : entry ∈ page.entries)
    rw [← whole] at member
    exact (mem_between.mp member).2.2
  · show page.next ≤ source.extent entity
    omega
  · intro entry member (reached : entry.sequence ≤ cursor)
    have behind := (covers.mem member).2
    omega
  · intro _ entry member
    exact .inl member

/-- A window that is told to stop owes what it owed. -/
theorem stopped {entry : Entry} {rest : List Entry} {progress : Progress} {around : σ}
    (accounted : window.Accounted source settled) (left : window.left = entry :: rest)
    (before : progress.tally.cursorBefore = window.progress.tally.cursorBefore)
    (through : progress.through = window.progress.through) (stop : progress.stop.isSome = true) :
    OpenWindow.Accounted { window with left := rest, progress, around } source settled := by
  have inside := accounted.left_subset
  have sorted := accounted.sorted
  rw [left] at inside sorted
  refine ⟨?_, accounted.before_next, accounted.next_le, (List.pairwise_cons.mp sorted).2,
    (List.cons_subset.mp inside).2, ?_, ?_, ?_⟩
  · simpa only [before] using accounted.covers
  · simpa only [through] using accounted.through_le
  · simpa only [through] using accounted.through_settled
  · intro (going : progress.stop = none)
    rw [going] at stop
    cases stop

/-- A window passes a record that is settled. -/
theorem passed {entry : Entry} {rest : List Entry} {progress : Progress} {around : σ}
    (accounted : window.Accounted source settled) (left : window.left = entry :: rest)
    (going : window.progress.stop = none)
    (before : progress.tally.cursorBefore = window.progress.tally.cursorBefore)
    (through : progress.through = entry.sequence) (ended : settled window.entity entry) :
    OpenWindow.Accounted { window with left := rest, progress, around } source settled := by
  have inside := accounted.left_subset
  have sorted := accounted.sorted
  rw [left] at inside sorted
  obtain ⟨first, later⟩ := List.pairwise_cons.mp sorted
  have present : entry ∈ window.page.entries := (List.cons_subset.mp inside).1
  have leftOrSettled (other : Entry) (member : other ∈ window.page.entries) :
      other ∈ rest ∨ settled window.entity other := by
    have known := accounted.passed_settled going other member
    rw [left, List.mem_cons] at known
    rcases known with (same | waiting) | done
    · exact .inr (same ▸ ended)
    · exact .inl waiting
    · exact .inr done
  refine ⟨?_, accounted.before_next, accounted.next_le, later, (List.cons_subset.mp inside).2,
    ?_, ?_, ?_⟩
  · simpa only [before] using accounted.covers
  · simpa only [through] using accounted.before_next entry present
  · intro other member (reached : other.sequence ≤ progress.through)
    rcases leftOrSettled other member with waiting | done
    · have apart := first other waiting
      omega
    · exact done
  · intro _ other member
    exact leftOrSettled other member

/-- Up to where its cursor belongs, a window that is through has settled the feed. -/
theorem concluded {entry : Entry} (accounted : window.Accounted source settled)
    (left : window.left = []) (member : entry ∈ source.entries window.entity)
    (behind : window.progress.tally.cursorBefore < entry.sequence)
    (reached : entry.sequence ≤
      (window.worker.conclude window.page window.progress).cursorAfter) :
    settled window.entity entry := by
  have within := accounted.through_le
  simp only [Worker.conclude] at reached
  cases stop : window.progress.stop with
  | some stopped =>
    simp only [stop, Option.isSome_some, ↓reduceIte] at reached
    have present := accounted.covers entry member behind (by omega)
    exact accounted.through_settled entry present reached
  | none =>
    simp only [stop, Option.isSome_none, Bool.false_eq_true, ↓reduceIte] at reached
    have present := accounted.covers entry member behind (by omega)
    rcases accounted.passed_settled stop entry present with waiting | done
    · simp [left] at waiting
    · exact done

theorem cursorAfter_le (accounted : window.Accounted source settled) :
    (window.worker.conclude window.page window.progress).cursorAfter ≤
      source.extent window.entity := by
  have within := accounted.through_le
  have extent := accounted.next_le
  simp only [Worker.conclude]
  split <;> omega

end OpenWindow.Accounted

namespace System

/-- A record ended for good: it was applied, is invalid, cannot become a row or
was given up. -/
def Settled (system : System σ) (entity : Entity) (entry : Entry) : Prop :=
  ∃ verdict ∈ system.verdicts, verdict.entity = entity ∧ verdict.entry = entry ∧
    ((∃ outcome, verdict.ending = .terminal outcome) ∨ verdict.ending = .quarantined)

/-- What holds of workers beside each other after every step. -/
structure Invariant (system : System σ) : Prop where
  sound : ∀ reader, (system.source.remembering (system.marks reader)).Sound
  within : ∀ place entity, system.cursor place entity ≤ system.source.extent entity
  settled : ∀ place entity, ∀ entry ∈ system.source.entries entity,
    entry.sequence ≤ system.cursor place entity → system.Settled entity entry
  accounted : ∀ id window, system.windows id = some window →
    window.worker.options.dryRun = false → window.Accounted system.source system.Settled

theorem desk_cursor (system : System σ) (reader : Nat) (around : σ) (place : CursorPlace)
    (entity : Entity) :
    (system.desk reader around).cursor place entity = system.cursor place entity := by
  cases place <;> rfl

theorem seat_cursor (system : System σ) (reader : Nat) (desk : Desk σ) (place : CursorPlace)
    (entity : Entity) :
    (system.seat reader desk).cursor place entity = desk.cursor place entity := by
  cases place <;> rfl

theorem noting_windows (system : System σ) (window : OpenWindow σ) (entry : Entry)
    (ending : Option Ending) : (system.noting window entry ending).windows = system.windows := by
  unfold noting
  split
  · split <;> rfl
  · rfl

theorem Initial.invariant {system : System σ} (initial : system.Initial) : system.Invariant := by
  refine ⟨?_, ?_, ?_, ?_⟩
  · intro reader
    rw [initial.marks]
    exact Source.remembering_top_sound _
  · intro place entity
    rw [initial.cursors]
    exact Nat.zero_le _
  · intro place entity entry member reached
    rw [initial.cursors] at reached
    have first := Source.one_le_of_mem member
    omega
  · intro id window underway
    rw [initial.windows] at underway
    cases underway

namespace Invariant

variable {system : System σ} {id reader : Nat} {after : Desk σ}

theorem grown (invariant : system.Invariant) {source : Source}
    (grows : system.source.Grows source) : Invariant { system with source } := by
  refine ⟨fun reader => grows.sound (invariant.sound reader), ?_, ?_, ?_⟩
  · intro place entity
    exact Nat.le_trans (invariant.within place entity) (grows.extent_le entity)
  · intro place entity entry member (reached : entry.sequence ≤ system.cursor place entity)
    obtain ⟨added, entries, behind⟩ := grows.entries entity
    simp only [entries] at member
    rcases List.mem_append.mp member with old | new
    · exact invariant.settled place entity entry old reached
    · have late := behind entry new
      have within := invariant.within place entity
      omega
  · intro id window underway real
    exact (invariant.accounted id window underway real).mono grows fun _ _ done => done

/-- A worker's step keeps the invariant if it moves no cursor to where something
is not settled. -/
theorem seat (invariant : system.Invariant)
    (marks : ∃ marks, after.source = system.source.remembering marks) (sound : after.source.Sound)
    (within : ∀ place entity, after.cursor place entity ≤ system.source.extent entity)
    (settled : ∀ place entity, ∀ entry ∈ system.source.entries entity,
      entry.sequence ≤ after.cursor place entity → system.Settled entity entry) :
    (system.seat reader after).Invariant := by
  refine ⟨?_, ?_, ?_, invariant.accounted⟩
  · intro other
    by_cases same : other = reader
    · subst same
      obtain ⟨marks, remembered⟩ := marks
      have shared : system.source.remembering after.source.marks = after.source := by
        rw [remembered, Source.remembering_marks_remembering]
      simpa [System.seat, shared] using sound
    · simpa [System.seat, Function.update_of_ne same] using invariant.sound other
  · intro place entity
    rw [seat_cursor]
    exact within place entity
  · intro place entity
    rw [seat_cursor]
    exact settled place entity

/-- A step that leaves the cursors where they are keeps the invariant. -/
theorem seat_of_cursor (invariant : system.Invariant)
    (marks : ∃ marks, after.source = system.source.remembering marks) (sound : after.source.Sound)
    (cursor : ∀ place entity, after.cursor place entity = system.cursor place entity) :
    (system.seat reader after).Invariant := by
  apply invariant.seat marks sound
  · intro place entity
    rw [cursor]
    exact invariant.within place entity
  · intro place entity
    rw [cursor]
    exact invariant.settled place entity

theorem seat_of_frame (invariant : system.Invariant) {around : σ}
    (beside : (system.desk reader around).SameBeside after)
    (cursors : after.store.cursors = system.store.cursors) :
    (system.seat reader after).Invariant := by
  apply invariant.seat_of_cursor ⟨_, beside.source⟩
  · rw [beside.source]
    exact invariant.sound reader
  · intro place entity
    rw [beside.cursor cursors, desk_cursor]

theorem put (invariant : system.Invariant) {window : Option (OpenWindow σ)}
    (accounted : ∀ opened, window = some opened → opened.worker.options.dryRun = false →
      opened.Accounted system.source system.Settled) : (system.put id window).Invariant := by
  refine { invariant with accounted := ?_ }
  intro other opened underway
  by_cases same : other = id
  · subst same
    simp only [System.put, Function.update_self] at underway
    exact accounted opened underway
  · simp only [System.put, ne_eq, same, not_false_eq_true, Function.update_of_ne] at underway
    exact invariant.accounted other opened underway

theorem close (invariant : system.Invariant) : (system.put id none).Invariant :=
  invariant.put fun _ impossible => by cases impossible

theorem noting (invariant : system.Invariant) (window : OpenWindow σ) (entry : Entry)
    (ending : Option Ending) : (system.noting window entry ending).Invariant := by
  unfold System.noting
  split
  · split
    · exact invariant
    · rename_i ending _
      have more (entity : Entity) (other : Entry) (done : system.Settled entity other) :
          Settled { system with
            verdicts := ⟨window.entity, entry, ending⟩ :: system.verdicts } entity other := by
        obtain ⟨verdict, member, about⟩ := done
        exact ⟨verdict, List.mem_cons_of_mem _ member, about⟩
      refine ⟨invariant.sound, invariant.within, ?_, ?_⟩
      · intro place entity entry member reached
        exact more _ _ (invariant.settled place entity entry member reached)
      · intro id opened underway real
        exact (invariant.accounted id opened underway real).mono (.refl _) more
  · exact invariant

end Invariant

theorem settled_noting {system : System σ} {window : OpenWindow σ} {entry : Entry} {ending : Ending}
    (real : window.worker.options.dryRun = false)
    (final : (∃ outcome, ending = .terminal outcome) ∨ ending = .quarantined) :
    (system.noting window entry (some ending)).Settled window.entity entry := by
  simp only [noting, real, Bool.false_eq_true, ↓reduceIte]
  exact ⟨_, List.mem_cons_self, rfl, rfl, final⟩

variable {system : System σ} {id : Nat} {window : OpenWindow σ} {entry : Entry}
  {rest : List Entry} {after : Desk σ}

/-- Dealing with one record keeps the invariant. -/
theorem Invariant.attended (invariant : system.Invariant)
    (underway : system.windows id = some window) (left : window.left = entry :: rest)
    {ending : Option Ending} {progress : Progress}
    (ran : (window.worker.attend window.entity window.progress entry).exec
      (system.desk window.reader window.around) = (.ok (ending, progress), after)) :
    (((system.seat window.reader after).noting window entry ending).put id
      (some { window with left := rest, progress, around := after.around })).Invariant := by
  have frame := (window.worker.attend_frame window.entity window.progress entry _).of_exec ran
  have noted := (invariant.seat_of_frame frame.1 frame.2).noting window entry ending
  apply noted.put
  rintro _ ⟨⟩ real
  have accounted := noted.accounted id window
    (by rw [noting_windows]; exact underway) real
  have ends := (window.worker.attend_ends window.entity window.progress entry _ real).of_exec ran
  cases ends with
  | unreached stopped => exact accounted.stopped left rfl rfl stopped
  | cancelled going alike => exact accounted.stopped left rfl rfl rfl
  | @dealt _ ending going dealt =>
    have before := window.progress.note_cursorBefore window.worker.options entry.sequence ending
    cases ending with
    | terminal outcome =>
      exact accounted.passed left going before rfl (settled_noting real (.inl ⟨outcome, rfl⟩))
    | quarantined => exact accounted.passed left going before rfl (settled_noting real (.inr rfl))
    | deferred => exact accounted.stopped left before rfl rfl

/-- Fetching a page keeps the invariant, whether or not a window comes of it. -/
theorem Invariant.openWindow (invariant : system.Invariant) {worker : Worker σ} {reader : Nat}
    {entity : Entity} {onward : Option Nat} {planned : Planned} {around : σ}
    {result : Except SyncFault (Page × Progress)}
    (ran : (worker.openWindow entity onward planned).exec (system.desk reader around) =
      (result, after)) : (system.seat reader after).Invariant := by
  have ends := (worker.openWindow_ends entity onward planned _ (invariant.sound reader)).of_exec ran
  obtain ⟨marks, remembered⟩ := ends.1.marks
  apply invariant.seat_of_cursor ⟨marks, ?_⟩ ends.1.sound
  · intro place other
    rw [ends.1.cursor, desk_cursor]
  · rw [remembered]
    exact Source.remembering_remembering _ _ _

theorem Invariant.opened (invariant : system.Invariant) {worker : Worker σ} {reader : Nat}
    {entity : Entity} {onward : Option Nat} {planned : Planned} {around : σ} {page : Page}
    {progress : Progress} (dry : onward ≠ none → worker.options.dryRun = true)
    (ran : (worker.openWindow entity onward planned).exec (system.desk reader around) =
      (.ok (page, progress), after)) :
    ((system.seat reader after).put id
      (some ⟨worker, reader, entity, page, page.entries, progress, after.around⟩)).Invariant := by
  have ends := (worker.openWindow_ends entity onward planned _ (invariant.sound reader)).of_exec ran
  obtain ⟨cursor, there, rfl, _, covers⟩ := ends.2 _ rfl
  apply (invariant.openWindow ran).put
  rintro _ ⟨⟩ (real : worker.options.dryRun = false)
  have start : onward = none := by
    by_contra given
    simp [dry given] at real
  apply OpenWindow.Accounted.opened
  · simpa [desk, System.seat] using covers
  · rw [there start, desk_cursor]
    exact invariant.within _ _

/-- A window that is through may move its cursor: all up to there is settled. -/
theorem Invariant.settled_seat (invariant : system.Invariant)
    (underway : system.windows id = some window) (left : window.left = [])
    {result : Except SyncFault Unit}
    (ran : (window.worker.settle window.entity
      (window.worker.conclude window.page window.progress)).exec
      (system.desk window.reader window.around) = (result, after)) :
    (system.seat window.reader after).Invariant := by
  have ends := (window.worker.settle_ends window.entity _ _).of_exec ran
  have unmoved (alike : (system.desk window.reader window.around).Alike after) :
      (system.seat window.reader after).Invariant :=
    invariant.seat_of_frame alike.toSameBeside (by rw [alike.store]; rfl)
  cases result with
  | error fault => exact unmoved ends
  | ok _ =>
    simp only at ends
    split at ends
    · rename_i moves
      obtain ⟨there, _, around, beside, only⟩ := ends
      have real : window.worker.options.dryRun = false := by
        simp only [Worker.moves, Bool.and_eq_true, Bool.not_eq_eq_eq_not, Bool.not_true] at moves
        exact moves.1
      have accounted := invariant.accounted id window underway real
      have stands (place : CursorPlace) (entity : Entity) := beside.cursor only.cursors place entity
      have source : after.source = system.source.remembering (system.marks window.reader) := by
        rw [beside.source, Desk.moved_source]
        rfl
      apply invariant.seat ⟨_, source⟩
      · rw [source]
        exact invariant.sound _
      · intro place entity
        rw [stands]
        by_cases same : place = window.worker.cursors ∧ entity = window.entity
        · obtain ⟨rfl, rfl⟩ := same
          rw [Desk.cursor_moved_same]
          exact accounted.cursorAfter_le
        · rw [Desk.cursor_moved_other _ _ _ (not_and_or.mp same), desk_cursor]
          exact invariant.within place entity
      · intro place entity entry member
        rw [stands]
        by_cases same : place = window.worker.cursors ∧ entity = window.entity
        · obtain ⟨rfl, rfl⟩ := same
          rw [Desk.cursor_moved_same]
          intro reached
          by_cases behind : window.progress.tally.cursorBefore < entry.sequence
          · exact accounted.concluded left member behind reached
          · apply invariant.settled window.worker.cursors window.entity entry member
            rw [← desk_cursor system window.reader window.around, there]
            exact Nat.le_of_not_lt behind
        · rw [Desk.cursor_moved_other _ _ _ (not_and_or.mp same), desk_cursor]
          exact invariant.settled place entity entry member
    · exact unmoved ends

theorem Invariant.rewound (invariant : system.Invariant) {worker : Worker σ} {reader : Nat}
    {entity : Entity} {around : σ} {result : Except SyncFault Nat}
    (ran : (worker.resetCursor entity).exec (system.desk reader around) = (result, after)) :
    (system.seat reader after).Invariant := by
  obtain ⟨_, rewound⟩ := (worker.resetCursor_ends entity _).of_exec ran
  have lower (place : CursorPlace) (other : Entity) :
      after.cursor place other ≤ system.cursor place other := by
    by_cases same : place = worker.cursors ∧ other = entity
    · obtain ⟨rfl, rfl⟩ := same
      rw [rewound.at_start]
      exact Nat.zero_le _
    · exact Nat.le_of_eq ((rewound.others place other (not_and_or.mp same)).trans
        (desk_cursor system reader around place other))
  apply invariant.seat ⟨_, rewound.source⟩
  · rw [rewound.source]
    exact invariant.sound reader
  · intro place other
    exact Nat.le_trans (lower place other) (invariant.within place other)
  · intro place other entry member reached
    exact invariant.settled place other entry member (Nat.le_trans reached (lower place other))

theorem step_invariant {system after : System σ} (invariant : system.Invariant)
    (step : Step system after) : after.Invariant := by
  cases step with
  | grown grows => exact invariant.grown grows
  | rewound worker reader entity around ran => exact invariant.rewound ran
  | opened worker reader entity onward planned around idle dry ran => exact invariant.opened dry ran
  | unopened worker reader entity onward planned around ran => exact invariant.openWindow ran
  | attended underway left ran => exact invariant.attended underway left ran
  | faulted underway left ran =>
    have frame := (Worker.attend_frame _ _ _ _ _).of_exec ran
    exact (invariant.seat_of_frame frame.1 frame.2).close
  | settled underway left ran => exact (invariant.settled_seat underway left ran).close
  | abandoned id => exact invariant.close

theorem reaches_invariant {first : System σ} (initial : first.Initial)
    (reaches : Reaches first system) : system.Invariant := by
  induction reaches with
  | refl => exact initial.invariant
  | step _ step invariant => exact step_invariant invariant step

/-- Whatever workers do in whatever order, an entry at or before a cursor has
ended for good in some window, so one that was only ever put off or left alone
lies behind every cursor. -/
theorem no_entry_skipped {first : System σ} (initial : first.Initial)
    (reaches : Reaches first system) (place : CursorPlace) (entity : Entity) (entry : Entry)
    (member : entry ∈ system.source.entries entity) :
    (entry.sequence ≤ system.cursor place entity → ∃ verdict ∈ system.verdicts,
      verdict.entity = entity ∧ verdict.entry = entry ∧
        ((∃ outcome, verdict.ending = .terminal outcome) ∨ verdict.ending = .quarantined)) ∧
    ((∀ verdict ∈ system.verdicts, verdict.entity = entity → verdict.entry = entry →
      verdict.ending = .deferred) → system.cursor place entity < entry.sequence) := by
  have settled := (reaches_invariant initial reaches).settled place entity entry member
  refine ⟨settled, ?_⟩
  intro deferred
  by_contra reached
  obtain ⟨verdict, known, sameEntity, sameEntry, final⟩ := settled (Nat.le_of_not_lt reached)
  rw [deferred verdict known sameEntity sameEntry] at final
  rcases final with ⟨_, impossible⟩ | impossible <;> cases impossible

/-- Every reading of the row with the id `b` finds the store locked. With that it is
tried twice. -/
private def locksB : Worker Unit :=
  ⟨⟨fun _ => (.ofMillis 0, ()), fun _ => (false, ()),
      fun call _ => (if call = .read .contact "b" then some (.store .locked) else none, ()),
      fun _ _ => ()⟩,
    "sync", .store, ⟨10, false, some 25, false, false, .immediate 2 1⟩⟩

private def removal (externalId : String) : String :=
  "\x7b\"id\":\"" ++ externalId ++ "\",\"change\":\"remove\"\x7d"

private def makesAndRemoves : Source :=
  .memory ⟨["\x7b\"id\":\"a\",\"createdon\":\"2020-01-01T00:00:00Z\"," ++
    "\"modifiedon\":\"2020-01-01T00:00:00Z\",\"statecode\":0," ++
    "\"attributes\":\x7b\"firstname\":\"A\",\"lastname\":\"B\"\x7d\x7d", removal "b"], []⟩

private inductive Move where
  | next (id : Nat)
  | arrives (payload : String)
  | rewinds

private def move (system : System Unit) : Move → System Unit
  | .next id => proceed locksB .contact () system id
  | .arrives payload => { system with source := system.source.pushed .contact payload }
  | .rewinds => system.seat 0 ((locksB.resetCursor .contact).exec (system.desk 0 ())).2

private theorem reaches_moves (moves : List Move) (system : System Unit) :
    Reaches system (moves.foldl move system) := by
  induction moves generalizing system with
  | nil => exact .refl
  | cons first rest ih =>
    have step : Step system (move system first) := by
      cases first with
      | next id => exact proceed_step locksB .contact () id
      | arrives payload => exact .grown (Source.growsInto_pushed _ _ _).1
      | rewinds => exact .rewound locksB 0 .contact () rfl
    exact (Reaches.step .refl step).trans (ih _)

/-- The desk after a single window of a worker on its own, and after a run of it. -/
private def afterWindowAndRun (desk : Desk Unit) : Desk Unit :=
  ((locksB.runUntilIdle .contact none).exec ((locksB.processBatch .contact).exec desk).2).2

private theorem follows_afterWindowAndRun {system : System Unit} (idle : (system.windows 3).isNone)
    (sound : (system.source.remembering (system.marks 3)).Sound) :
    system.Follows 3 (afterWindowAndRun (system.desk 3 ())) := by
  have free := Option.isNone_iff_eq_none.mp idle
  have window : system.Follows 3 ((locksB.processBatch .contact).exec (system.desk 3 ())).2 :=
    processBatch_follows locksB .contact () free sound
  exact window.further fun later windows sound =>
    runUntilIdle_follows locksB .contact none _ (windows ▸ free) sound

/-- Two windows are open at once. The first one makes a row, puts the removal off and moves
the cursor up to it. The second one tries the removal for the second time, gives it up, and
cannot move the cursor. Then a further removal arrives and the cursor is put back. A window
of a worker on its own puts the first removal off again, and its next run gives it up again
and passes everything. -/
theorem no_entry_skipped_given_up : ∃ midway between final : System Unit,
    (start makesAndRemoves : System Unit).Initial ∧ Reaches (start makesAndRemoves) midway ∧
    Reaches midway between ∧ Reaches between final ∧
    (midway.store.rows.get .contact).rows.map (·.externalId) = ["a"] ∧
    midway.verdicts.map (fun verdict => (verdict.entry.sequence, verdict.ending)) =
      [(2, .deferred), (1, .terminal .created)] ∧
    midway.cursor .store .contact < 2 ∧
    between.verdicts.map (fun verdict => (verdict.entry.sequence, verdict.ending)) =
      [(2, .quarantined), (1, .terminal (.updated false false)),
        (2, .deferred), (1, .terminal .created)] ∧
    between.cursor .store .contact = 0 ∧
    (final.source.entries .contact).map (·.sequence) = [1, 2, 3] ∧
    final.cursor .store .contact = 3 ∧
    final.store.quarantine.entries.map (·.sequence) = [2] ∧
    ∀ entry ∈ final.source.entries .contact, ∃ verdict ∈ final.verdicts,
      verdict.entity = .contact ∧ verdict.entry = entry ∧
        ((∃ outcome, verdict.ending = .terminal outcome) ∨ verdict.ending = .quarantined) := by
  let midway : System Unit :=
    [.next 1, .next 2, .next 1, .next 1, .next 1].foldl move (start makesAndRemoves)
  let between : System Unit :=
    [.next 2, .next 2, .next 2, .arrives (removal "c"), .rewinds].foldl move midway
  have initial : (start makesAndRemoves : System Unit).Initial := start_initial makesAndRemoves
  have half : Reaches (start makesAndRemoves) midway := reaches_moves _ _
  have more : Reaches midway between := reaches_moves _ _
  obtain ⟨idle, made, noted, puts, notedSince, back, listed, there, given⟩ :
      (between.windows 3).isNone ∧
      (midway.store.rows.get .contact).rows.map (·.externalId) = ["a"] ∧
      midway.verdicts.map (fun verdict => (verdict.entry.sequence, verdict.ending)) =
        [(2, .deferred), (1, .terminal .created)] ∧
      ((midway.source.entries .contact).find? (·.sequence == 2)).isSome = true ∧
      between.verdicts.map (fun verdict => (verdict.entry.sequence, verdict.ending)) =
        [(2, .quarantined), (1, .terminal (.updated false false)),
          (2, .deferred), (1, .terminal .created)] ∧
      between.cursor .store .contact = 0 ∧
      (between.source.entries .contact).map (·.sequence) = [1, 2, 3] ∧
      (afterWindowAndRun (between.desk 3 ())).store.cursor .contact = 3 ∧
      (afterWindowAndRun (between.desk 3 ())).store.quarantine.entries.map (·.sequence) = [2] := by
    decide +kernel
  clear_value midway between
  have sound := (reaches_invariant initial (half.trans more)).sound 3
  obtain ⟨_, _, verdicts, runs⟩ := follows_afterWindowAndRun idle sound
  refine ⟨midway, between, _, initial, half, more, runs, made, noted, ?_, notedSince, back, listed,
    there, given, ?_⟩
  · obtain ⟨entry, found⟩ := Option.isSome_iff_exists.mp puts
    have second : entry.sequence = 2 := by simpa using List.find?_some found
    have ahead := (no_entry_skipped initial half .store .contact entry
      (List.mem_of_find?_eq_some found)).2
    rw [second] at ahead
    refine ahead fun verdict known _ same => ?_
    have among := List.mem_map_of_mem (f := fun verdict : Verdict =>
      (verdict.entry.sequence, verdict.ending)) known
    rw [noted, same, second] at among
    simpa using among
  · intro entry member
    have among : entry.sequence ∈ (between.source.entries .contact).map (·.sequence) :=
      List.mem_map_of_mem member
    rw [listed] at among
    refine (no_entry_skipped initial (half.trans (more.trans runs)) .store .contact entry member).1 ?_
    show entry.sequence ≤ (afterWindowAndRun (between.desk 3 ())).store.cursor .contact
    rw [there]
    simp only [List.mem_cons, List.not_mem_nil, or_false] at among
    omega

end System

end RecordSync.Run
