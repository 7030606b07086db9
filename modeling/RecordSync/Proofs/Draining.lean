import RecordSync.Proofs.Coverage
import RecordSync.Proofs.LastWord

/-! Workers that drain one feed together, with their cursors in one store. What a
step of one of them can do to the rows, the cursors and the windows under way is
said once; everything that holds of such workers follows from it. -/

namespace RecordSync.Run

open RecordSync.Calendar RecordSync.Change RecordSync.Feed RecordSync.Record RecordSync.Store
open Work

variable {σ : Type}

namespace System

/-- A step of workers that drain: no cursor in the store is put back, no window is
one of a dry run, and all of them keep their cursor in the store. -/
structure DrainStep (system after : System σ) : Prop where
  step : Step system after
  forward : ∀ entity, system.store.cursor entity ≤ after.store.cursor entity
  working : ∀ id window, after.windows id = some window →
    window.worker.options.dryRun = false ∧ window.worker.cursors = .store

/-- The states that workers come to that drain, in whatever order their steps are
taken, with the steps that led there, the newest first. -/
inductive Drains (first : System σ) : List (System σ × System σ) → System σ → Prop where
  | refl : Drains first [] first
  | step {system after : System σ} {steps : List (System σ × System σ)}
      (drains : Drains first steps system) (step : DrainStep system after) :
      Drains first ((system, after) :: steps) after

/-- The feed, the rows, the cursors in the store and the quarantine are as they were. -/
structure Rests (system after : System σ) : Prop where
  source : after.source = system.source
  rows : after.store.rows = system.store.rows
  cursor : ∀ entity, after.store.cursor entity = system.store.cursor entity
  quarantine : after.store.quarantine = system.store.quarantine

/-- All that a step of workers that drain can do. -/
inductive Turn (system after : System σ) : Prop where
  | grown (grows : system.source.Grows after.source) (store : after.store = system.store)
      (windows : after.windows = system.windows)
  | rested (rests : system.Rests after) (windows : after.windows = system.windows)
  | opened {id : Nat} {window : OpenWindow σ} (rests : system.Rests after)
      (idle : system.windows id = none)
      (windows : after.windows = Function.update system.windows id (some window))
      (start : window.progress.tally.cursorBefore = system.store.cursor window.entity)
      (through : window.progress.through = system.store.cursor window.entity)
      (accounted : window.Accounted system.source fun _ entry =>
        entry.sequence ≤ window.progress.through)
      (inside : ∀ entry ∈ window.page.entries, entry ∈ system.source.entries window.entity ∧
        window.progress.through < entry.sequence)
  | paused {id : Nat} {window : OpenWindow σ} {entry : Entry} {rest : List Entry}
      {progress : Progress} {around : σ} (rests : system.Rests after)
      (underway : system.windows id = some window) (left : window.left = entry :: rest)
      (before : progress.tally.cursorBefore = window.progress.tally.cursorBefore)
      (through : progress.through = window.progress.through) (stop : progress.stop.isSome = true)
      (windows : after.windows =
        Function.update system.windows id (some { window with left := rest, progress, around }))
  | passed {id : Nat} {window : OpenWindow σ} {entry : Entry} {rest : List Entry}
      {progress : Progress} {around : σ} {outcome : Outcome} {now : Instant}
      (underway : system.windows id = some window) (left : window.left = entry :: rest)
      (going : window.progress.stop = none)
      (before : progress.tally.cursorBefore = window.progress.tally.cursorBefore)
      (through : progress.through = entry.sequence) (source : after.source = system.source)
      (applied : system.store.apply window.worker.actor (decode entry.delivery) now =
        .ok (outcome, after.store))
      (windows : after.windows =
        Function.update system.windows id (some { window with left := rest, progress, around }))
  | surrendered (quarantine : after.store.quarantine.entries ≠ [])
  | closed {id : Nat} {window : OpenWindow σ} (rests : system.Rests after)
      (underway : system.windows id = some window)
      (windows : after.windows = Function.update system.windows id none)
  | settled {id : Nat} {window : OpenWindow σ} (underway : system.windows id = some window)
      (left : window.left = []) (source : after.source = system.source)
      (rows : after.store.rows = system.store.rows)
      (quarantine : after.store.quarantine = system.store.quarantine)
      (there : system.store.cursor window.entity = window.progress.tally.cursorBefore)
      (onward : window.progress.tally.cursorBefore <
        (window.worker.conclude window.page window.progress).cursorAfter)
      (moved : after.store.cursor window.entity =
        (window.worker.conclude window.page window.progress).cursorAfter)
      (others : ∀ entity, entity ≠ window.entity →
        after.store.cursor entity = system.store.cursor entity)
      (windows : after.windows = Function.update system.windows id none)

variable {system after : System σ} {id reader : Nat} {window : OpenWindow σ} {entry : Entry}
  {rest : List Entry} {desk : Desk σ}

private theorem rests_of_alike {around : σ} (alike : (system.desk reader around).Alike desk) :
    system.Rests (system.seat reader desk) := by
  have store : desk.store = system.store := alike.store
  refine ⟨rfl, ?_, ?_, ?_⟩
  · show desk.store.rows = _
    rw [store]
  · intro entity
    show desk.store.cursor entity = _
    rw [store]
  · show desk.store.quarantine = _
    rw [store]

private theorem rests_of_onlyAttempts {around : σ}
    (only : (system.desk reader around).store.OnlyAttempts desk.store) :
    system.Rests (system.seat reader desk) := by
  refine ⟨rfl, only.rows, ?_, only.quarantine⟩
  intro entity
  show desk.store.cursor entity = _
  simp only [Store.cursor, only.cursors]
  rfl

theorem noting_store (system : System σ) (window : OpenWindow σ) (entry : Entry)
    (ending : Option Ending) : (system.noting window entry ending).store = system.store ∧
      (system.noting window entry ending).source = system.source := by
  unfold noting
  split
  · split <;> exact ⟨rfl, rfl⟩
  · exact ⟨rfl, rfl⟩

private theorem Rests.noting_put (rests : system.Rests after) (ending : Option Ending)
    (next : Option (OpenWindow σ)) :
    system.Rests ((after.noting window entry ending).put id next) := by
  obtain ⟨store, source⟩ := after.noting_store window entry ending
  refine ⟨?_, ?_, ?_, ?_⟩
  · exact source.trans rests.source
  · show (after.noting window entry ending).store.rows = _
    rw [store]
    exact rests.rows
  · intro entity
    show (after.noting window entry ending).store.cursor entity = _
    rw [store]
    exact rests.cursor entity
  · show (after.noting window entry ending).store.quarantine = _
    rw [store]
    exact rests.quarantine

private theorem windows_noting_put (ending : Option Ending) (next : Option (OpenWindow σ)) :
    (((system.seat reader desk).noting window entry ending).put id next).windows =
      Function.update system.windows id next := by
  show Function.update ((system.seat reader desk).noting window entry ending).windows id next = _
  rw [noting_windows]
  rfl

private theorem windows_seat_put (next : Option (OpenWindow σ)) :
    ((system.seat reader desk).put id next).windows = Function.update system.windows id next :=
  rfl

private theorem attended_turn (real : window.worker.options.dryRun = false)
    (underway : system.windows id = some window) (left : window.left = entry :: rest)
    {ending : Option Ending} {progress : Progress}
    (ran : (window.worker.attend window.entity window.progress entry).exec
      (system.desk window.reader window.around) = (.ok (ending, progress), desk)) :
    system.Turn (((system.seat window.reader desk).noting window entry ending).put id
      (some { window with left := rest, progress, around := desk.around })) := by
  have ends := (window.worker.attend_ends window.entity window.progress entry _ real).of_exec ran
  cases ends with
  | unreached stopped =>
    exact .paused ((rests_of_alike (.refl _)).noting_put _ _) underway left rfl rfl stopped
      (windows_noting_put _ _)
  | cancelled going alike =>
    refine .paused ((rests_of_alike alike).noting_put _ _) underway left ?_ ?_ ?_
      (windows_noting_put _ _)
    · rfl
    · rfl
    · rfl
  | @dealt _ ending going dealt =>
    have before := window.progress.note_cursorBefore window.worker.options entry.sequence ending
    obtain ⟨store, source⟩ :=
      (system.seat window.reader desk).noting_store window entry (some ending)
    cases ending with
    | terminal outcome =>
      obtain ⟨_, around, applied⟩ := dealt
      have written : system.store.apply window.worker.actor (decode entry.delivery)
          (window.worker.reading around) = .ok (outcome,
            ((system.seat window.reader desk).noting window entry
              (some (.terminal outcome))).store) := by
        rw [store]
        exact applied
      exact .passed underway left going before rfl source written (windows_noting_put _ _)
    | quarantined =>
      obtain ⟨_, _, _, _, _, _, _, _, _, given⟩ := dealt
      apply Turn.surrendered
      show (System.noting _ _ _ _).store.quarantine.entries ≠ []
      rw [store]
      exact (surrender_spec given).2.2
    | deferred =>
      exact .paused ((rests_of_onlyAttempts dealt.2).noting_put _ _) underway left before rfl rfl
        (windows_noting_put _ _)

private theorem settled_turn (place : window.worker.cursors = .store)
    (underway : system.windows id = some window) (left : window.left = [])
    {result : Except SyncFault Unit}
    (ran : (window.worker.settle window.entity
      (window.worker.conclude window.page window.progress)).exec
      (system.desk window.reader window.around) = (result, desk)) :
    system.Turn ((system.seat window.reader desk).put id none) := by
  have closed (alike : (system.desk window.reader window.around).Alike desk) :
      system.Turn ((system.seat window.reader desk).put id none) := by
    have rests := rests_of_alike alike
    exact .closed ⟨rests.source, rests.rows, rests.cursor, rests.quarantine⟩ underway rfl
  have frame := (window.worker.settle_frame window.entity _ _).of_exec ran
  have ends := (window.worker.settle_ends window.entity _ _).of_exec ran
  cases result with
  | error fault => exact closed ends
  | ok _ =>
    simp only at ends
    split at ends
    · rename_i moves
      obtain ⟨there, _, around, beside, only⟩ := ends
      have cursor := beside.cursor only.cursors .store
      rw [place] at there cursor
      refine .settled underway left rfl frame.2.1.rows.symm frame.2.2 there ?_ ?_ ?_ rfl
      · simp only [Worker.moves, Bool.and_eq_true, decide_eq_true_eq] at moves
        exact moves.2
      · exact (cursor window.entity).trans (Desk.cursor_moved_same _ _ _ _ _)
      · intro entity different
        exact (cursor entity).trans (Desk.cursor_moved_other _ _ _ (.inr different))
    · exact closed ends

/-- A step of workers that drain is one of the turns. -/
theorem DrainStep.turn (step : system.DrainStep after) (invariant : system.Invariant)
    (working : ∀ id window, system.windows id = some window →
      window.worker.options.dryRun = false ∧ window.worker.cursors = .store) :
    system.Turn after := by
  obtain ⟨step, forward, workingAfter⟩ := step
  cases step with
  | grown grows => exact .grown grows rfl rfl
  | @rewound _ final worker reader entity around ran =>
    obtain ⟨_, rewound⟩ := (worker.resetCursor_ends entity _).of_exec ran
    refine .rested ⟨rfl, rewound.rows, ?_, rewound.quarantine⟩ rfl
    intro other
    show final.cursor .store other = system.store.cursor other
    by_cases same : CursorPlace.store = worker.cursors ∧ other = entity
    · obtain ⟨place, rfl⟩ := same
      have start := rewound.at_start
      have kept : system.store.cursor other ≤ final.cursor .store other := forward other
      rw [← place] at start
      omega
    · exact rewound.others .store other (not_and_or.mp same)
  | @opened id page progress final worker reader entity onward planned around idle dry ran =>
    have ends := (worker.openWindow_ends entity onward planned _ (invariant.sound reader)).of_exec ran
    obtain ⟨cursor, found, rfl, _, covers⟩ := ends.2 _ rfl
    obtain ⟨real, place⟩ := workingAfter id _ (Function.update_self ..)
    have start : onward = none := by
      by_contra given
      simp [dry given] at real
    have there : cursor = system.store.cursor entity := by
      rw [found start, show worker.cursors = .store from place]
      rfl
    have covers : page.Covers (system.source.entries entity) (system.source.extent entity) cursor
        worker.options.window := by
      simpa [desk] using covers
    refine .opened ⟨rfl, ?_, ?_, ?_⟩ idle rfl there there ?_ fun entry member => covers.mem member
    · exact congrArg Store.rows ends.1.store
    · intro other
      exact congrArg (Store.cursor · other) ends.1.store
    · exact congrArg Store.quarantine ends.1.store
    · exact OpenWindow.Accounted.opened covers (there ▸ invariant.within .store entity)
  | @unopened fault final worker reader entity onward planned around ran =>
    have ends := (worker.openWindow_ends entity onward planned _ (invariant.sound reader)).of_exec ran
    refine .rested ⟨rfl, ?_, ?_, ?_⟩ rfl
    · exact congrArg Store.rows ends.1.store
    · intro other
      exact congrArg (Store.cursor · other) ends.1.store
    · exact congrArg Store.quarantine ends.1.store
  | attended underway left ran => exact attended_turn (working _ _ underway).1 underway left ran
  | faulted underway left ran =>
    have ends := (Worker.attend_ends _ _ _ _ _ (working _ _ underway).1).of_exec ran
    have rests := rests_of_onlyAttempts ends.2
    exact .closed ⟨rests.source, rests.rows, rests.cursor, rests.quarantine⟩ underway rfl
  | settled underway left ran => exact settled_turn (working _ _ underway).2 underway left ran
  | abandoned id =>
    cases underway : system.windows id with
    | none =>
      refine .rested ⟨rfl, rfl, fun _ => rfl, rfl⟩ ?_
      rw [← underway]
      exact Function.update_eq_self id system.windows
    | some window => exact .closed ⟨rfl, rfl, fun _ => rfl, rfl⟩ underway rfl

end System

/-- A window that takes its records in their order: what it got through is all that
its feed has behind the cursor it set out from, and that cursor was not put back. -/
structure OpenWindow.InOrder (window : OpenWindow σ) (source : Source) (cursor : Nat) : Prop where
  accounted : window.Accounted source fun _ entry => entry.sequence ≤ window.progress.through
  inside : ∀ entry ∈ window.page.entries, entry ∈ source.entries window.entity
  ahead : ∀ entry ∈ window.left, window.progress.through < entry.sequence
  began : window.progress.tally.cursorBefore ≤ window.progress.through
  behind : window.progress.tally.cursorBefore ≤ cursor

namespace OpenWindow.InOrder

variable {window : OpenWindow σ} {source later : Source} {cursor : Nat} {entry other : Entry}
  {rest : List Entry} {progress : Progress} {around : σ}

theorem mono {further : Nat} (inOrder : window.InOrder source cursor) (onward : cursor ≤ further) :
    window.InOrder source further :=
  { inOrder with behind := Nat.le_trans inOrder.behind onward }

theorem through_le (inOrder : window.InOrder source cursor) :
    window.progress.through ≤ source.extent window.entity :=
  Nat.le_trans inOrder.accounted.through_le inOrder.accounted.next_le

theorem grown (inOrder : window.InOrder source cursor) (grows : source.Grows later) :
    window.InOrder later cursor := by
  obtain ⟨added, entries, _⟩ := grows.entries window.entity
  refine { inOrder with
    accounted := inOrder.accounted.mono grows fun _ _ reached => reached
    inside := ?_ }
  intro entry member
  rw [entries]
  exact List.mem_append_left _ (inOrder.inside entry member)

/-- Nothing of the feed lies between what a window got through and its next record. -/
theorem reached (inOrder : window.InOrder source cursor) (left : window.left = entry :: rest)
    (going : window.progress.stop = none) (member : other ∈ source.entries window.entity)
    (early : other.sequence ≤ entry.sequence) :
    other.sequence ≤ window.progress.through ∨ other = entry := by
  have sorted := inOrder.accounted.sorted
  have subset := inOrder.accounted.left_subset
  rw [left] at sorted subset
  by_cases behind : window.progress.tally.cursorBefore < other.sequence
  · have next := inOrder.accounted.before_next entry (subset List.mem_cons_self)
    have present := inOrder.accounted.covers other member behind (Nat.le_trans early next)
    rcases inOrder.accounted.passed_settled going other present with waiting | done
    · rw [left, List.mem_cons] at waiting
      rcases waiting with same | after
      · exact .inr same
      · have apart := (List.pairwise_cons.mp sorted).1 other after
        omega
    · exact .inl done
  · have began := inOrder.began
    exact .inl (by omega)

theorem paused (inOrder : window.InOrder source cursor) (left : window.left = entry :: rest)
    (before : progress.tally.cursorBefore = window.progress.tally.cursorBefore)
    (through : progress.through = window.progress.through) (stop : progress.stop.isSome = true) :
    OpenWindow.InOrder { window with left := rest, progress, around } source cursor := by
  have accounted : OpenWindow.Accounted { window with left := rest, progress, around } source
      fun _ entry => entry.sequence ≤ window.progress.through :=
    inOrder.accounted.stopped left before through stop
  refine ⟨?_, inOrder.inside, ?_, ?_, ?_⟩
  · simpa only [through] using accounted
  · intro other member
    simp only [through]
    exact inOrder.ahead other (left ▸ List.mem_cons_of_mem entry member)
  · simpa only [before, through] using inOrder.began
  · simpa only [before] using inOrder.behind

theorem passed (inOrder : window.InOrder source cursor) (left : window.left = entry :: rest)
    (going : window.progress.stop = none)
    (before : progress.tally.cursorBefore = window.progress.tally.cursorBefore)
    (through : progress.through = entry.sequence) :
    OpenWindow.InOrder { window with left := rest, progress, around } source cursor := by
  have ahead := inOrder.ahead entry (left ▸ List.mem_cons_self)
  have sorted := inOrder.accounted.sorted
  rw [left] at sorted
  have further : window.Accounted source fun _ entry => entry.sequence ≤ progress.through :=
    inOrder.accounted.mono (.refl source) fun _ _ done => by omega
  refine ⟨further.passed left going before through (Nat.le_of_eq through.symm), inOrder.inside,
    ?_, ?_, ?_⟩
  · intro other member
    show progress.through < other.sequence
    rw [through]
    exact (List.pairwise_cons.mp sorted).1 other member
  · have began := inOrder.began
    simp only [before, through]
    omega
  · simpa only [before] using inOrder.behind

end OpenWindow.InOrder

namespace System

/-- What holds of workers that drain after every step: a key has one row, no cursor
is beyond its feed, and each window takes its records in their order. -/
structure Ordered (system : System σ) : Prop where
  keyed : system.store.Keyed
  within : ∀ entity, system.store.cursor entity ≤ system.source.extent entity
  windows : ∀ id window, system.windows id = some window →
    window.InOrder system.source (system.store.cursor window.entity)

variable {system after : System σ} {id other : Nat} {window : OpenWindow σ}

theorem start_ordered (source : Source) : (start source : System σ).Ordered := by
  refine ⟨?_, ?_, fun _ _ impossible => by cases impossible⟩
  · intro entity
    rw [show (start source : System σ).store.rows = .both .empty from rfl, PerEntity.get_both]
    exact RowTable.empty_keyed
  · intro entity
    rw [show (start source : System σ).store.cursor entity = 0 from
      (start_initial source : (start source : System σ).Initial).cursors .store entity]
    exact Nat.zero_le _

/-- A window that is under way after one was put is that one or was there before. -/
theorem window_cases {next : Option (OpenWindow σ)}
    (windows : after.windows = Function.update system.windows id next)
    (underway : after.windows other = some window) :
    (other = id ∧ next = some window) ∨ (other ≠ id ∧ system.windows other = some window) := by
  rw [windows] at underway
  by_cases same : other = id
  · subst same
    rw [Function.update_self] at underway
    exact .inl ⟨rfl, underway⟩
  · rw [Function.update_of_ne same] at underway
    exact .inr ⟨same, underway⟩

/-- Once a window was put in a place, all windows are in order if that one is and if the
others still are. -/
theorem Ordered.windows_put (ordered : system.Ordered) {next : Option (OpenWindow σ)}
    (windows : after.windows = Function.update system.windows id next)
    (placed : ∀ window : OpenWindow σ, next = some window →
      window.InOrder after.source (after.store.cursor window.entity))
    (still : ∀ window : OpenWindow σ,
      window.InOrder system.source (system.store.cursor window.entity) →
        window.InOrder after.source (after.store.cursor window.entity)) :
    ∀ other window, after.windows other = some window →
      window.InOrder after.source (after.store.cursor window.entity) := by
  intro other window underway
  rcases window_cases windows underway with ⟨_, same⟩ | ⟨_, known⟩
  · exact placed window same
  · exact still window (ordered.windows other window known)

/-- While all else rests, a window may be put that is in order. -/
theorem Rests.ordered (rests : system.Rests after) (ordered : system.Ordered)
    {next : Option (OpenWindow σ)} (windows : after.windows = Function.update system.windows id next)
    (placed : ∀ window, next = some window →
      window.InOrder system.source (system.store.cursor window.entity)) : after.Ordered := by
  have still (window : OpenWindow σ)
      (inOrder : window.InOrder system.source (system.store.cursor window.entity)) :
      window.InOrder after.source (after.store.cursor window.entity) := by
    rw [rests.cursor, rests.source]
    exact inOrder
  refine ⟨?_, ?_, ordered.windows_put windows (fun window same => still window (placed window same))
    still⟩
  · intro entity
    rw [rests.rows]
    exact ordered.keyed entity
  · intro entity
    rw [rests.cursor, rests.source]
    exact ordered.within entity

/-- A turn keeps all in order, unless a record is given up. -/
theorem Turn.ordered (ordered : system.Ordered) (turn : system.Turn after) :
    after.store.quarantine.entries ≠ [] ∨ after.Ordered := by
  cases turn with
  | grown grows store windows =>
    refine .inr ⟨store ▸ ordered.keyed, ?_, ?_⟩
    · intro entity
      rw [store]
      exact Nat.le_trans (ordered.within entity) (grows.extent_le entity)
    · intro other window underway
      rw [windows] at underway
      rw [store]
      exact (ordered.windows other window underway).grown grows
  | rested rests windows =>
    have same : after.windows = Function.update system.windows 0 (system.windows 0) := by
      rw [windows, Function.update_eq_self]
    exact .inr (rests.ordered ordered same (ordered.windows 0))
  | opened rests idle windows start through accounted inside =>
    refine .inr (rests.ordered ordered windows ?_)
    rintro _ ⟨⟩
    refine ⟨accounted, fun entry member => (inside entry member).1, ?_, ?_, ?_⟩
    · intro entry member
      exact (inside entry (accounted.left_subset member)).2
    · rw [start, through]
    · exact Nat.le_of_eq start
  | paused rests underway left before through stop windows =>
    refine .inr (rests.ordered ordered windows ?_)
    rintro _ ⟨⟩
    exact (ordered.windows _ _ underway).paused left before through stop
  | passed underway left going before through source applied windows =>
    have cursors := apply_cursors applied
    have cursor (entity : Entity) : after.store.cursor entity = system.store.cursor entity := by
      simp only [Store.cursor, cursors]
    refine .inr ⟨(apply_effect ordered.keyed applied).keyed ordered.keyed, ?_,
      ordered.windows_put windows ?_ ?_⟩
    · intro entity
      rw [cursor, source]
      exact ordered.within entity
    · rintro _ ⟨⟩
      rw [cursor, source]
      exact (ordered.windows _ _ underway).passed left going before through
    · intro other inOrder
      rw [cursor, source]
      exact inOrder
  | surrendered quarantine => exact .inl quarantine
  | closed rests underway windows =>
    exact .inr (rests.ordered ordered windows fun _ impossible => by cases impossible)
  | @settled id window underway left source rows quarantine there onward moved others windows =>
    refine .inr ⟨?_, ?_, ordered.windows_put windows (fun _ impossible => by cases impossible) ?_⟩
    · intro entity
      rw [rows]
      exact ordered.keyed entity
    · intro entity
      rw [source]
      by_cases same : entity = window.entity
      · subst same
        rw [moved]
        exact (ordered.windows id window underway).accounted.cursorAfter_le
      · rw [others entity same]
        exact ordered.within entity
    · intro other inOrder
      rw [source]
      apply inOrder.mono
      by_cases same : other.entity = window.entity
      · rw [same, moved, there]
        exact Nat.le_of_lt onward
      · rw [others _ same]

/-- A record that was given up stays in the quarantine. -/
theorem Turn.quarantine (filled : system.store.quarantine.entries ≠ [])
    (turn : system.Turn after) : after.store.quarantine.entries ≠ [] := by
  cases turn with
  | grown grows store windows => rwa [store]
  | rested rests windows => rwa [rests.quarantine]
  | opened rests idle windows start through accounted inside => rwa [rests.quarantine]
  | paused rests underway left before through stop windows => rwa [rests.quarantine]
  | passed underway left going before through source applied windows =>
    rwa [apply_quarantine applied]
  | surrendered quarantine => exact quarantine
  | closed rests underway windows => rwa [rests.quarantine]
  | settled underway left source rows quarantine there onward moved others windows =>
    rwa [quarantine]

namespace Drains

variable {source : Source} {steps : List (System σ × System σ)}

theorem reaches {first : System σ} (drains : Drains first steps system) :
    Reaches first system := by
  induction drains with
  | refl => exact .refl
  | step _ step ih => exact .step ih step.step

theorem working (drains : Drains (start source) steps system)
    (underway : system.windows id = some window) :
    window.worker.options.dryRun = false ∧ window.worker.cursors = .store := by
  cases drains with
  | refl => cases underway
  | step _ step => exact step.working id window underway

/-- What workers do that drain from an empty store on is turn after turn. -/
theorem turn (drains : Drains (start source) steps system) (step : system.DrainStep after) :
    system.Turn after :=
  step.turn (reaches_invariant (start_initial source) drains.reaches)
    fun _ _ underway => drains.working underway

end Drains

section Proceed

variable {worker : Worker σ} {entity : Entity} {around : σ} {source : Source}
  {steps : List (System σ × System σ)}

private theorem settle_forward {tally : Tally} {result : Except SyncFault Unit} {desk after : Desk σ}
    (ran : (worker.settle entity tally).exec desk = (result, after)) (other : Entity) :
    desk.store.cursor other ≤ after.store.cursor other := by
  have ends := (worker.settle_ends entity tally desk).of_exec ran
  have kept (alike : desk.Alike after) : desk.store.cursor other ≤ after.store.cursor other :=
    Nat.le_of_eq (alike.cursor .store other).symm
  cases result with
  | error fault => exact kept ends
  | ok _ =>
    simp only at ends
    split at ends
    · rename_i moves
      obtain ⟨there, _, around, beside, only⟩ := ends
      have moved : after.store.cursor other = _ := beside.cursor only.cursors .store other
      rw [moved]
      by_cases same : CursorPlace.store = worker.cursors ∧ other = entity
      · obtain ⟨place, rfl⟩ := same
        simp only [Worker.moves, Bool.and_eq_true, decide_eq_true_eq] at moves
        rw [← place] at there ⊢
        rw [Desk.cursor_moved_same]
        exact Nat.le_trans (Nat.le_of_eq there) (Nat.le_of_lt moves.2)
      · exact Nat.le_of_eq (Desk.cursor_moved_other _ _ _ (not_and_or.mp same)).symm
    · exact kept ends

/-- A window's next step puts no cursor back, and it leaves the other windows alone. -/
theorem proceed_spec (invariant : system.Invariant) (worker : Worker σ) (entity : Entity)
    (around : σ) (id : Nat) :
    (∀ other, system.store.cursor other ≤
        (proceed worker entity around system id).store.cursor other) ∧
      ∃ next, (proceed worker entity around system id).windows =
          Function.update system.windows id next ∧
        ∀ window, next = some window → window.worker = worker ∨
          ∃ earlier, system.windows id = some earlier ∧ window.worker = earlier.worker := by
  unfold proceed
  split
  · rename_i idle
    split
    · rename_i page progress after ran
      have ends := (worker.openWindow_ends entity none [] _ (invariant.sound id)).of_exec ran
      refine ⟨?_, _, windows_seat_put _, ?_⟩
      · intro other
        exact Nat.le_of_eq (congrArg (Store.cursor · other) ends.1.store).symm
      · rintro _ ⟨⟩
        exact .inl rfl
    · rename_i fault after ran
      have ends := (worker.openWindow_ends entity none [] _ (invariant.sound id)).of_exec ran
      refine ⟨?_, none, ?_, fun _ impossible => nomatch impossible⟩
      · intro other
        exact Nat.le_of_eq (congrArg (Store.cursor · other) ends.1.store).symm
      · rw [← idle, Function.update_eq_self]
        rfl
  · rename_i window underway
    split
    · rename_i entry rest left
      split
      · rename_i ending progress after ran
        have frame := (window.worker.attend_frame window.entity window.progress entry _).of_exec ran
        refine ⟨?_, _, windows_noting_put _ _, ?_⟩
        · intro other
          show _ ≤ ((system.seat window.reader after).noting window entry ending).store.cursor other
          rw [(noting_store _ window entry ending).1]
          exact Nat.le_of_eq (frame.1.cursor frame.2 .store other).symm
        · rintro _ ⟨⟩
          exact .inr ⟨window, underway, rfl⟩
      · rename_i fault after ran
        have frame := (window.worker.attend_frame window.entity window.progress entry _).of_exec ran
        refine ⟨?_, none, windows_seat_put _, fun _ impossible => nomatch impossible⟩
        intro other
        exact Nat.le_of_eq (frame.1.cursor frame.2 .store other).symm
    · rename_i left
      split
      rename_i result after ran
      exact ⟨settle_forward ran, none, windows_seat_put _, fun _ impossible => nomatch impossible⟩

/-- A worker that keeps its cursor in the store and whose runs are not dry drains. -/
theorem Drains.proceed (drains : Drains (start source) steps system)
    (real : worker.options.dryRun = false) (place : worker.cursors = .store) (entity : Entity)
    (around : σ) (id : Nat) :
    system.DrainStep (proceed worker entity around system id) ∧ ∀ other, other ≠ id →
      (proceed worker entity around system id).windows other = system.windows other := by
  have invariant := reaches_invariant (start_initial source) drains.reaches
  obtain ⟨forward, next, windows, known⟩ := proceed_spec invariant worker entity around id
  refine ⟨⟨proceed_step worker entity around id, forward, fun other window underway => ?_⟩, fun other different => ?_⟩
  · rcases window_cases windows underway with ⟨_, same⟩ | ⟨_, there⟩
    · rcases known window same with same | ⟨earlier, there, same⟩
      · rw [same]
        exact ⟨real, place⟩
      · rw [same]
        exact drains.working there
    · exact drains.working there
  · rw [windows, Function.update_of_ne different]

/-- The state after windows took their next steps in a given order. -/
def interleave (worker : Worker σ) (entity : Entity) (around : σ) (system : System σ)
    (order : List Nat) : System σ :=
  order.foldl (proceed worker entity around) system

theorem Drains.interleave (drains : Drains (start source) steps system)
    (real : worker.options.dryRun = false) (place : worker.cursors = .store) (entity : Entity)
    (around : σ) (order : List Nat) :
    ∃ steps, Drains (start source) steps (system.interleave worker entity around order) ∧
      ∀ id, id ∉ order →
        (system.interleave worker entity around order).windows id = system.windows id := by
  induction order generalizing system steps with
  | nil => exact ⟨steps, drains, fun _ _ => rfl⟩
  | cons first rest ih =>
    obtain ⟨step, frame⟩ := drains.proceed real place entity around first
    obtain ⟨further, drained, others⟩ := ih (.step drains step)
    refine ⟨further, drained, fun id absent => ?_⟩
    rw [List.mem_cons, not_or] at absent
    exact (others id absent.2).trans (frame id absent.1)

/-- Whoever took no step has no window under way. -/
theorem start_interleave (source : Source) (worker : Worker σ) (entity : Entity) (around : σ)
    (order : List Nat) (real : worker.options.dryRun = false) (place : worker.cursors = .store)
    (ended : order.all fun id =>
      (((start source).interleave worker entity around order).windows id).isNone) :
    (∃ steps, Drains (start source) steps
        ((start source).interleave worker entity around order)) ∧
      ∀ id, ((start source).interleave worker entity around order).windows id = none := by
  obtain ⟨steps, drains, others⟩ :=
    (Drains.refl : Drains (start source) [] _).interleave real place entity around order
  refine ⟨⟨steps, drains⟩, fun id => ?_⟩
  by_cases among : id ∈ order
  · exact Option.isNone_iff_eq_none.mp (List.all_eq_true.mp ended id among)
  · exact others id among

end Proceed

end System

end RecordSync.Run
