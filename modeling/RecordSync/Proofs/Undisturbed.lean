import RecordSync.Proofs.Calm
import RecordSync.Proofs.Passage

/-! Runs that nothing disturbs. Under options that no bad record stops, a worker
takes its feed to the end, and what it comes to is what becomes of the records
one after the other, however the feed is cut into windows. -/

namespace RecordSync.Run

open RecordSync.Calendar RecordSync.Change RecordSync.Feed RecordSync.Record RecordSync.Store
open Work

variable {σ : Type}

/-- Options under which no bad record stops a window. -/
structure Options.Tolerant (options : Options) : Prop where
  invalid : options.ignoreInvalid = true ∨ options.maxInvalid = none
  rejected : options.abortOnMappingError = false

theorem Options.Tolerant.stopAfter {options : Options} (tolerant : options.Tolerant)
    (sequence : Nat) (tally : Tally) (outcome : Outcome) :
    options.stopAfter sequence tally outcome = none := by
  obtain ⟨invalid, rejected⟩ := tolerant
  cases outcome with
  | invalid reason =>
    rcases invalid with ignored | unlimited
    · simp [Options.stopAfter, ignored]
    · simp [Options.stopAfter, unlimited]
  | rejected fault => simp [Options.stopAfter, rejected]
  | _ => rfl

theorem Options.one_le_window (options : Options) : 1 ≤ options.window := Nat.le_max_right _ _

/-- The plan for a change on top of earlier plans, against the rows of a store. -/
def Planned.over (planned : Planned) (store : Store) (change : Change) (now : Instant) :
    Except SyncFault (Plan × Planned) :=
  match change.target? with
  | none => .ok (plan change none now, planned)
  | some key =>
    (match planned.row? key with
      | some row => Except.ok row
      | none => store.read key.1 key.2).map fun current =>
        (plan change current now, planned.note key (plan change current now))

/-- Of a store, planning looks at the rows alone. -/
theorem Planned.over_congr {planned : Planned} {store other : Store}
    (same : store.SameRecords other) (change : Change) (now : Instant) :
    planned.over other change now = planned.over store change now := by
  unfold Planned.over Store.read
  rw [same.rows]

/-- What is planned is planned for some row, and noted unless it is about none. -/
theorem Planned.over_planned {planned next : Planned} {store : Store} {change : Change}
    {now : Instant} {result : Plan} (plans : planned.over store change now = .ok (result, next)) :
    ∃ current, result = plan change current now ∧
      (next = planned ∨ ∃ key, next = planned.note key result) := by
  unfold Planned.over at plans
  split at plans
  · cases plans
    exact ⟨none, rfl, .inl rfl⟩
  · rename_i key _
    obtain ⟨current, _, done⟩ := map_eq_ok_iff.mp plans
    cases done
    exact ⟨current, rfl, .inr ⟨key, rfl⟩⟩

/-- What a change comes to if nothing disturbs: a dry run takes it into its plans, any
other applies it. -/
def Worker.handle (worker : Worker σ) (now : Instant) (planned : Planned) (store : Store)
    (change : Change) : Except SyncFault (Outcome × Planned × Store) :=
  if worker.options.dryRun then
    (planned.over store change now).map fun (plan, planned) => (plan.outcome, planned, store)
  else
    (store.apply worker.actor change now).map fun (outcome, store) => (outcome, planned, store)

/-- What all records of a feed come to, one after the other. -/
def Worker.handleAll (worker : Worker σ) (now : Instant) (store : Store) (entries : List Entry) :
    Except SyncFault (Planned × Store) :=
  entries.foldlM (fun state entry =>
    (worker.handle now state.1 state.2 (decode entry.delivery)).map (·.2)) ([], store)

/-- Records that are handled one after the other, none of which meets a fault of the
store. Of a store, only its rows and its log matter. -/
inductive Worker.Handles (worker : Worker σ) (now : Instant) :
    Planned → Store → List (Entry × Outcome) → Planned → Store → Prop where
  | nil {planned : Planned} {store after : Store} (same : store.SameRecords after) :
      Handles worker now planned store [] planned after
  | cons {planned next final : Planned} {store between after : Store} {entry : Entry}
      {outcome : Outcome} {trail : List (Entry × Outcome)}
      (handled : worker.handle now planned store (decode entry.delivery) =
        .ok (outcome, next, between))
      (rest : Handles worker now next between trail final after) :
      Handles worker now planned store ((entry, outcome) :: trail) final after

namespace Tally

def recordAll (tally : Tally) (trail : List (Entry × Outcome)) : Tally :=
  trail.foldl (fun tally step => tally.record step.2) tally

/-- The counts of records alone, whatever windows they were taken in. -/
def bare (tally : Tally) : Tally :=
  { tally with
    batches := 0
    cursorBefore := 0
    cursorAfter := 0
    stop := .exhausted
    dryRun := false }

theorem bare_record (tally : Tally) (outcome : Outcome) :
    (tally.record outcome).bare = tally.bare.record outcome := by
  cases outcome <;> rfl

theorem bare_recordAll (tally : Tally) (trail : List (Entry × Outcome)) :
    (tally.recordAll trail).bare = tally.bare.recordAll trail := by
  induction trail generalizing tally with
  | nil => rfl
  | cons step trail ih =>
    exact (ih (tally.record step.2)).trans
      (congrArg (recordAll · trail) (tally.bare_record step.2))

theorem recordAll_frame (tally : Tally) (trail : List (Entry × Outcome)) :
    (tally.recordAll trail).cursorBefore = tally.cursorBefore ∧
      (tally.recordAll trail).dryRun = tally.dryRun ∧
      (tally.recordAll trail).quarantined = tally.quarantined := by
  induction trail generalizing tally with
  | nil => exact ⟨rfl, rfl, rfl⟩
  | cons step trail ih =>
    obtain ⟨before, dry, quarantined⟩ := ih (tally.record step.2)
    have frame : (tally.record step.2).cursorBefore = tally.cursorBefore ∧
        (tally.record step.2).dryRun = tally.dryRun ∧
        (tally.record step.2).quarantined = tally.quarantined := by
      cases step.2 <;> exact ⟨rfl, rfl, rfl⟩
    exact ⟨before.trans frame.1, dry.trans frame.2.1, quarantined.trans frame.2.2⟩

theorem absorb_record (tally later : Tally) (outcome : Outcome) :
    tally.absorb (later.record outcome) = (tally.absorb later).record outcome := by
  cases outcome <;> simp only [absorb, record, recordKind, Nat.add_assoc]

theorem absorb_recordAll (tally later : Tally) (trail : List (Entry × Outcome)) :
    tally.absorb (later.recordAll trail) = (tally.absorb later).recordAll trail := by
  induction trail generalizing later with
  | nil => rfl
  | cons step trail ih =>
    exact (ih (later.record step.2)).trans
      (congrArg (recordAll · trail) (tally.absorb_record later step.2))

/-- A window's records are counted after those before. -/
theorem bare_absorb {tally later : Tally} {entity : Entity} {trail : List (Entry × Outcome)}
    (counted : later.bare = (start entity 0).recordAll trail) :
    (tally.absorb later).bare = tally.bare.recordAll trail := by
  have joined : (tally.absorb later).bare = tally.bare.absorb later.bare := rfl
  rw [joined, counted, absorb_recordAll]
  rfl

end Tally

/-- There are no more entries than a run has windows at most. -/
theorem length_entries_le (source : Source) (entity : Entity) :
    (source.entries entity).length ≤ entryBound source entity := by
  cases source with
  | memory feed =>
    simp only [Source.entries, MemoryFeed.entries, numbered_eq_placed]
    exact length_placed_le _ _ _
  | lines feed =>
    have short := length_placed_le (LineFeed.delivered? entity) 1 (linesIn (feed.files.get entity))
    refine Nat.le_trans short ?_
    simp only [entryBound]
    cases feed.files.get entity with
    | bytes bytes => exact LineFeed.length_completeLines_le [] bytes
    | missing => exact Nat.le_refl 0
    | directory => exact Nat.le_refl 0

namespace Worker

variable {worker : Worker σ} {now : Instant} {calm : σ → Prop} {entity : Entity}
  {entry : Entry} {planned next final : Planned} {store between later other : Store}
  {trail front rest : List (Entry × Outcome)} {desk : Desk σ} {change : Change}
  {outcome : Outcome}

theorem handle_congr (same : store.SameRecords other)
    (handled : worker.handle now planned store change = .ok (outcome, next, between)) :
    ∃ after, worker.handle now planned other change = .ok (outcome, next, after) ∧
      between.SameRecords after := by
  unfold handle at handled ⊢
  split at handled
  · rename_i dry
    obtain ⟨⟨plan, next⟩, plans, done⟩ := map_eq_ok_iff.mp handled
    cases done
    exact ⟨other, by rw [if_pos dry, Planned.over_congr same, plans]; rfl, same⟩
  · rename_i real
    obtain ⟨⟨outcome, after⟩, applied, done⟩ := map_eq_ok_iff.mp handled
    cases done
    obtain ⟨final, appliedThere, sameAfter⟩ := apply_congr same applied
    exact ⟨final, by rw [if_neg real, appliedThere]; rfl, sameAfter⟩

namespace Handles

theorem congr (same : store.SameRecords other)
    (handles : worker.Handles now planned store trail final later) :
    worker.Handles now planned other trail final later := by
  induction handles generalizing other with
  | nil still => exact .nil (same.symm.trans still)
  | cons handled _ ih =>
    obtain ⟨_, handledThere, sameLater⟩ := handle_congr same handled
    exact .cons handledThere (ih sameLater)

/-- Records that can be handled leave a trail. -/
theorem of_handleAll {entries : List Entry}
    (handled : worker.handleAll now store entries = .ok (final, later)) :
    ∃ trail, trail.map (·.1) = entries ∧ worker.Handles now [] store trail final later := by
  unfold handleAll at handled
  generalize ([] : Planned) = planned at handled ⊢
  induction entries generalizing planned store with
  | nil =>
    cases handled
    exact ⟨[], rfl, .nil (.refl _)⟩
  | cons entry entries ih =>
    rw [List.foldlM_cons, bind_eq_ok_iff] at handled
    obtain ⟨_, first, others⟩ := handled
    obtain ⟨⟨outcome, next, between⟩, handled, rfl⟩ := map_eq_ok_iff.mp first
    obtain ⟨trail, same, rest⟩ := ih _ others
    exact ⟨(entry, outcome) :: trail, by rw [List.map_cons, same], .cons handled rest⟩

/-- A trail that is applied is handled, unless the run is dry. -/
theorem of_applied (real : worker.options.dryRun = false)
    (applied : Applied worker.actor (· = now) store trail later) (planned : Planned) :
    worker.Handles now planned store trail planned later := by
  induction applied with
  | nil same => exact .nil same
  | cons allowed applied _ ih =>
    subst allowed
    refine .cons ?_ ih
    unfold handle
    rw [if_neg (by simp [real]), applied]
    rfl

/-- What is handled in a row is handled in two parts. -/
theorem split (handles : worker.Handles now planned store (front ++ rest) final later) :
    ∃ next between, worker.Handles now planned store front next between ∧
      worker.Handles now next between rest final later := by
  induction front generalizing planned store with
  | nil => exact ⟨planned, store, .nil (.refl store), handles⟩
  | cons step front ih =>
    cases handles with
    | cons handled others =>
      obtain ⟨next, between, first, second⟩ := ih others
      exact ⟨next, between, .cons handled first, second⟩

end Handles

section
variable (undisturbed : worker.surroundings.Calm now calm) (quiet : calm desk.around)
include undisturbed quiet

theorem planOn_answers {plan : Plan}
    (plans : planned.over desk.store change now = .ok (plan, next)) :
    (worker.planOn planned change now).Answers desk fun answer after =>
      answer = (plan, next) ∧ desk.Still calm after := by
  unfold Planned.over at plans
  cases target : change.target? with
  | none =>
    simp only [target] at plans
    cases plans
    simp only [planOn, target]
    exact answers_pure _ ⟨rfl, .refl desk, quiet⟩
  | some key =>
    simp only [target] at plans
    obtain ⟨current, found, done⟩ := map_eq_ok_iff.mp plans
    cases done
    simp only [planOn, target]
    cases there : planned.row? key with
    | some row =>
      simp only [there] at found
      cases found
      simp only [pure_bind]
      exact answers_pure _ ⟨rfl, .refl desk, quiet⟩
    | none =>
      simp only [there] at found
      apply (readRow_answers undisturbed quiet found).bind
      rintro _ after ⟨rfl, still⟩
      exact answers_pure _ ⟨rfl, still⟩

/-- An undisturbed worker makes of a record what becomes of its change. -/
theorem dealWith_handles
    (handled : worker.handle now planned desk.store (decode entry.delivery) =
      .ok (outcome, next, between)) :
    (worker.dealWith entity planned entry).Answers desk fun answer after =>
      answer = (.terminal outcome, next) ∧ after.store = between ∧ desk.SameBeside after ∧
        calm after.around := by
  unfold handle at handled
  split at handled
  · rename_i dry
    obtain ⟨⟨plan, next⟩, plans, done⟩ := map_eq_ok_iff.mp handled
    cases done
    have plansLater (later : Desk σ) (still : desk.Still calm later) :
        (worker.planOn planned (decode entry.delivery) now).Answers later fun answer after =>
          answer = (plan, next) ∧ later.Still calm after := by
      rw [← still.1.store] at plans
      exact planOn_answers undisturbed still.2 plans
    apply (dealWith_dry_answers undisturbed quiet dry plansLater).mono
    rintro answer after ⟨same, alike, calmly⟩
    exact ⟨same, alike.store, alike.toSameBeside, calmly⟩
  · rename_i real
    obtain ⟨⟨outcome, after⟩, applied, done⟩ := map_eq_ok_iff.mp handled
    cases done
    exact dealWith_answers undisturbed quiet (by simpa using real) planned applied

theorem step_handles {progress : Progress} (going : progress.stop = none)
    (handled : worker.handle now progress.planned desk.store (decode entry.delivery) =
      .ok (outcome, next, between)) :
    (worker.step entity progress entry).Answers desk fun last after =>
      last = { progress.note worker.options entry.sequence (.terminal outcome) with
        planned := next } ∧
      after.store = between ∧ desk.SameBeside after ∧ calm after.around := by
  apply step_answers undisturbed quiet going
  intro asked still
  rw [← still.1.store] at handled
  apply (dealWith_handles undisturbed still.2 handled).mono
  rintro answer after ⟨same, stored, beside, calmly⟩
  exact ⟨same, stored, still.1.toSameBeside.trans beside, calmly⟩

end

theorem handle_cursors
    (handled : worker.handle now planned store change = .ok (outcome, next, between)) :
    between.cursors = store.cursors := by
  unfold handle at handled
  split at handled
  · obtain ⟨_, _, done⟩ := map_eq_ok_iff.mp handled
    cases done
    rfl
  · obtain ⟨⟨outcome, after⟩, applied, done⟩ := map_eq_ok_iff.mp handled
    cases done
    exact apply_cursors applied

/-- A tolerant worker deals with all records of a trail. -/
theorem Handles.foldlM_step (handles : worker.Handles now planned store trail final later)
    (undisturbed : worker.surroundings.Calm now calm) (tolerant : worker.options.Tolerant)
    (entity : Entity) (progress : Progress) (going : progress.stop = none)
    (plans : progress.planned = planned) (there : desk.store = store) (quiet : calm desk.around) :
    ((trail.map (·.1)).foldlM (worker.step entity) progress).Answers desk fun last after =>
      last = { progress with
        tally := progress.tally.recordAll trail
        through := lastPlace progress.through (trail.map (·.1))
        planned := final } ∧
      later.SameRecords after.store ∧ desk.SameBeside after ∧
        after.store.cursors = desk.store.cursors ∧ calm after.around := by
  induction handles generalizing progress desk with
  | nil same =>
    subst there plans
    exact answers_pure _ ⟨rfl, same.symm, .refl desk, rfl, quiet⟩
  | @cons _ next _ _ between _ entry outcome trail handled _ ih =>
    subst there plans
    rw [List.map_cons, List.foldlM_cons]
    apply (step_handles undisturbed quiet going handled).bind
    rintro _ after ⟨rfl, stored, beside, calmly⟩
    apply (ih _ (tolerant.stopAfter _ _ outcome) rfl stored calmly).mono
    rintro _ last ⟨rfl, records, besideAgain, cursors, still⟩
    refine ⟨?_, records, beside.trans besideAgain, ?_, still⟩
    · simp only [Progress.note, tolerant.stopAfter, going, lastPlace_cons]
      rfl
    · rw [cursors, stored, handle_cursors handled]

/-- The end of a window leaves the cursor of a run where it belongs. -/
theorem settle_answers_between (undisturbed : worker.surroundings.Calm now calm)
    (quiet : calm desk.around) {tally : Tally}
    (there : worker.options.dryRun = false →
      desk.cursor worker.cursors entity = tally.cursorBefore)
    (onward : tally.cursorBefore ≤ tally.cursorAfter)
    (holds : worker.options.dryRun = false → tally.cursorBefore < tally.cursorAfter →
      worker.cursors.Holds tally.cursorAfter) :
    (worker.settle entity tally).Answers desk fun _ after => calm after.around ∧
      after.source = desk.source ∧ desk.store.SameRecords after.store ∧
        (worker.options.dryRun = false →
          after.cursor worker.cursors entity = tally.cursorAfter) := by
  cases dry : worker.options.dryRun with
  | true =>
    apply (settle_dry_answers undisturbed quiet dry tally).mono
    rintro _ after ⟨alike, calmly⟩
    exact ⟨calmly, alike.source, alike.store ▸ .refl _, nofun⟩
  | false =>
    have settled := settle_real_answers undisturbed quiet dry (there dry) onward (holds dry)
    apply (settled.and_ends (worker.settle_frame entity tally desk)).mono
    rintro _ after ⟨⟨calmly, source, _, cursor, _⟩, _, records, _⟩
    exact ⟨calmly, source, records, fun _ => cursor⟩

/-- A run between two windows, with the records that are still ahead: all of them can
be handled, and a cursor that is kept stands where the next window belongs. -/
structure Underway (worker : Worker σ) (now : Instant) (calm : σ → Prop) (entity : Entity)
    (start : Desk σ) (final : Planned) (later : Store) (position : Nat) (planned : Planned)
    (rest : List (Entry × Outcome)) (desk : Desk σ) : Prop extends start.SameFeed desk where
  calmly : calm desk.around
  onward : start.cursor worker.cursors entity ≤ position
  cursor : worker.options.dryRun = false → desk.cursor worker.cursors entity = position
  ahead : (start.source.entries entity).filter (position < ·.sequence) = rest.map (·.1)
  handles : worker.Handles now planned desk.store rest final later

/-- A run that came to the end of its feed, once it handled the records of a trail. -/
structure Drained (worker : Worker σ) (entity : Entity) (start : Desk σ) (later : Store)
    (trail : List (Entry × Outcome)) (cursor : Nat) (tally : Tally) (after : Desk σ) : Prop where
  counts : tally.bare = (Tally.start entity 0).recordAll trail
  cursorBefore : tally.cursorBefore = cursor
  dryRun : tally.dryRun = worker.options.dryRun
  stop : tally.stop = .exhausted
  arrived : start.source.extent entity ≤ tally.cursorAfter
  records : later.SameRecords after.store

theorem Underway.ended {start : Desk σ} {total : Tally} {cursor : Nat}
    {done : List (Entry × Outcome)}
    (underway : worker.Underway now calm entity start final later total.cursorAfter planned []
      desk)
    (counts : total.bare = (Tally.start entity 0).recordAll done)
    (from_cursor : total.cursorBefore = cursor) (dry : total.dryRun = worker.options.dryRun)
    (stop : total.stop = .exhausted) (arrived : start.source.extent entity ≤ total.cursorAfter) :
    worker.Drained entity start later done cursor total desk := by
  have handles := underway.handles
  cases handles with
  | nil same => exact ⟨counts, from_cursor, dry, stop, arrived, same.symm⟩

section
variable (undisturbed : worker.surroundings.Calm now calm) (tolerant : worker.options.Tolerant)
  {start : Desk σ} (readable : start.source.Readable entity)
  (holds : worker.options.dryRun = false →
    start.cursor worker.cursors entity < start.source.extent entity →
    worker.cursors.Holds (start.source.extent entity))
include undisturbed tolerant readable holds

/-- A window takes up the records that are next. It is full, or it is the last. -/
theorem window_handles {position : Nat} {onward : Option Nat}
    (underway : worker.Underway now calm entity start final later position planned trail desk)
    (there : onward.getD (desk.cursor worker.cursors entity) = position) :
    (worker.windowOn entity onward planned).Answers desk fun window after =>
        ∃ front rest, trail = front ++ rest ∧
          worker.Underway now calm entity start final later window.1.cursorAfter window.2 rest
            after ∧
          window.1.bare = (Tally.start entity 0).recordAll front ∧
          window.1.cursorBefore = position ∧ window.1.dryRun = worker.options.dryRun ∧
          (window.1.stop = .windowFull ∧ front.length = worker.options.window ∨
            window.1.stop = .exhausted ∧ rest = [] ∧
              window.1.cursorAfter = max position (start.source.extent entity)) := by
  have opens := openWindow_answers undisturbed underway.calmly underway.sound
    ((underway.readable entity).mpr readable) onward planned
  apply opens.bind
  rintro ⟨page, progress⟩ fetched ⟨opened, reread, still, covers⟩
  simp only [there, underway.entries, underway.extent] at opened covers
  subst opened
  have sorted := start.source.entries_pairwise entity
  have bounded : ∀ entry ∈ start.source.entries entity,
      entry.sequence ≤ start.source.extent entity := fun _ => Source.le_extent_of_mem
  obtain ⟨remaining, whole, inside, beyond⟩ := covers.split sorted bounded
  obtain ⟨front, rest, rfl, shape, left⟩ :=
    List.map_eq_append_iff.mp (underway.ahead.symm.trans whole)
  obtain ⟨next, between, first, second⟩ := underway.handles.split
  have folded := first.foldlM_step undisturbed tolerant entity
    (worker.opened entity position planned) rfl rfl reread.store still
  rw [shape] at folded
  obtain ⟨before, dry, _⟩ :=
    (worker.opened entity position planned).tally.recordAll_frame front
  have further : position ≤ page.next := covers.position_le_next
  unfold finish
  apply folded.bind
  rintro _ attended ⟨rfl, records, beside, cursors, calmly⟩
  rw [conclude_going rfl (lastPlace_le further inside)]
  apply (settle_answers_between undisturbed calmly ?there ?onward ?holds).bind
  case there =>
    intro real
    rw [beside.cursor cursors, reread.cursor, underway.cursor real]
    exact before.symm
  case onward => exact before ▸ further
  case holds =>
    intro real moving same
    have bound := covers.next_le_max bounded
    have start := underway.onward
    dsimp only at moving ⊢
    rw [before] at moving
    change position < page.next at moving
    have room := holds real (by omega) same
    omega
  rintro _ after ⟨calmly, source, settled, cursor⟩
  refine answers_pure _ ⟨front, rest, rfl,
    ⟨?feed, calmly, Nat.le_trans underway.onward further, cursor, ?ahead, ?handles⟩, ?bare, before,
    dry, ?stop⟩
  case feed =>
    exact (underway.toSameFeed.trans reread.toSameFeed).trans
      (.of_eq reread.sound (source.trans beside.source))
  case ahead => exact (filter_eq_of_split further whole inside beyond).trans left.symm
  case handles => exact second.congr (records.trans settled)
  case bare =>
    exact (worker.opened entity position planned).tally.bare_recordAll front
  case stop =>
    rcases covers.full_or_all with full | ⟨short, all⟩
    · refine .inl ⟨if_neg (Nat.not_lt.mpr (Nat.le_of_eq full.symm)), ?_⟩
      rw [← full, ← shape, List.length_map]
    · refine .inr ⟨if_pos short, ?_, covers.next_of_short short⟩
      rw [← all] at whole
      have nothing : remaining = [] := List.self_eq_append_right.mp whole
      exact List.map_eq_nil_iff.mp (left.trans nothing)

/-- The later windows of a run. -/
theorem drainOn_handles (fuel : Nat) {total : Tally} {cursor : Nat}
    {done : List (Entry × Outcome)}
    (underway : worker.Underway now calm entity start final later total.cursorAfter planned trail
      desk)
    (counts : total.bare = (Tally.start entity 0).recordAll done)
    (from_cursor : total.cursorBefore = cursor) (dry : total.dryRun = worker.options.dryRun)
    (goes : total.stop = .windowFull ∧ trail.length < fuel ∨ total.stop = .exhausted ∧
      trail = [] ∧ start.source.extent entity ≤ total.cursorAfter) :
    (worker.drainOn entity none fuel total planned).Answers desk
      (worker.Drained entity start later (done ++ trail) cursor) := by
  induction fuel generalizing total planned trail desk done with
  | zero =>
    rcases goes with ⟨_, impossible⟩ | ⟨stop, rfl, arrived⟩
    · cases impossible
    · rw [List.append_nil]
      exact answers_pure _ (underway.ended counts from_cursor dry stop arrived)
  | succ fuel ih =>
    rw [drainOn_succ]
    rcases goes with ⟨full, more⟩ | ⟨stop, rfl, arrived⟩
    · rw [if_pos (by simp [goesOn, full])]
      have there : (worker.onward total.cursorAfter).getD (desk.cursor worker.cursors entity) =
          total.cursorAfter := by
        unfold onward
        split
        · rfl
        · rename_i real
          exact underway.cursor (by simpa using real)
      apply (window_handles undisturbed tolerant readable holds underway there).bind
      rintro ⟨batch, planned⟩ after
        ⟨front, rest, rfl, underway, bare, before, _, stops⟩
      rw [← List.append_assoc]
      refine ih underway ?_ from_cursor dry ?_
      · rw [Tally.bare_absorb bare, counts]
        simp [Tally.recordAll]
      · rcases stops with ⟨stop, filled⟩ | ⟨stop, last, arrived⟩
        · refine .inl ⟨stop, ?_⟩
          have some := worker.options.one_le_window
          rw [List.length_append] at more
          omega
        · refine .inr ⟨stop, last, ?_⟩
          show start.source.extent entity ≤ batch.cursorAfter
          dsimp only at arrived
          omega
    · rw [if_neg (by simp [goesOn, stop]), List.append_nil]
      exact answers_pure _ (underway.ended counts from_cursor dry stop arrived)

/-- A run that nothing disturbs comes to the end of its feed, and handles all that is
behind its cursor. -/
theorem runUntilIdle_handles
    (underway : worker.Underway now calm entity start final later
      (start.cursor worker.cursors entity) [] trail start) :
    (worker.runUntilIdle entity none).Answers start
      (worker.Drained entity start later trail (start.cursor worker.cursors entity)) := by
  refine Ends.congr ?_ (worker.exec_runUntilIdle entity none start)
  apply Answers.bind (window_handles undisturbed tolerant readable holds underway rfl)
  rintro ⟨first, planned⟩ after ⟨front, rest, rfl, further, bare, before, dry, stops⟩
  refine drainOn_handles undisturbed tolerant readable holds _ further bare before dry ?_
  rcases stops with ⟨stop, filled⟩ | ⟨stop, last, arrived⟩
  · refine .inl ⟨stop, ?_⟩
    have some := worker.options.one_le_window
    have few := List.length_filter_le (start.cursor worker.cursors entity < ·.sequence)
      (start.source.entries entity)
    have bound := length_entries_le start.source entity
    rw [underway.ahead, List.length_map, List.length_append] at few
    omega
  · refine .inr ⟨stop, last, ?_⟩
    dsimp only at arrived
    omega

end

end Worker

end RecordSync.Run
