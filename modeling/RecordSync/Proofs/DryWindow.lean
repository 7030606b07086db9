import RecordSync.Proofs.Foresight
import RecordSync.Proofs.LastWord

/-! A window of a dry run beside one of a run. Record by record, the plans of the
one foresee the rows that the other writes, so their counts are the same. -/

namespace RecordSync.Run

open RecordSync.Calendar RecordSync.Change RecordSync.Feed RecordSync.Record RecordSync.Store
open Work

variable {σ α β γ δ : Type}

def Worker.dry (worker : Worker σ) (place : CursorPlace) : Worker σ :=
  { worker with cursors := place, options := { worker.options with dryRun := true } }

theorem Surroundings.Calm.dry {worker : Worker σ} {now : Instant} {calm : σ → Prop}
    (undisturbed : worker.surroundings.Calm now calm) (place : CursorPlace) :
    (worker.dry place).surroundings.Calm now calm := undisturbed

/-- The counts of a dry run are those of a run, but for what was stale. -/
def Tally.Foretells (foretold counted : Tally) : Prop :=
  { foretold with stale := counted.stale, dryRun := counted.dryRun } = counted

namespace Tally.Foretells

variable {foretold counted : Tally} {planned outcome : Outcome}

theorem record (agree : foretold.Foretells counted)
    (same : planned.withoutStale = outcome.withoutStale) :
    (foretold.record planned).Foretells (counted.record outcome) := by
  rw [← agree]
  cases planned <;> cases outcome <;> cases same <;> rfl

/-- What is foretold of a run and of a further window is foretold of both. -/
theorem absorb {later further : Tally} (agree : foretold.Foretells counted)
    (alike : later.Foretells further) :
    (foretold.absorb later).Foretells (counted.absorb further) := by
  rw [← agree, ← alike]
  rfl

end Tally.Foretells

/-- A dry run stops after a record where a run does. -/
theorem Options.stopAfter_foretold {options : Options} {sequence : Nat} {foretold counted : Tally}
    {planned outcome : Outcome} (agree : foretold.Foretells counted)
    (same : planned.withoutStale = outcome.withoutStale) :
    Options.stopAfter { options with dryRun := true } sequence foretold planned =
      options.stopAfter sequence counted outcome := by
  rw [← agree]
  cases planned <;> cases outcome <;> cases same <;> rfl

namespace Work

/-- Two parts of the work come to answers, which satisfy a condition together. -/
def Abreast (one : Work σ α) (first : Desk σ) (other : Work σ β) (second : Desk σ)
    (post : α → Desk σ → β → Desk σ → Prop) : Prop :=
  one.Answers first fun answer final => other.Answers second (post answer final)

variable {one : Work σ α} {other : Work σ β} {first second : Desk σ}
  {middle : α → Desk σ → β → Desk σ → Prop} {post : γ → Desk σ → δ → Desk σ → Prop}

theorem abreast_pure {value : α} {another : β} (holds : middle value first another second) :
    Abreast (pure value) first (pure another) second middle :=
  answers_pure value (answers_pure another holds)

theorem Abreast.congr {same : Work σ α} {alike : Work σ β}
    (ran : one.exec first = same.exec first) (alsoRan : other.exec second = alike.exec second)
    (both : same.Abreast first alike second middle) : one.Abreast first other second middle := by
  unfold Abreast Answers Ends
  rw [ran, alsoRan]
  exact both

/-- Answers are one way to end. -/
theorem Abreast.ends {ended : Except SyncFault α → Desk σ → Except SyncFault β → Desk σ → Prop}
    (both : one.Abreast first other second middle)
    (weaken : ∀ answer final another last, middle answer final another last →
      ended (.ok answer) final (.ok another) last) :
    one.Ends first fun result final => other.Ends second (ended result final) := by
  obtain ⟨answer, final, ran, answers⟩ := Answers.exec both
  obtain ⟨another, last, alsoRan, holds⟩ := answers.exec
  unfold Ends
  rw [ran, alsoRan]
  exact weaken answer final another last holds

/-- Both parts go on from where they answered. -/
theorem Abreast.bind {next : α → Work σ γ} {follow : β → Work σ δ}
    (both : one.Abreast first other second middle)
    (rest : ∀ answer final another last, middle answer final another last →
      (next answer).Abreast final (follow another) last post) :
    Abreast (one >>= next) first (other >>= follow) second post := by
  obtain ⟨answer, final, ran, answers⟩ := Answers.exec both
  obtain ⟨another, last, alsoRan, holds⟩ := answers.exec
  have both := rest answer final another last holds
  unfold Abreast Answers Ends at both ⊢
  rw [exec_bind_of_ok ran, exec_bind_of_ok alsoRan]
  exact both

/-- What each entry of a list keeps when it is taken in on both sides, the whole
list keeps. -/
theorem foldlM_abreast {ε : Type} {step : α → ε → Work σ α} {stride : β → ε → Work σ β}
    (invariant : List ε → α → Desk σ → β → Desk σ → Prop)
    (kept : ∀ entry rest state desk mate bench, invariant (entry :: rest) state desk mate bench →
      (step state entry).Abreast desk (stride mate entry) bench (invariant rest))
    (entries : List ε) {state : α} {mate : β} (holds : invariant entries state first mate second) :
    (entries.foldlM step state).Abreast first (entries.foldlM stride mate) second
      (invariant []) := by
  induction entries generalizing state mate first second with
  | nil => exact abreast_pure holds
  | cons entry rest ih =>
    rw [List.foldlM_cons, List.foldlM_cons]
    apply (kept entry rest state first mate second holds).bind
    intro state desk mate bench met
    exact ih met

end Work

/-- A dry run and a run over the same feed. The dry run has written nothing since
it began, and the store that it began with could be written. -/
structure Alongside (calm : σ → Prop) (begun dry real : Desk σ) : Prop where
  unwritten : begun.Reread dry
  quiet : calm dry.around
  feed : begun.SameFeed real
  calmly : calm real.around
  frozen : begun.store.Orderly
  orderly : real.store.Orderly

/-- What the dry run has planned foresees the rows that the run has written. Since
it was met, the run has left other entities alone, and it has an id for each
place behind the one that it reached. -/
structure Ahead (calm : σ → Prop) (place : CursorPlace) (entity : Entity) (begun met : Desk σ)
    (planned : Planned) (cursor reach : Nat) (dry real : Desk σ) : Prop
    extends Alongside calm begun dry real where
  foresees : planned.Foresees begun.store real.store entity
  ids : (real.store.rows.get entity).nextId + (begun.source.extent entity - reach) ≤
    RowTable.greatestId + 1
  there : real.cursor place entity = cursor
  others : ∀ other, other ≠ entity → real.store.rows.get other = met.store.rows.get other ∧
    real.cursor place other = met.cursor place other

/-- Both are in the middle of the same page. -/
structure Midst (calm : σ → Prop) (place : CursorPlace) (entity : Entity) (begun met : Desk σ)
    (cursor : Nat) (left : List Entry) (foretold : Progress) (dry : Desk σ) (counted : Progress)
    (real : Desk σ) : Prop
    extends Ahead calm place entity begun met foretold.planned cursor counted.through dry real where
  tally : foretold.tally.Foretells counted.tally
  through : foretold.through = counted.through
  stop : foretold.stop = counted.stop
  from_cursor : counted.tally.cursorBefore = cursor
  early : cursor ≤ counted.through
  late : counted.through ≤ max cursor (begun.source.extent entity)
  inside : ∀ entry ∈ left, entry ∈ begun.source.entries entity ∧ counted.through < entry.sequence
  sorted : left.Pairwise (·.sequence < ·.sequence)

namespace Midst

variable {calm : σ → Prop} {place : CursorPlace} {entity : Entity} {begun met dry real : Desk σ}
  {cursor : Nat} {entry : Entry} {left : List Entry} {foretold counted : Progress}

theorem within (midst : Midst calm place entity begun met cursor (entry :: left) foretold dry
    counted real) : (decode entry.delivery).Within entity :=
  decode_within_of_mem (midst.inside entry List.mem_cons_self).1

theorem notFull (midst : Midst calm place entity begun met cursor (entry :: left) foretold dry
    counted real) : (real.store.rows.get entity).isFull = false := by
  obtain ⟨member, behind⟩ := midst.inside entry List.mem_cons_self
  have bound := midst.ids
  have last := Source.le_extent_of_mem member
  simp only [RowTable.isFull, decide_eq_false_iff_not]
  omega

/-- Both take account of a record. -/
theorem noted {actor : String} {now : Instant} {planned outcome : Outcome} {next : Planned}
    {after final : Desk σ}
    (midst : Midst calm place entity begun met cursor (entry :: left) foretold dry counted real)
    (present : now.Kept)
    (applied : real.store.apply actor (decode entry.delivery) now = .ok (outcome, final.store))
    (same : planned.withoutStale = outcome.withoutStale)
    (foresees : next.Foresees begun.store final.store entity) (still : dry.Still calm after)
    (beside : real.SameBeside final) (calmly : calm final.around) (options : Options) :
    Midst calm place entity begun met cursor left
      { foretold.note { options with dryRun := true } entry.sequence (.terminal planned) with
        planned := next } after
      { counted.note options entry.sequence (.terminal outcome) with
        planned := counted.planned } final := by
  obtain ⟨member, behind⟩ := midst.inside entry List.mem_cons_self
  obtain ⟨first, sorted⟩ := List.pairwise_cons.mp midst.sorted
  have last := Source.le_extent_of_mem member
  have effect := apply_effect midst.orderly.keyed applied
  have cursors := beside.cursor (apply_cursors applied) place
  refine ⟨⟨⟨midst.unwritten.trans (still.1.reread midst.unwritten.sound), still.2,
    midst.feed.trans (.of_eq midst.feed.sound beside.source), calmly, midst.frozen,
    effect.orderly midst.orderly present midst.within⟩, foresees, ?ids,
    (cursors entity).trans midst.there, ?others⟩, midst.tally.record same, rfl,
    Options.stopAfter_foretold (midst.tally.record same) same, ?from_cursor, ?early, ?late, ?inside,
    sorted⟩
  case ids =>
    have used := effect.nextId_le midst.orderly.keyed entity
    have bound := midst.ids
    simp only [Progress.note]
    omega
  case others =>
    intro other different
    obtain ⟨rows, there⟩ := midst.others other different
    exact ⟨(effect.rows_other midst.within different).trans rows, (cursors other).trans there⟩
  case from_cursor =>
    rw [← midst.from_cursor]
    cases outcome <;> rfl
  case early =>
    have early := midst.early
    simp only [Progress.note]
    omega
  case late =>
    simp only [Progress.note]
    omega
  case inside =>
    intro other later
    exact ⟨(midst.inside other (List.mem_cons_of_mem _ later)).1, first other later⟩

end Midst

namespace Worker

variable {worker : Worker σ} {now : Instant} {calm : σ → Prop} {entity : Entity}
  {place : CursorPlace} {begun met dry real : Desk σ}

/-- A window of a dry run and one of a run open with the same page. -/
theorem openWindow_abreast (undisturbed : worker.surroundings.Calm now calm)
    (readable : begun.source.Readable entity) {cursor : Nat} {planned unplanned : Planned}
    {onward : Option Nat}
    (ahead : Ahead calm worker.cursors entity begun met planned cursor cursor dry real)
    (there : onward.getD (dry.cursor place entity) = cursor) :
    ((worker.dry place).openWindow entity onward planned).Abreast dry
      (worker.openWindow entity none unplanned) real fun foretold after counted final =>
        foretold.1 = counted.1 ∧ counted.1.next ≤ max cursor (begun.source.extent entity) ∧
          Midst calm worker.cursors entity begun met cursor counted.1.entries foretold.2 after
            counted.2 final := by
  have foreseen := openWindow_answers (undisturbed.dry place) ahead.quiet ahead.unwritten.sound
    ((ahead.unwritten.readable entity).mpr readable) onward planned
  have found := openWindow_answers undisturbed ahead.calmly ahead.feed.sound
    ((ahead.feed.readable entity).mpr readable) none unplanned
  apply foreseen.mono
  rintro ⟨page, foretold⟩ after ⟨rfl, unwritten, quiet, covers⟩
  apply found.mono
  rintro ⟨leaf, counted⟩ final ⟨rfl, reread, still, also⟩
  have from_there : Option.getD none (real.cursor worker.cursors entity) = cursor := ahead.there
  change page.Covers _ _ (onward.getD (dry.cursor place entity)) worker.options.window at covers
  rw [there, ahead.unwritten.entries, ahead.unwritten.extent] at covers
  rw [from_there, ahead.feed.entries, ahead.feed.extent] at also
  -- The feeds remember different marks, yet the position decides on the page.
  obtain rfl := covers.unique also
  refine ⟨rfl, covers.next_le_max fun _ => Source.le_extent_of_mem,
    ⟨⟨ahead.unwritten.trans unwritten, quiet, ahead.feed.trans reread.toSameFeed, still,
    ahead.frozen, ahead.orderly.congr (by rw [reread.store])⟩, ?foresees, ?ids,
    (reread.cursor _ _).trans ahead.there, ?others⟩, ?tally, ?through, rfl, from_there, ?early,
    ?late, ?inside, covers.pairwise (Source.entries_pairwise _ _)⟩
  case foresees =>
    rw [reread.store]
    exact ahead.foresees
  case ids =>
    rw [reread.store]
    simp only [opened, from_there]
    exact ahead.ids
  case others =>
    intro other different
    rw [reread.store, reread.cursor]
    exact ahead.others other different
  case tally =>
    simp only [opened, from_there]
    rw [show Option.getD onward (dry.cursor (worker.dry place).cursors entity) = cursor from there]
    rfl
  case through => exact there.trans from_there.symm
  case early => exact Nat.le_of_eq from_there.symm
  case late => exact Nat.le_trans (Nat.le_of_eq from_there) (Nat.le_max_left _ _)
  case inside =>
    intro entry member
    simp only [opened, from_there]
    exact covers.mem member

/-- What a window comes to is foretold once its records are. -/
theorem conclude_foretold (worker : Worker σ) (place : CursorPlace) (page : Page)
    {foretold counted : Progress}
    (tally : foretold.tally.Foretells counted.tally) (through : foretold.through = counted.through)
    (stop : foretold.stop = counted.stop) :
    ((worker.dry place).conclude page foretold).Foretells (worker.conclude page counted) := by
  unfold conclude
  rw [through, stop, ← tally]
  rfl

/-- A window gets no less far than its records, and no further than its page. -/
theorem conclude_bounds (worker : Worker σ) {page : Page} {progress : Progress} {bound : Nat}
    (through : progress.through ≤ bound) (next : page.next ≤ bound) :
    progress.through ≤ (worker.conclude page progress).cursorAfter ∧
      (worker.conclude page progress).cursorAfter ≤ bound := by
  simp only [conclude]
  constructor <;> split <;> omega

/-- The end of a window of a dry run changes nothing, that of a run only its cursor. -/
theorem settle_abreast (undisturbed : worker.surroundings.Calm now calm)
    (writes : worker.options.dryRun = false) (quiet : calm dry.around) (calmly : calm real.around)
    (foretold : Tally) {counted : Tally}
    (there : real.cursor worker.cursors entity = counted.cursorBefore)
    (onward : counted.cursorBefore ≤ counted.cursorAfter)
    (holds : counted.cursorBefore < counted.cursorAfter →
      worker.cursors.Holds counted.cursorAfter) :
    ((worker.dry place).settle entity foretold).Abreast dry (worker.settle entity counted) real
      fun _ after _ final => dry.Still calm after ∧ calm final.around ∧
        final.source = real.source ∧ final.store.rows = real.store.rows ∧
        final.cursor worker.cursors entity = counted.cursorAfter ∧ ∀ other, other ≠ entity →
          final.cursor worker.cursors other = real.cursor worker.cursors other := by
  apply (settle_dry_answers (undisturbed.dry place) quiet rfl foretold).mono
  intro _ after still
  apply (settle_real_answers undisturbed calmly writes there onward holds).mono
  intro _ final moved
  exact ⟨still, moved⟩

section

variable (undisturbed : worker.surroundings.Calm now calm) (present : now.Kept)
  (writes : worker.options.dryRun = false)
include undisturbed present writes

/-- A record is foretold and dealt with. -/
theorem step_abreast {cursor : Nat} {entry : Entry} {left : List Entry}
    {foretold counted : Progress}
    (midst : Midst calm worker.cursors entity begun met cursor (entry :: left) foretold dry counted
      real) :
    ((worker.dry place).step entity foretold entry).Abreast dry
      (worker.step entity counted entry) real
      (Midst calm worker.cursors entity begun met cursor left) := by
  cases stops : counted.stop with
  | some stop =>
    unfold step
    simp only [midst.stop, stops, Option.isSome_some, ↓reduceIte]
    exact abreast_pure { midst with
      inside := fun other later => midst.inside other (List.mem_cons_of_mem _ later)
      sorted := midst.sorted.of_cons }
  | none =>
    have within := midst.within
    -- The rows are orderly and an id is left, so the store cannot refuse the record.
    obtain ⟨outcome, store, applied⟩ :=
      midst.orderly.applies worker.actor now within midst.notFull
    have still : dry.store = begun.store := midst.unwritten.store
    have foreseen : foretold.planned.Foresees dry.store real.store entity := still ▸ midst.foresees
    obtain ⟨plan, next, same, foresees, plans⟩ := planOn_foresees (undisturbed.dry place)
      (still ▸ midst.frozen) foreseen midst.orderly.keyed within
      (apply_effect midst.orderly.keyed applied)
    apply (step_planned_answers (undisturbed.dry place) midst.quiet rfl (midst.stop.trans stops)
      plans).mono
    rintro _ after ⟨rfl, unmoved⟩
    apply (step_applied_answers undisturbed midst.calmly writes stops applied).mono
    rintro _ final ⟨rfl, rfl, beside, calmly⟩
    rw [still] at foresees
    exact midst.noted present applied same foresees unmoved beside calmly worker.options

/-- What remains of a window is foretold and gone through. -/
theorem finish_abreast (holds : worker.cursors.Holds (begun.source.extent entity)) {cursor : Nat}
    {page : Page} {foretold counted : Progress} (next : page.next ≤ max cursor (begun.source.extent entity))
    (midst : Midst calm worker.cursors entity begun met cursor page.entries foretold dry counted
      real) :
    ((worker.dry place).finish entity page foretold).Abreast dry
      (worker.finish entity page counted) real
      fun foretold after counted final => foretold.1.Foretells counted.1 ∧
        Ahead calm worker.cursors entity begun met foretold.2 counted.1.cursorAfter
          counted.1.cursorAfter after final := by
  have records : (page.entries.foldlM ((worker.dry place).step entity) foretold).Abreast dry
      (page.entries.foldlM (worker.step entity) counted) real
      (Midst calm worker.cursors entity begun met cursor []) := by
    apply foldlM_abreast (Midst calm worker.cursors entity begun met cursor)
    · intro entry rest foretold dry counted real midst
      exact step_abreast undisturbed present writes midst
    · exact midst
  unfold finish
  apply records.bind
  intro foretold dry counted real midst
  obtain ⟨further, bound⟩ := worker.conclude_bounds midst.late next
  have from_cursor : (worker.conclude page counted).cursorBefore = cursor := midst.from_cursor
  have early := midst.early
  apply (settle_abreast undisturbed writes midst.quiet midst.calmly
    ((worker.dry place).conclude page foretold) (midst.there.trans from_cursor.symm) (by omega)
    fun moving same => ?_).bind
  · rintro _ after _ final ⟨⟨alike, quiet⟩, still, source, rows, there, others⟩
    apply abreast_pure
    refine ⟨conclude_foretold worker place page midst.tally midst.through midst.stop,
      ⟨midst.unwritten.trans (alike.reread midst.unwritten.sound), quiet,
        midst.feed.trans (.of_eq midst.feed.sound source), still, midst.frozen,
        midst.orderly.congr rows⟩, ?_, ?_, there, ?_⟩
    · intro externalId
      rw [rows]
      exact midst.foresees externalId
    · have ids := midst.ids
      rw [rows]
      dsimp only
      omega
    · intro other different
      rw [rows, others other different]
      exact midst.others other different
  · have room := holds same
    omega

/-- A window is foretold and gone through. -/
theorem window_abreast (readable : begun.source.Readable entity)
    (holds : worker.cursors.Holds (begun.source.extent entity)) {cursor : Nat}
    {planned : Planned} (unplanned : Planned) (onward : Option Nat)
    (ahead : Ahead calm worker.cursors entity begun met planned cursor cursor dry real)
    (there : onward.getD (dry.cursor place entity) = cursor) :
    Abreast
      ((worker.dry place).windowOn entity onward planned) dry
      (worker.windowOn entity none unplanned) real
      fun foretold after counted final => foretold.1.Foretells counted.1 ∧
        Ahead calm worker.cursors entity begun met foretold.2 counted.1.cursorAfter
          counted.1.cursorAfter after final := by
  apply (openWindow_abreast undisturbed readable ahead there).bind
  rintro ⟨page, foretold⟩ after ⟨_, counted⟩ final ⟨rfl, next, midst⟩
  exact finish_abreast undisturbed present writes holds next midst

end

end Worker

end RecordSync.Run
