import Mathlib.Data.List.Forall2
import RecordSync.Proofs.DryWindow

/-! Dry runs: what they count is what the run would count in their stead, except
for what is stale, and they write nothing. -/

namespace RecordSync.Run

open RecordSync.Calendar RecordSync.Change RecordSync.Feed RecordSync.Record RecordSync.Store
open Work

variable {σ α β : Type}

namespace Worker

variable {worker : Worker σ} {now : Instant} {calm : σ → Prop} {entity : Entity}
  {place : CursorPlace} {begun met dry real : Desk σ}

section

variable (undisturbed : worker.surroundings.Calm now calm) (present : now.Kept)
  (writes : worker.options.dryRun = false) (readable : begun.source.Readable entity)
  (holds : worker.cursors.Holds (begun.source.extent entity))
include undisturbed present writes readable holds

/-- The later windows of a run are foretold and gone through. -/
theorem drainOn_abreast (maxBatches : Option Nat) (fuel : Nat) {foretold counted : Tally}
    {planned unplanned : Planned} (agree : foretold.Foretells counted)
    (ahead : Ahead calm worker.cursors entity begun met planned counted.cursorAfter
      counted.cursorAfter dry real) :
    ((worker.dry place).drainOn entity maxBatches fuel foretold planned).Abreast dry
      (worker.drainOn entity maxBatches fuel counted unplanned) real
      fun foretold after counted final => foretold.Foretells counted ∧ ∃ planned,
        Ahead calm worker.cursors entity begun met planned counted.cursorAfter counted.cursorAfter
          after final := by
  -- What is planned in all windows so far is carried along, so each window is ahead.
  induction fuel generalizing foretold counted planned unplanned dry real with
  | zero => exact abreast_pure ⟨agree, planned, ahead⟩
  | succ fuel ih =>
    have goes : goesOn maxBatches foretold = goesOn maxBatches counted := by
      rw [← agree]
      rfl
    have reached : foretold.cursorAfter = counted.cursorAfter := by rw [← agree]
    have from_there : (worker.dry place).onward foretold.cursorAfter = some counted.cursorAfter :=
      congrArg some reached
    have from_cursor : worker.onward counted.cursorAfter = none := by simp [onward, writes]
    rw [drainOn_succ, drainOn_succ, goes, from_there, from_cursor]
    split
    · apply (window_abreast undisturbed present writes readable holds _ _ ahead rfl).bind
      intro foretold after counted final window
      exact ih (agree.absorb window.1) window.2
    · exact abreast_pure ⟨agree, planned, ahead⟩

/-- A run is foretold and made. -/
theorem runUntilIdle_abreast (maxBatches : Option Nat) {cursor : Nat}
    (ahead : Ahead calm worker.cursors entity begun met [] cursor cursor dry real)
    (there : dry.cursor place entity = cursor) :
    ((worker.dry place).runUntilIdle entity maxBatches).Abreast dry
      (worker.runUntilIdle entity maxBatches) real
      fun foretold after counted final => foretold.Foretells counted ∧ ∃ planned,
        Ahead calm worker.cursors entity begun met planned counted.cursorAfter counted.cursorAfter
          after final := by
  have bound : entryBound dry.source entity = entryBound real.source entity := by
    obtain ⟨_, remembered⟩ := ahead.unwritten.marks
    obtain ⟨_, same⟩ := ahead.feed.marks
    rw [remembered, same]
    cases begun.source <;> rfl
  apply Abreast.congr ((worker.dry place).exec_runUntilIdle entity maxBatches dry)
    (worker.exec_runUntilIdle entity maxBatches real)
  rw [bound]
  apply (window_abreast undisturbed present writes readable holds [] none ahead there).bind
  intro foretold after counted final window
  exact drainOn_abreast undisturbed present writes readable holds maxBatches _ window.1 window.2

end

/-- A feed that cannot be read fails a run at once, and in one way. -/
theorem runUntilIdle_unreadable (undisturbed : worker.surroundings.Calm now calm)
    {fault : SyncFault}
    (refused : ∀ position most, dry.source.fetch entity position most = .error fault)
    (quiet : calm dry.around) (maxBatches : Option Nat) :
    (worker.runUntilIdle entity maxBatches).Ends dry fun result after =>
      result = .error fault ∧ dry.Alike after := by
  unfold runUntilIdle
  apply (loadCursor_answers undisturbed quiet).bind_ends
  intro cursor found loaded
  have fetched : (worker.fetch entity cursor).Ends found fun result after =>
      result = .error fault ∧ dry.Alike after := by
    unfold fetch
    apply (meet_answers undisturbed loaded.2.2 _).bind_ends
    intro _ met still
    apply Ends.of_get
    rw [still.1.source, loaded.2.1.source, refused]
    exact ends_throw _ ⟨rfl, loaded.2.1.trans still.1⟩
  unfold drainFrom windowFrom
  apply Ends.of_get
  rw [bind_assoc]
  apply fetched.bind
  · intro met after failed
    exact ⟨by cases failed.1; rfl, failed.2⟩
  · intro page after impossible
    cases impossible.1

end Worker

/-- Neither ids nor positions run out, so no write fails for want of room. -/
structure Desk.Spacious (desk : Desk σ) : Prop where
  ids : ∀ entity, (desk.store.rows.get entity).nextId + desk.source.extent entity ≤
    RowTable.greatestId + 1
  positions : ∀ entity, desk.source.extent entity ≤ Store.greatestPosition

/-- A dry run and a run are about to take the same entities up, with the same rows
and equal cursors. -/
structure Poised (calm : σ → Prop) (place keeper : CursorPlace) (entities : List Entity)
    (begun dry real : Desk σ) : Prop extends Alongside calm begun dry real where
  rows : ∀ entity ∈ entities, real.store.rows.get entity = begun.store.rows.get entity
  cursors : ∀ entity ∈ entities, begun.cursor place entity = real.cursor keeper entity

/-- What was foretold comes about: the same fault, or answers that agree. -/
def Foretold (agree : α → β → Prop) : Except SyncFault α → Except SyncFault β → Prop
  | .ok foretold, .ok counted => agree foretold counted
  | .error foretold, .error fault => foretold = fault
  | _, _ => False

theorem Foretold.cons {relation : α → β → Prop} {foretold : α} {counted : β}
    {later : Except SyncFault (List α)} {further : Except SyncFault (List β)}
    (rest : Foretold (List.Forall₂ relation) later further) (agree : relation foretold counted) :
    Foretold (List.Forall₂ relation) (later.map (foretold :: ·)) (further.map (counted :: ·)) := by
  cases later with
  | error fault =>
    cases further with
    | error met => exact rest
    | ok counts => exact rest.elim
  | ok foretells =>
    cases further with
    | error met => exact rest.elim
    | ok counts => exact List.Forall₂.cons agree rest

namespace Worker

variable {worker : Worker σ} {entity : Entity} {rest : List Entity} {maxBatches : Option Nat}
  {desk after : Desk σ}

theorem exec_drainAll_of_ok {tally : Tally}
    (ran : (worker.runUntilIdle entity maxBatches).exec desk = (.ok tally, after)) :
    (worker.drainAll (entity :: rest) maxBatches).exec desk =
      (((worker.drainAll rest maxBatches).exec after).1.map (tally :: ·),
        ((worker.drainAll rest maxBatches).exec after).2) := by
  unfold drainAll
  rw [List.mapM_cons, exec_bind_of_ok ran, exec_bind]
  rcases exec (rest.mapM (worker.runUntilIdle · maxBatches)) after with ⟨_ | _, _⟩ <;> rfl

theorem exec_drainAll_of_error {fault : SyncFault}
    (ran : (worker.runUntilIdle entity maxBatches).exec desk = (.error fault, after)) :
    (worker.drainAll (entity :: rest) maxBatches).exec desk = (.error fault, after) := by
  unfold drainAll
  rw [List.mapM_cons, exec_bind_of_error ran]

end Worker

namespace Poised

variable {worker : Worker σ} {now : Instant} {calm : σ → Prop} {place : CursorPlace}
  {entity : Entity} {entities : List Entity} {begun dry real : Desk σ}

section

variable (undisturbed : worker.surroundings.Calm now calm) (present : now.Kept)
  (writes : worker.options.dryRun = false) (spacious : begun.Spacious)
include undisturbed present writes spacious

/-- The first of the entities is taken up. -/
theorem runUntilIdle (maxBatches : Option Nat) (once : entity ∉ entities)
    (poised : Poised calm place worker.cursors (entity :: entities) begun dry real) :
    ((worker.dry place).runUntilIdle entity maxBatches).Ends dry fun foretold after =>
      (worker.runUntilIdle entity maxBatches).Ends real fun counted final =>
        Foretold Tally.Foretells foretold counted ∧ begun.Reread after ∧
          (foretold.isOk = true ↔ begun.source.Readable entity) ∧
          (foretold.isOk = true → Poised calm place worker.cursors entities begun after final) := by
  by_cases readable : begun.source.Readable entity
  · have rows := poised.rows entity List.mem_cons_self
    have ahead : Ahead calm worker.cursors entity begun real [] (real.cursor worker.cursors entity)
        (real.cursor worker.cursors entity) dry real := by
      refine ⟨poised.toAlongside, Planned.foresees_nil rows, ?_, rfl, fun _ _ => ⟨rfl, rfl⟩⟩
      have ids := spacious.ids entity
      rw [rows]
      omega
    have there : dry.cursor place entity = real.cursor worker.cursors entity :=
      (poised.unwritten.cursor _ _).trans (poised.cursors entity List.mem_cons_self)
    apply (Worker.runUntilIdle_abreast undisturbed present writes readable
      (fun _ => spacious.positions entity) maxBatches ahead there).ends
    rintro foretold after counted final ⟨agree, planned, ahead⟩
    refine ⟨agree, ahead.unwritten, iff_of_true rfl readable, fun _ => ⟨ahead.toAlongside, ?_, ?_⟩⟩
    · intro other later
      have different : other ≠ entity := fun same => once (same ▸ later)
      exact (ahead.others other different).1.trans
        (poised.rows other (List.mem_cons_of_mem _ later))
    · intro other later
      have different : other ≠ entity := fun same => once (same ▸ later)
      rw [(ahead.others other different).2]
      exact poised.cursors other (List.mem_cons_of_mem _ later)
  · obtain ⟨fault, refused⟩ := Source.fetch_of_not_readable readable
    have refuses {desk : Desk σ} (feed : begun.SameFeed desk) (position most : Nat) :
        desk.source.fetch entity position most = .error fault := by
      obtain ⟨marks, same⟩ := feed.marks
      rw [same]
      exact refused marks position most
    apply (Worker.runUntilIdle_unreadable (undisturbed.dry place)
      (refuses poised.unwritten.toSameFeed) poised.quiet maxBatches).mono
    rintro foretold after ⟨rfl, alike⟩
    apply (Worker.runUntilIdle_unreadable undisturbed (refuses poised.feed) poised.calmly
      maxBatches).mono
    rintro counted final ⟨rfl, _⟩
    exact ⟨rfl, poised.unwritten.trans (alike.reread poised.unwritten.sound),
      iff_of_false nofun readable, nofun⟩

/-- All of the entities are taken up. -/
theorem drainAll (maxBatches : Option Nat) (distinct : entities.Nodup)
    (poised : Poised calm place worker.cursors entities begun dry real) :
    ((worker.dry place).drainAll entities maxBatches).Ends dry fun foretold after =>
      (worker.drainAll entities maxBatches).Ends real fun counted _ =>
        Foretold (List.Forall₂ Tally.Foretells) foretold counted ∧ begun.Reread after ∧
          (foretold.isOk = true ↔ ∀ entity ∈ entities, begun.source.Readable entity) := by
  induction entities generalizing dry real with
  | nil => exact ⟨.nil, poised.unwritten, iff_of_true rfl nofun⟩
  | cons entity rest ih =>
    obtain ⟨once, distinct⟩ := List.nodup_cons.mp distinct
    have first := poised.runUntilIdle undisturbed present writes spacious maxBatches once
    rcases ran : ((worker.dry place).runUntilIdle entity maxBatches).exec dry with ⟨foretold, after⟩
    rcases alsoRan : (worker.runUntilIdle entity maxBatches).exec real with ⟨counted, final⟩
    obtain ⟨agree, unwritten, readable, onward⟩ := (first.of_exec ran).of_exec alsoRan
    rw [List.forall_mem_cons, ← readable]
    unfold Ends
    cases foretold with
    | error fault =>
      cases counted with
      | error met =>
        rw [Worker.exec_drainAll_of_error ran, Worker.exec_drainAll_of_error alsoRan]
        exact ⟨agree, unwritten, iff_of_false nofun fun all => nomatch all.1⟩
      | ok tally => exact agree.elim
    | ok tally =>
      cases counted with
      | error met => exact agree.elim
      | ok total =>
        rw [Worker.exec_drainAll_of_ok ran, Worker.exec_drainAll_of_ok alsoRan]
        obtain ⟨later, unwritten, others⟩ := ih distinct (onward rfl)
        refine ⟨later.cons agree, unwritten, ?_⟩
        rw [← others]
        rcases ((worker.dry place).drainAll rest maxBatches).exec after with ⟨_ | _, _⟩ <;>
          simp [Except.map, Except.isOk, Except.toBool]

end

end Poised

/-- Puts cursors back to the start and drains the feeds from there. -/
def Worker.drainFromStart (worker : Worker σ) (entities : List Entity)
    (maxBatches : Option Nat) : Work σ (List Tally) := do
  let _ ← entities.mapM worker.resetCursor
  worker.drainAll entities maxBatches

namespace Worker

variable {worker : Worker σ} {now : Instant} {calm : σ → Prop} {entity : Entity} {desk : Desk σ}

theorem resetCursor_answers (undisturbed : worker.surroundings.Calm now calm)
    (quiet : calm desk.around) :
    (worker.resetCursor entity).Answers desk fun _ after =>
      calm after.around ∧ worker.Rewound entity desk after := by
  have calmly : (worker.resetCursor entity).Ends desk fun _ after => calm after.around := by
    unfold resetCursor
    apply Ends.of_get
    cases worker.cursors with
    | memory => exact quiet
    | store => exact (undisturbed.clock _ quiet).2
  obtain ⟨same, rewound⟩ := worker.resetCursor_ends entity desk
  exact ⟨_, same, calmly, rewound⟩

/-- Several cursors are put back to the start. -/
theorem resetCursors_answers (undisturbed : worker.surroundings.Calm now calm)
    (quiet : calm desk.around) (entities : List Entity) :
    (entities.mapM worker.resetCursor).Answers desk fun _ after =>
      calm after.around ∧ after.source = desk.source ∧ after.store.rows = desk.store.rows ∧
        ∀ entity, entity ∈ entities ∨ desk.cursor worker.cursors entity = 0 →
          after.cursor worker.cursors entity = 0 := by
  induction entities generalizing desk with
  | nil =>
    refine answers_pure _ ⟨quiet, rfl, rfl, ?_⟩
    rintro entity (impossible | there)
    · cases impossible
    · exact there
  | cons first rest ih =>
    rw [List.mapM_cons]
    apply (resetCursor_answers undisturbed quiet).bind
    rintro _ between ⟨calmly, rewound⟩
    apply (ih calmly).bind
    rintro _ after ⟨still, source, rows, cursors⟩
    refine answers_pure _ ⟨still, source.trans rewound.source, rows.trans rewound.rows, ?_⟩
    intro entity there
    by_cases same : entity = first
    · exact cursors entity (.inr (same ▸ rewound.at_start))
    · refine cursors entity (there.imp (fun member => ?_) fun there => ?_)
      · exact (List.mem_cons.mp member).resolve_left same
      · rw [rewound.others _ _ (.inr same), there]

end Worker

/-- A dry run foretells the run that would be made in its stead, and so does one
with cursors in memory the run that puts its cursors back to the start first.
They come to counts unless a feed cannot be read, and neither writes anything. -/
theorem Worker.dry_run_foretells {worker : Worker σ} {now : Instant} {calm : σ → Prop}
    {desk : Desk σ} (undisturbed : worker.surroundings.Calm now calm) (quiet : calm desk.around)
    (present : now.Kept) (writes : worker.options.dryRun = false) (reached : desk.store.Reached)
    (sound : desk.source.Sound) (spacious : desk.Spacious) (maxBatches : Option Nat) :
    (∀ entity, ∃ foretold preview counted final,
      ((worker.dry worker.cursors).runUntilIdle entity maxBatches).exec desk = (foretold, preview) ∧
      (worker.runUntilIdle entity maxBatches).exec desk = (counted, final) ∧
      Foretold Tally.Foretells foretold counted ∧
      (foretold.isOk = true ↔ desk.source.Readable entity) ∧
      preview.store = desk.store ∧ preview.memory = desk.memory) ∧
    (∀ entities : List Entity, entities.Nodup → ∃ foretold preview counted final,
      ((worker.dry .memory).drainAll entities maxBatches).exec { desk with memory := .start } =
        (foretold, preview) ∧
      (worker.drainFromStart entities maxBatches).exec desk = (counted, final) ∧
      Foretold (List.Forall₂ Tally.Foretells) foretold counted ∧
      (foretold.isOk = true ↔ ∀ entity ∈ entities, desk.source.Readable entity) ∧
      preview.store = desk.store ∧ preview.memory = .start) := by
  constructor
  · intro entity
    have poised : Poised calm worker.cursors worker.cursors [entity] desk desk desk :=
      ⟨⟨(Desk.Alike.refl desk).reread sound, quiet, .of_eq sound rfl, quiet, reached.orderly,
        reached.orderly⟩, fun _ _ => rfl, fun _ _ => rfl⟩
    rcases planned : ((worker.dry worker.cursors).runUntilIdle entity maxBatches).exec desk
      with ⟨foretold, preview⟩
    rcases made : (worker.runUntilIdle entity maxBatches).exec desk with ⟨counted, final⟩
    obtain ⟨agree, unwritten, readable, _⟩ := ((poised.runUntilIdle undisturbed present writes
      spacious maxBatches List.not_mem_nil).of_exec planned).of_exec made
    exact ⟨_, _, _, _, rfl, rfl, agree, readable, unwritten.store, unwritten.memory⟩
  · intro entities distinct
    obtain ⟨_, rewound, ran, calmly, source, rows, cursors⟩ :=
      (resetCursors_answers undisturbed quiet entities).exec
    have begun : ({ desk with memory := .start } : Desk σ).source.Sound := sound
    have poised : Poised calm .memory worker.cursors entities { desk with memory := .start }
        { desk with memory := .start } rewound := by
      refine ⟨⟨(Desk.Alike.refl _).reread begun, quiet, .of_eq begun source, calmly,
        reached.orderly, reached.orderly.congr rows⟩, fun _ _ => by rw [rows], ?_⟩
      intro entity member
      rw [cursors entity (.inl member)]
      exact PerEntity.get_both 0 entity
    have roomy : Desk.Spacious { desk with memory := .start } :=
      ⟨spacious.ids, spacious.positions⟩
    rcases planned : ((worker.dry .memory).drainAll entities maxBatches).exec
      { desk with memory := .start } with ⟨foretold, preview⟩
    rcases made : (worker.drainAll entities maxBatches).exec rewound with ⟨counted, final⟩
    obtain ⟨agree, unwritten, readable⟩ := ((poised.drainAll undisturbed present writes roomy
      maxBatches distinct).of_exec planned).of_exec made
    exact ⟨_, _, _, _, rfl, (exec_bind_of_ok ran).trans made, agree, readable, unwritten.store,
      unwritten.memory⟩

private def still : Worker Unit :=
  ⟨motionless (.ofMillis 0), "sync", .store, ⟨2, false, some 25, false, false, .immediate 5 1⟩⟩

private def person (name : String) : String :=
  "\x7b\"id\":\"a\",\"createdon\":\"2020-01-01T00:00:00Z\"," ++
    "\"modifiedon\":\"2020-01-01T00:00:00Z\",\"statecode\":0," ++
    "\"attributes\":\x7b\"firstname\":\"" ++ name ++ "\",\"lastname\":\"B\"\x7d\x7d"

private def backAndForth : Source :=
  .memory ⟨[person "A", "\x7b\"id\":\"a\",\"change\":\"remove\"\x7d", "?", person "C"], []⟩

private def fresh : Desk Unit := ⟨.empty, .start, backAndForth, ()⟩

/-- A row that is made, deleted and made anew, over two windows, and a record that
cannot be read: a dry run counts them as the run does. -/
theorem Worker.dry_run_foretells_new_row : ∃ (foretold counted : Tally) (preview final : Desk Unit),
    ((still.dry .store).runUntilIdle .contact none).exec fresh = (.ok foretold, preview) ∧
    (still.runUntilIdle .contact none).exec fresh = (.ok counted, final) ∧
    foretold.Foretells counted ∧ counted.created = 2 ∧ counted.deleted = 1 ∧ counted.invalid = 1 ∧
    counted.batches = 3 ∧ preview.store = .empty := by
  have spacious : fresh.Spacious :=
    ⟨fun entity => by cases entity <;> decide +kernel,
      fun entity => by cases entity <;> decide +kernel⟩
  have present : (Instant.ofMillis 0).Kept := Instant.kept_iff.mpr (by decide)
  have reached : fresh.store.Reached := .empty
  have sound : fresh.source.Sound := trivial
  obtain ⟨foretells, _⟩ := Worker.dry_run_foretells (motionless_calm _) (show True from trivial)
    present (rfl : still.options.dryRun = false) reached sound spacious none
  obtain ⟨foretold, preview, counted, final, planned, ran, agree, _, unwritten, _⟩ :=
    foretells .contact
  have answer : (((still.dry .store).runUntilIdle .contact none).exec fresh).1.toOption =
      some ⟨.contact, 3, 3, 2, 0, 0, 0, 1, 0, 1, 0, 0, 0, 0, 4, .exhausted, true⟩ := by decide +kernel
  have planned : ((still.dry .store).runUntilIdle .contact none).exec fresh =
    (foretold, preview) := planned
  rw [planned] at answer
  cases foretold with
  | error fault => cases answer
  | ok foretold =>
    cases counted with
    | error fault => exact agree.elim
    | ok counted =>
      cases answer
      have same : Tally.Foretells _ counted := agree
      refine ⟨_, counted, preview, final, planned, ran, agree, ?_⟩
      rw [← same]
      exact ⟨rfl, rfl, rfl, rfl, unwritten⟩

end RecordSync.Run
