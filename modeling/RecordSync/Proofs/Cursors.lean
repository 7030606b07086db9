import RecordSync.Proofs.Decoded
import RecordSync.Proofs.Handling

/-! Cursors under a worker: reading one, moving one by comparison, and putting
one back to the start. -/

namespace RecordSync.Run

open RecordSync.Calendar RecordSync.Feed RecordSync.Record RecordSync.Store
open Work

variable {σ : Type}

def Desk.cursor (desk : Desk σ) (place : CursorPlace) (entity : Entity) : Nat :=
  match place with
  | .memory => desk.memory.get entity
  | .store => desk.store.cursor entity

/-- The positions that a place can hold; memory holds any. -/
def CursorPlace.Holds (place : CursorPlace) (position : Nat) : Prop :=
  place = .store → position ≤ Store.greatestPosition

/-- What windows of one feed have in common: who writes, where the cursor is kept,
the kind of record, and what the clock may say. -/
structure Lane where
  actor : String
  place : CursorPlace
  entity : Entity
  clock : Instant → Prop

def Worker.lane (worker : Worker σ) (entity : Entity) (clock : Instant → Prop) : Lane :=
  ⟨worker.actor, worker.cursors, entity, clock⟩

def Desk.moved (desk : Desk σ) (place : CursorPlace) (entity : Entity) (position : Nat)
    (now : Instant) : Desk σ :=
  match place with
  | .memory => { desk with memory := desk.memory.set entity position }
  | .store => { desk with store := desk.store.setCursor entity position now }

namespace Desk

variable {desk after : Desk σ} {place : CursorPlace} {entity : Entity}

theorem cursor_congr (memory : after.memory = desk.memory)
    (cursors : after.store.cursors = desk.store.cursors) (place : CursorPlace) (entity : Entity) :
    after.cursor place entity = desk.cursor place entity := by
  cases place with
  | memory => simp only [Desk.cursor, memory]
  | store => simp only [Desk.cursor, Store.cursor, cursors]

/-- Cursors stay where they are as long as the store's own are left alone. -/
theorem SameBeside.cursor (beside : desk.SameBeside after)
    (kept : after.store.cursors = desk.store.cursors) (place : CursorPlace) (entity : Entity) :
    after.cursor place entity = desk.cursor place entity :=
  cursor_congr beside.memory kept place entity

theorem Alike.cursor (alike : desk.Alike after) (place : CursorPlace) (entity : Entity) :
    after.cursor place entity = desk.cursor place entity :=
  alike.toSameBeside.cursor (by rw [alike.store]) place entity

@[simp] theorem cursor_moved_same (desk : Desk σ) (place : CursorPlace) (entity : Entity)
    (position : Nat) (now : Instant) :
    (desk.moved place entity position now).cursor place entity = position := by
  cases place <;> simp [Desk.cursor, moved, Store.cursor, Store.setCursor]

theorem cursor_moved_other (desk : Desk σ) {place other : CursorPlace} {entity another : Entity}
    (position : Nat) (now : Instant) (different : other ≠ place ∨ another ≠ entity) :
    (desk.moved place entity position now).cursor other another = desk.cursor other another := by
  cases place <;> cases other <;>
    simp_all [Desk.cursor, moved, Store.cursor, Store.setCursor, PerEntity.get_set_of_ne]

@[simp] theorem moved_source (desk : Desk σ) (place : CursorPlace) (entity : Entity)
    (position : Nat) (now : Instant) :
    (desk.moved place entity position now).source = desk.source := by
  cases place <;> rfl

/-- Moving a cursor is no matter for the records. -/
theorem moved_sameRecords (desk : Desk σ) (place : CursorPlace) (entity : Entity) (position : Nat)
    (now : Instant) : desk.store.SameRecords (desk.moved place entity position now).store := by
  cases place <;> exact ⟨rfl, rfl⟩

theorem moved_quarantine (desk : Desk σ) (place : CursorPlace) (entity : Entity) (position : Nat)
    (now : Instant) :
    (desk.moved place entity position now).store.quarantine = desk.store.quarantine := by
  cases place <;> rfl

theorem moved_attempts (desk : Desk σ) (place : CursorPlace) (entity : Entity) (position : Nat)
    (now : Instant) :
    (desk.moved place entity position now).store.attempts = desk.store.attempts := by
  cases place <;> rfl

end Desk

namespace Worker

theorem loadCursor_ends (worker : Worker σ) (entity : Entity) (desk : Desk σ) :
    (worker.loadCursor entity).Ends desk fun result after => desk.Alike after ∧
      ∀ cursor, result = .ok cursor → cursor = desk.cursor worker.cursors entity := by
  unfold loadCursor
  apply (worker.meet_ends _ desk).bind
  · intro fault after alike
    exact ⟨alike, fun _ impossible => by cases impossible⟩
  · intro _ after alike
    rw [← alike.cursor]
    cases worker.cursors with
    | memory => exact ⟨alike, fun _ same => by cases same; rfl⟩
    | store => exact ⟨alike, fun _ same => by cases same; rfl⟩

/-- A cursor moves only from where it was expected; else nothing changes. -/
theorem advanceCursor_ends (worker : Worker σ) (entity : Entity) (expected next : Nat)
    (desk : Desk σ) :
    (worker.advanceCursor entity expected next).Ends desk fun result after =>
      match result with
      | .ok _ => desk.cursor worker.cursors entity = expected ∧ worker.cursors.Holds next ∧
          ∃ around, (desk.moved worker.cursors entity next (worker.reading around)).Alike after
      | .error _ => desk.Alike after := by
  unfold advanceCursor
  apply (worker.meet_ends _ desk).bind
  · intro fault after alike
    exact alike
  · intro _ met alike
    rw [← alike.cursor]
    cases worker.cursors with
    | memory =>
      apply Ends.of_get
      unfold MemoryCursors.advance
      by_cases there : met.memory.get entity = expected
      · simp only [there, ne_eq, not_true_eq_false, ↓reduceIte]
        refine ⟨there, nofun, desk.around, ⟨?_, alike.source⟩, alike.store⟩
        show met.memory.set entity next = desk.memory.set entity next
        rw [alike.memory]
      · simp only [ne_eq, there, not_false_eq_true, ↓reduceIte]
        exact ends_throw _ alike
    | store =>
      apply (worker.now_ends met).bind
      · intro fault after told
        cases told.1
      · intro now asked told
        obtain ⟨read, alikeAgain⟩ := told
        injection read with read
        subst read
        have unchanged := alike.trans alikeAgain
        apply (onStore_atomic _ asked).mono
        intro result after atomic
        cases result with
        | error fault => exact unchanged.trans atomic
        | ok value =>
          obtain ⟨done, beside⟩ := atomic.of_alike unchanged
          obtain ⟨_, moved, same⟩ := map_eq_ok_iff.mp done
          cases same
          obtain ⟨there, held, stored⟩ := advanceCursor_eq_ok moved
          rw [alike.cursor]
          exact ⟨there, fun _ => held, met.around, ⟨beside.memory, beside.source⟩, stored⟩

/-- What putting a cursor back does: it stands at the start, and the log says so. -/
structure Rewound (worker : Worker σ) (entity : Entity) (before after : Desk σ) : Prop where
  source : after.source = before.source
  rows : after.store.rows = before.store.rows
  attempts : after.store.attempts = before.store.attempts
  quarantine : after.store.quarantine = before.store.quarantine
  at_start : after.cursor worker.cursors entity = 0
  others : ∀ place other, place ≠ worker.cursors ∨ other ≠ entity →
    after.cursor place other = before.cursor place other

theorem resetCursor_ends (worker : Worker σ) (entity : Entity) (desk : Desk σ) :
    (worker.resetCursor entity).Ends desk fun result after =>
      result = .ok (desk.cursor worker.cursors entity) ∧ worker.Rewound entity desk after := by
  cases place : worker.cursors with
  | memory =>
    unfold Ends
    have ran : (worker.resetCursor entity).exec desk = (.ok (desk.memory.get entity),
        desk.moved .memory entity 0 default) := by
      unfold resetCursor
      rw [place]
      rfl
    rw [ran]
    refine ⟨rfl, rfl, rfl, rfl, rfl, ?_, ?_⟩
    · rw [place, Desk.cursor_moved_same]
    · intro other another different
      rw [place] at different
      exact desk.cursor_moved_other 0 default different
  | store =>
    unfold Ends
    have ran : (worker.resetCursor entity).exec desk =
        (.ok (desk.store.cursor entity),
          { desk with
            store := (desk.store.resetCursor ⟨worker.actor, worker.reading desk.around⟩ entity).2
            around := (worker.surroundings.now desk.around).2 }) := by
      unfold resetCursor
      rw [place]
      rfl
    rw [ran]
    refine ⟨rfl, rfl, rfl, rfl, rfl, ?_, ?_⟩
    · rw [place]
      exact desk.cursor_moved_same .store entity 0 (worker.reading desk.around)
    · intro other another different
      rw [place] at different
      exact desk.cursor_moved_other 0 (worker.reading desk.around) different

/-- Where the cursor of a window belongs. A window moves it if it is no dry run
and got somewhere. -/
def moves (worker : Worker σ) (tally : Tally) : Bool :=
  !worker.options.dryRun && tally.cursorBefore < tally.cursorAfter

/-- The end of a window: the cursor moves from where the window found it, and the
ledger may be cleared up to there; or it stays and so does everything else. -/
theorem settle_clears (worker : Worker σ) (entity : Entity) (tally : Tally) (desk : Desk σ) :
    (worker.settle entity tally).Ends desk fun result after =>
      match result with
      | .error _ => desk.Alike after
      | .ok _ =>
        if worker.moves tally then
          desk.cursor worker.cursors entity = tally.cursorBefore ∧
            worker.cursors.Holds tally.cursorAfter ∧ ∃ around,
            let moved := desk.moved worker.cursors entity tally.cursorAfter (worker.reading around)
            moved.SameBeside after ∧ (after.store = moved.store ∨
              moved.store.clearAttempts entity tally.cursorAfter = .ok after.store)
        else desk.Alike after := by
  unfold settle
  change Ends (if worker.moves tally then _ else _) desk _
  split
  · apply (worker.advanceCursor_ends entity _ _ desk).bind
    · intro fault after alike
      exact alike
    · intro _ advanced ends
      obtain ⟨there, holds, around, alike⟩ := ends
      refine ⟨there, holds, around, ?_⟩
      rw [exec_bind_of_ok (exec_attempt _ advanced)]
      have cleared := worker.meet_onStore_atomic (.clearAttempts entity)
        (fun store => (store.clearAttempts entity tally.cursorAfter).map ((), ·)) advanced
      rcases ran : exec (do
        worker.meet (.clearAttempts entity)
        onStore fun store => (store.clearAttempts entity tally.cursorAfter).map ((), ·)) advanced
        with ⟨fault | value, after⟩
      · have unchanged := alike.trans (cleared.of_exec ran)
        exact ⟨unchanged.toSameBeside, .inl unchanged.store⟩
      · obtain ⟨done, beside⟩ := cleared.of_exec ran
        refine ⟨alike.toSameBeside.trans beside, .inr ?_⟩
        rw [← alike.store]
        obtain ⟨_, clearing, same⟩ := map_eq_ok_iff.mp done
        cases same
        exact clearing
  · exact ends_pure _ (.refl desk)

/-- Clearing the ledger is no matter for the rest of the store. -/
theorem settle_ends (worker : Worker σ) (entity : Entity) (tally : Tally) (desk : Desk σ) :
    (worker.settle entity tally).Ends desk fun result after =>
      match result with
      | .error _ => desk.Alike after
      | .ok _ =>
        if worker.moves tally then
          desk.cursor worker.cursors entity = tally.cursorBefore ∧
            worker.cursors.Holds tally.cursorAfter ∧ ∃ around,
            let moved := desk.moved worker.cursors entity tally.cursorAfter (worker.reading around)
            moved.SameBeside after ∧ moved.store.OnlyAttempts after.store
        else desk.Alike after := by
  apply (worker.settle_clears entity tally desk).mono
  intro result after ends
  cases result with
  | error fault => exact ends
  | ok _ =>
    simp only at ends ⊢
    split at ends
    · rename_i further
      obtain ⟨there, holds, around, beside, kept | cleared⟩ := ends
      · rw [if_pos further]
        exact ⟨there, holds, around, beside, .of_eq kept⟩
      · rw [if_pos further]
        exact ⟨there, holds, around, beside, clearAttempts_onlyAttempts cleared⟩
    · rename_i stays
      rw [if_neg stays]
      exact ends

/-- Moving the cursor is no matter for the feed, the records and the quarantine. -/
theorem settle_frame (worker : Worker σ) (entity : Entity) (tally : Tally) (desk : Desk σ) :
    (worker.settle entity tally).Ends desk fun _ after => after.source = desk.source ∧
      desk.store.SameRecords after.store ∧ after.store.quarantine = desk.store.quarantine := by
  have unmoved {after : Desk σ} (alike : desk.Alike after) : after.source = desk.source ∧
      desk.store.SameRecords after.store ∧ after.store.quarantine = desk.store.quarantine := by
    rw [alike.store]
    exact ⟨alike.source, .refl _, rfl⟩
  apply (worker.settle_ends entity tally desk).mono
  intro result after ends
  cases result with
  | error fault => exact unmoved ends
  | ok _ =>
    simp only at ends
    split at ends
    · obtain ⟨_, _, around, beside, only⟩ := ends
      refine ⟨?_, (desk.moved_sameRecords _ _ _ _).trans only.sameRecords, ?_⟩
      · rw [beside.source, Desk.moved_source]
      · rw [only.quarantine, Desk.moved_quarantine]
    · exact unmoved ends

end Worker

/-- Where the cursor is once a window or a run got to a position. -/
inductive Lane.Moved (lane : Lane) (before : Desk σ) (position : Nat) (after : Desk σ) : Prop where
  | stayed (there : before.cursor lane.place lane.entity = position)
      (memory : after.memory = before.memory) (cursors : after.store.cursors = before.store.cursors)
  | moved (now : Instant) (allowed : lane.clock now)
      (onward : before.cursor lane.place lane.entity < position) (holds : lane.place.Holds position)
      (memory : after.memory = (before.moved lane.place lane.entity position now).memory)
      (cursors : after.store.cursors =
        (before.moved lane.place lane.entity position now).store.cursors)

namespace Lane.Moved

variable {lane : Lane} {before between after : Desk σ} {position : Nat}

theorem congr (moved : lane.Moved between position after) (memory : between.memory = before.memory)
    (cursors : between.store.cursors = before.store.cursors) :
    lane.Moved before position after := by
  have same := Desk.cursor_congr memory cursors lane.place lane.entity
  cases moved with
  | stayed there kept keptCursors =>
    exact .stayed (same ▸ there) (kept.trans memory) (keptCursors.trans cursors)
  | moved now allowed onward holds movedMemory movedCursors =>
    refine .moved now allowed (same ▸ onward) holds ?_ ?_
    · rw [movedMemory]
      cases lane.place <;> simp [Desk.moved, memory]
    · rw [movedCursors]
      cases lane.place <;> simp [Desk.moved, Store.setCursor, cursors]

/-- What is said of cursors holds of any desk with the same ones. -/
theorem of_same (moved : lane.Moved before position between) (memory : after.memory = between.memory)
    (cursors : after.store.cursors = between.store.cursors) :
    lane.Moved before position after := by
  cases moved with
  | stayed there kept keptCursors =>
    exact .stayed there (memory.trans kept) (cursors.trans keptCursors)
  | moved now allowed onward holds movedMemory movedCursors =>
    exact .moved now allowed onward holds (memory.trans movedMemory) (cursors.trans movedCursors)

theorem cursor (moved : lane.Moved before position after) :
    after.cursor lane.place lane.entity = position := by
  cases moved with
  | stayed there memory cursors => rw [Desk.cursor_congr memory cursors, there]
  | moved now allowed onward holds memory cursors =>
    rw [Desk.cursor_congr memory cursors, Desk.cursor_moved_same]

/-- The cursors of other entities stay where they are. -/
theorem cursor_other (moved : lane.Moved before position after) {other : Entity}
    (different : other ≠ lane.entity) :
    after.cursor lane.place other = before.cursor lane.place other := by
  cases moved with
  | stayed there memory cursors => exact Desk.cursor_congr memory cursors _ _
  | moved now allowed onward holds memory cursors =>
    rw [Desk.cursor_congr memory cursors, before.cursor_moved_other _ _ (.inr different)]

theorem trans {middle : Nat} (one : lane.Moved before middle between)
    (two : lane.Moved between position after) : lane.Moved before position after := by
  have found := one.cursor
  cases one with
  | stayed there memory cursors => exact two.congr memory cursors
  | moved now allowed onward holds memory cursors =>
    cases two with
    | stayed there keptMemory keptCursors =>
      have same : middle = position := found.symm.trans there
      exact same ▸ (Lane.Moved.moved now allowed onward holds memory cursors).of_same keptMemory
        keptCursors
    | moved later allowed further holds laterMemory laterCursors =>
      refine .moved later allowed (by omega) holds ?_ ?_
      · rw [laterMemory]
        cases place : lane.place <;> simp [Desk.moved, place, memory]
      · rw [laterCursors]
        cases place : lane.place <;> simp [Desk.moved, place, Store.setCursor, cursors]

end Lane.Moved

/-- The cursor of a window that is no dry run ends where it belongs. -/
theorem Worker.settle_moved (worker : Worker σ) (entity : Entity) {clock : Instant → Prop}
    (ticks : ∀ around, clock (worker.reading around)) (tally : Tally) (desk : Desk σ)
    (real : worker.options.dryRun = false)
    (start : desk.cursor worker.cursors entity = tally.cursorBefore)
    (onward : tally.cursorBefore ≤ tally.cursorAfter) :
    (worker.settle entity tally).Ends desk
      (Either (fun _ after => (worker.lane entity clock).Moved desk tally.cursorAfter after)
        fun _ after => desk.Alike after) := by
  apply (worker.settle_ends entity tally desk).mono
  intro result after ends
  cases result with
  | error fault => exact ends
  | ok _ =>
    simp only at ends
    split at ends
    · rename_i further
      obtain ⟨_, holds, around, beside, only⟩ := ends
      simp only [Worker.moves, real, Bool.not_false, Bool.true_and, decide_eq_true_eq] at further
      exact .moved _ (ticks around) (start ▸ further) holds beside.memory only.cursors
    · rename_i stays
      simp only [Worker.moves, real, Bool.not_false, Bool.true_and, decide_eq_true_eq] at stays
      refine .stayed ?_ ends.memory (by rw [ends.store])
      show desk.cursor worker.cursors entity = tally.cursorAfter
      omega

end RecordSync.Run
