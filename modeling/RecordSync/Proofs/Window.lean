import RecordSync.Proofs.Cursors
import RecordSync.Proofs.Feed

/-! The records of one window, one after the other. -/

namespace RecordSync.Run

open RecordSync.Calendar RecordSync.Change RecordSync.Feed RecordSync.Record RecordSync.Store
open Work

variable {σ : Type}

/-- The feed is the same but for what it remembers, and that is true. -/
structure Desk.SameFeed (before after : Desk σ) : Prop where
  marks : ∃ marks, after.source = before.source.remembering marks
  sound : after.source.Sound

/-- Nothing changed but the surroundings and what the feed remembers. -/
structure Desk.Reread (before after : Desk σ) : Prop extends Desk.SameFeed before after where
  store : after.store = before.store
  memory : after.memory = before.memory

namespace Desk.SameFeed

variable {before between after : Desk σ}

theorem of_eq (sound : before.source.Sound) (same : after.source = before.source) :
    before.SameFeed after := by
  refine ⟨⟨before.source.marks, ?_⟩, same ▸ sound⟩
  rw [same, Source.remembering_marks]

theorem trans (one : before.SameFeed between) (two : between.SameFeed after) :
    before.SameFeed after := by
  obtain ⟨_, first⟩ := one.marks
  obtain ⟨marks, second⟩ := two.marks
  refine ⟨⟨marks, ?_⟩, two.sound⟩
  rw [second, first, Source.remembering_remembering]

theorem entries (same : before.SameFeed after) (entity : Entity) :
    after.source.entries entity = before.source.entries entity := by
  obtain ⟨_, remembered⟩ := same.marks
  rw [remembered, Source.entries_remembering]

theorem readable (same : before.SameFeed after) (entity : Entity) :
    after.source.Readable entity ↔ before.source.Readable entity := by
  obtain ⟨_, remembered⟩ := same.marks
  rw [remembered, Source.readable_remembering]

theorem extent (same : before.SameFeed after) (entity : Entity) :
    after.source.extent entity = before.source.extent entity := by
  obtain ⟨_, remembered⟩ := same.marks
  rw [remembered, Source.extent_remembering]

end Desk.SameFeed

theorem Desk.Alike.reread {before after : Desk σ} (alike : before.Alike after)
    (sound : before.source.Sound) : before.Reread after :=
  ⟨.of_eq sound alike.source, alike.store, alike.memory⟩

theorem Desk.Alike.trans_reread {first second third : Desk σ} (alike : first.Alike second)
    (reread : second.Reread third) : first.Reread third := by
  obtain ⟨marks, remembered⟩ := reread.marks
  rw [alike.source] at remembered
  exact ⟨⟨⟨marks, remembered⟩, reread.sound⟩, reread.store.trans alike.store,
    reread.memory.trans alike.memory⟩

theorem Desk.Reread.trans {first second third : Desk σ} (one : first.Reread second)
    (two : second.Reread third) : first.Reread third :=
  ⟨one.toSameFeed.trans two.toSameFeed, two.store.trans one.store, two.memory.trans one.memory⟩

theorem Desk.Reread.cursor {before after : Desk σ} (reread : before.Reread after)
    (place : CursorPlace) (entity : Entity) :
    after.cursor place entity = before.cursor place entity :=
  cursor_congr reread.memory (by rw [reread.store]) place entity

namespace Worker

/-- One record of a window, with how it ended if the window reached it. -/
def attend (worker : Worker σ) (entity : Entity) (progress : Progress) (entry : Entry) :
    Work σ (Option Ending × Progress) := do
  if progress.stop.isSome then return (none, progress)
  if ← worker.isCancelled then return (none, { progress with stop := some .cancelled })
  let (ending, planned) ← worker.dealWith entity progress.planned entry
  return (some ending, { progress.note worker.options entry.sequence ending with planned })

theorem step_eq_attend (worker : Worker σ) (entity : Entity) (progress : Progress) (entry : Entry) :
    worker.step entity progress entry = Prod.snd <$> worker.attend entity progress entry := by
  unfold step attend
  split
  · simp
  · simp only [map_bind]
    congr 1
    funext cancelled
    cases cancelled <;> simp

/-- How a record of a window, not of a dry run, was dealt with. -/
inductive Attended (worker : Worker σ) (entity : Entity) (progress : Progress) (entry : Entry)
    (before : Desk σ) : Option Ending × Progress → Desk σ → Prop where
  | unreached (stopped : progress.stop.isSome = true) :
      Attended worker entity progress entry before (none, progress) before
  | cancelled {after : Desk σ} (going : progress.stop = none) (alike : before.Alike after) :
      Attended worker entity progress entry before
        (none, { progress with stop := some .cancelled }) after
  | dealt {after : Desk σ} {ending : Ending} (going : progress.stop = none)
      (dealt : worker.Dealt entity entry before (.ok ending) after) :
      Attended worker entity progress entry before
        (some ending, progress.note worker.options entry.sequence ending) after

theorem attend_ends (worker : Worker σ) (entity : Entity) (progress : Progress) (entry : Entry)
    (desk : Desk σ) (real : worker.options.dryRun = false) :
    (worker.attend entity progress entry).Ends desk fun result after =>
      match result with
      | .ok answer => worker.Attended entity progress entry desk answer after
      | .error fault => worker.Dealt entity entry desk (.error fault) after := by
  unfold attend
  cases going : progress.stop with
  | some stop =>
    simp only [Option.isSome_some, ↓reduceIte]
    exact ends_pure _ (.unreached (by rw [going]; rfl))
  | none =>
    simp only [Option.isSome_none, Bool.false_eq_true, ↓reduceIte]
    apply (worker.isCancelled_ends desk).bind
    · intro fault after told
      obtain ⟨⟨_, impossible⟩, _⟩ := told
      cases impossible
    · intro cancelled asked told
      split
      · exact ends_pure _ (.cancelled going told.2)
      · apply (worker.dealWith_dealt entity progress.planned entry asked real).bind
        · intro fault after dealt
          exact dealt.1.of_alike told.2
        · intro answer after dealt
          obtain ⟨ending, planned⟩ := answer
          have same : planned = progress.planned := dealt.2 _ rfl
          have unplanned : { progress.note worker.options entry.sequence ending with planned } =
              progress.note worker.options entry.sequence ending := by
            rw [same]
            cases ending <;> rfl
          rw [unplanned]
          exact ends_pure _ (.dealt going (dealt.1.of_alike told.2))

/-- A dry run reads rows and writes nothing. -/
theorem planOn_ends (worker : Worker σ) (planned : Planned) (change : Change) (now : Instant)
    (desk : Desk σ) :
    (worker.planOn planned change now).Ends desk fun _ after => desk.Alike after := by
  unfold planOn
  split
  · exact ends_pure _ (.refl desk)
  · rename_i key _
    split
    · exact ends_pure _ (.refl desk)
    · apply (worker.meet_onStore_atomic (.read key.1 key.2) _ desk).bind
      · intro fault after alike
        exact alike
      · intro row after atomic
        exact ends_pure _ atomic.asked.2

theorem dealWith_dry (worker : Worker σ) (entity : Entity) (planned : Planned) (entry : Entry)
    (desk : Desk σ) (dry : worker.options.dryRun = true) :
    (worker.dealWith entity planned entry).Ends desk fun _ after => desk.Alike after := by
  unfold dealWith
  simp only [dry, ↓reduceIte]
  apply (worker.now_ends desk).bind
  · intro fault after told
    exact told.2
  · intro now asked told
    apply (worker.planOn_ends planned _ now asked).bind
    · intro fault after alike
      exact told.2.trans alike
    · intro answer after alike
      exact ends_pure _ (told.2.trans alike)

/-- Whatever becomes of a record, the cursors and the feed stay as they are. -/
theorem attend_frame (worker : Worker σ) (entity : Entity) (progress : Progress) (entry : Entry)
    (desk : Desk σ) :
    (worker.attend entity progress entry).Ends desk fun _ after =>
      desk.SameBeside after ∧ after.store.cursors = desk.store.cursors := by
  cases real : worker.options.dryRun with
  | false =>
    apply (worker.attend_ends entity progress entry desk real).mono
    intro result after ends
    cases result with
    | error fault => exact ⟨ends.1, ends.2.cursors⟩
    | ok answer =>
      cases ends with
      | unreached stopped => exact ⟨.refl desk, rfl⟩
      | cancelled going alike => exact ⟨alike.toSameBeside, by rw [alike.store]⟩
      | @dealt _ ending going dealt =>
        cases ending with
        | terminal outcome =>
          obtain ⟨beside, around, applied⟩ := dealt
          exact ⟨beside, apply_cursors applied⟩
        | quarantined =>
          obtain ⟨beside, ledger, _, _, _, only, _, _, _, given⟩ := dealt
          exact ⟨beside, (surrender_spec given).2.1.trans only.cursors⟩
        | deferred => exact ⟨dealt.1, dealt.2.cursors⟩
  | true =>
    have alike_frame {after : Desk σ} (alike : desk.Alike after) :
        desk.SameBeside after ∧ after.store.cursors = desk.store.cursors :=
      ⟨alike.toSameBeside, by rw [alike.store]⟩
    unfold attend
    split
    · exact ends_pure _ (alike_frame (.refl desk))
    · apply (worker.isCancelled_ends desk).bind
      · intro fault after told
        exact alike_frame told.2
      · intro cancelled asked told
        split
        · exact ends_pure _ (alike_frame told.2)
        · apply (worker.dealWith_dry entity progress.planned entry asked real).bind
          · intro fault after alike
            exact alike_frame (told.2.trans alike)
          · intro answer after alike
            exact ends_pure _ (alike_frame (told.2.trans alike))

/-- A page that was fetched belongs to the feed as it was. -/
theorem fetch_ends (worker : Worker σ) (entity : Entity) (position : Nat) (desk : Desk σ)
    (sound : desk.source.Sound) :
    (worker.fetch entity position).Ends desk fun result after =>
      desk.Reread after ∧ ∀ page, result = .ok page → desk.source.Readable entity ∧
        page.Covers (desk.source.entries entity) (desk.source.extent entity) position
          worker.options.window := by
  unfold fetch
  apply (worker.meet_ends _ desk).bind
  · intro fault after alike
    exact ⟨alike.reread sound, fun _ impossible => by cases impossible⟩
  · intro _ met alike
    apply Ends.of_get
    rw [alike.source]
    cases fetched : desk.source.fetch entity position worker.options.window with
    | error fault =>
      exact ends_throw _ ⟨alike.reread sound, fun _ impossible => by cases impossible⟩
    | ok answer =>
      obtain ⟨page, source⟩ := answer
      obtain ⟨covers, soundAfter, marks, same⟩ := Source.fetch_spec sound fetched
      refine ⟨⟨⟨⟨marks, same⟩, soundAfter⟩, alike.store, alike.memory⟩, ?_⟩
      rintro _ ⟨⟩
      exact ⟨Source.readable_of_fetch fetched, covers⟩

end Worker

end RecordSync.Run
