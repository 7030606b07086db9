import RecordSync.Proofs.Undisturbed

/-! Bad records are isolated. Records that cannot be used may stand anywhere in a
feed: but for their own counts, a run leaves and counts what it does without them. -/

namespace RecordSync

open RecordSync.Calendar RecordSync.Change RecordSync.Feed RecordSync.Record RecordSync.Run
  RecordSync.Store

namespace Change

/-- Whether a change can make a row, or rid of one: it is valid, and its snapshot can
become a row. -/
def usable : Change → Bool
  | .upserted snapshot => snapshot.mapped.toOption.isSome
  | .removed .. => true
  | .invalid .. => false

/-- Nothing is ever planned for an unusable change, whatever row there is. -/
theorem plan_unusable {change : Change} (unusable : change.usable = false)
    (current : Option Row) (now : Instant) :
    ∃ outcome, plan change current now = .skip outcome ∧ outcome.isApplied = false := by
  cases change with
  | upserted snapshot =>
    cases mapping : snapshot.mapped with
    | error fault => exact ⟨.rejected fault, by simp only [plan, planSnapshot, mapping], rfl⟩
    | ok mapped =>
      rw [Change.usable, mapping] at unusable
      cases unusable
  | removed about externalId => cases unusable
  | invalid entityName externalId fault => exact ⟨_, rfl, rfl⟩

end Change

/-- The entries of a feed, and those of one that has unusable records besides. They may
carry the ids of others, and the places of those that follow them shift. -/
inductive Feed.Spoiled : List Entry → List Entry → Prop where
  | nil : Spoiled [] []
  | record {entry shifted : Entry} {clean spoiled : List Entry}
      (same : shifted.delivery = entry.delivery) (rest : Spoiled clean spoiled) :
      Spoiled (entry :: clean) (shifted :: spoiled)
  | inserted {entry : Entry} {clean spoiled : List Entry}
      (unusable : (decode entry.delivery).usable = false) (rest : Spoiled clean spoiled) :
      Spoiled clean (entry :: spoiled)

/-- An unusable change leaves the store as it was. -/
theorem Store.apply_unusable {store after : Store} {change : Change} {actor : String}
    {now : Instant} {outcome : Outcome} (unusable : change.usable = false)
    (applied : store.apply actor change now = .ok (outcome, after)) :
    outcome.isApplied = false ∧ after = store := by
  obtain ⟨current, done⟩ := apply_planned applied
  obtain ⟨_, same, idle⟩ := plan_unusable unusable current now
  rw [same] at done
  cases done
  exact ⟨idle, rfl⟩

namespace Run

def Tally.usable (tally : Tally) : Tally := { tally with invalid := 0, failed := 0 }

theorem Tally.usable_record (tally : Tally) (outcome : Outcome) :
    (tally.record outcome).usable = (tally.usable.record outcome).usable := by
  cases outcome <;> rfl

theorem Tally.usable_record_unusable (tally : Tally) {outcome : Outcome}
    (unusable : outcome.isApplied = false) : (tally.record outcome).usable = tally.usable := by
  cases outcome <;> first | rfl | cases unusable

/-- Tallies with the same usable counts differ in little else. -/
theorem Tally.eq_of_usable {clean tally : Tally} (usable : clean.bare.usable = tally.bare.usable)
    (before : clean.cursorBefore = tally.cursorBefore) (stop : clean.stop = tally.stop)
    (dry : clean.dryRun = tally.dryRun) : { tally with
      batches := clean.batches
      invalid := clean.invalid
      failed := clean.failed
      cursorAfter := clean.cursorAfter } = clean := by
  cases clean
  cases tally
  simp only [bare, Tally.usable, mk.injEq] at usable before stop dry ⊢
  simp only [usable, before, stop, dry, and_self]

namespace Worker

open Work

variable {σ : Type} {worker : Worker σ} {now : Instant} {calm : σ → Prop} {entity : Entity}
  {planned next final : Planned} {store after later : Store} {change : Change}
  {outcome : Outcome} {trail : List (Entry × Outcome)} {clean : List Entry} {desk : Desk σ}

/-- An unusable change leaves plans, rows and log as they were. -/
theorem handle_unusable (unusable : change.usable = false)
    (handled : worker.handle now planned store change = .ok (outcome, next, after)) :
    outcome.isApplied = false ∧ next = planned ∧ after = store := by
  unfold handle at handled
  split at handled
  · obtain ⟨⟨plan, next⟩, plans, done⟩ := map_eq_ok_iff.mp handled
    cases done
    obtain ⟨current, rfl, noted⟩ := Planned.over_planned plans
    obtain ⟨outcome, same, idle⟩ := plan_unusable unusable current now
    rw [same] at noted ⊢
    refine ⟨idle, ?_, rfl⟩
    rcases noted with rfl | ⟨_, rfl⟩ <;> rfl
  · obtain ⟨⟨outcome, after⟩, applied, done⟩ := map_eq_ok_iff.mp handled
    cases done
    obtain ⟨idle, same⟩ := apply_unusable unusable applied
    exact ⟨idle, rfl, same⟩

/-- What is handled with unusable records among it is handled without them, to the same
end and with the same counts of the others. -/
theorem Handles.cleaned (handles : worker.Handles now planned store trail final later)
    (spoiled : Spoiled clean (trail.map (·.1))) {tally other : Tally}
    (agree : tally.usable = other.usable) :
    ∃ own, own.map (·.1) = clean ∧ worker.Handles now planned store own final later ∧
      (tally.recordAll own).usable = (other.recordAll trail).usable := by
  induction handles generalizing clean tally other with
  | nil same =>
    cases spoiled with
    | nil => exact ⟨[], rfl, .nil same, agree⟩
  | @cons _ _ _ _ _ _ entry outcome trail handled _ ih =>
    cases spoiled with
    | @record clean _ rest _ same spoiled =>
      have counted : (tally.record outcome).usable = (other.record outcome).usable := by
        rw [Tally.usable_record, agree, ← Tally.usable_record]
      obtain ⟨own, others, handles, usable⟩ := ih spoiled counted
      rw [same] at handled
      exact ⟨(clean, outcome) :: own, by rw [List.map_cons, others], .cons handled handles, usable⟩
    | inserted unusable spoiled =>
      obtain ⟨idle, rfl, rfl⟩ := handle_unusable unusable handled
      refine ih spoiled (agree.trans ?_)
      rw [Tally.usable_record_unusable other idle]

/-- A feed that a run can go through from its start to its end. -/
structure Reads (worker : Worker σ) (entity : Entity) (source : Source) : Prop where
  sound : source.Sound
  readable : source.Readable entity
  places : worker.options.dryRun = false → worker.cursors.Holds (source.extent entity)

/-- Where nothing fails, a run from the start of a feed comes to its end. -/
theorem Handles.drains (desk : Desk σ)
    (handles : worker.Handles now [] desk.store trail final later)
    (undisturbed : worker.surroundings.Calm now calm) (tolerant : worker.options.Tolerant)
    (quiet : calm desk.around) (start : desk.cursor worker.cursors entity = 0)
    (reads : worker.Reads entity desk.source)
    (records : trail.map (·.1) = desk.source.entries entity) :
    (worker.runUntilIdle entity none).Answers desk
      (worker.Drained entity desk later trail 0) := by
  rw [← start]
  refine runUntilIdle_handles undisturbed tolerant reads.readable
    (fun real _ => reads.places real)
    ⟨.of_eq reads.sound rfl, quiet, Nat.le_refl _, fun _ => rfl, ?_, handles⟩
  rw [start, records]
  exact List.filter_eq_self.mpr fun entry member =>
    decide_eq_true (Source.one_le_of_mem member)

/-- While the clock stands still and nothing fails, a run from the start of a feed that
has unusable records besides leaves the rows and the log of a run without them, and
counts the same but for the windows, the unusable records and the cursor's end. -/
theorem bad_records_isolated (undisturbed : worker.surroundings.Calm now calm)
    (tolerant : worker.options.Tolerant) (desk : Desk σ) (quiet : calm desk.around)
    (start : desk.cursor worker.cursors entity = 0) (source : Source)
    (spoiled : Spoiled (desk.source.entries entity) (source.entries entity))
    (reads : worker.Reads entity desk.source) (readsBoth : worker.Reads entity source)
    (accepted : (worker.handleAll now desk.store (source.entries entity)).isOk = true) :
    ∃ clean after tally final,
      (worker.runUntilIdle entity none).exec desk = (.ok clean, after) ∧
      (worker.runUntilIdle entity none).exec { desk with source } = (.ok tally, final) ∧
      final.store.rows = after.store.rows ∧ final.store.log = after.store.log ∧
      tally.applied = clean.applied ∧ { tally with
        batches := clean.batches
        invalid := clean.invalid
        failed := clean.failed
        cursorAfter := clean.cursorAfter } = clean := by
  cases handled : worker.handleAll now desk.store (source.entries entity) with
  | error fault =>
    rw [handled] at accepted
    cases accepted
  | ok state =>
    obtain ⟨trail, records, handles⟩ := Handles.of_handleAll handled
    obtain ⟨own, others, handlesOwn, usable⟩ :=
      handles.cleaned (records ▸ spoiled) (rfl : (Tally.start entity 0).usable = _)
    have there : Desk.cursor { desk with source } worker.cursors entity = 0 := by
      rw [← start]
      cases worker.cursors <;> rfl
    obtain ⟨clean, after, ran, drained⟩ :=
      (handlesOwn.drains desk undisturbed tolerant quiet start reads others).exec
    obtain ⟨tally, final, ranToo, drainedToo⟩ := (handles.drains { desk with source } undisturbed
      tolerant quiet there readsBoth records).exec
    have sameRecords := drainedToo.records.symm.trans drained.records
    have counts := Tally.eq_of_usable
      (by rw [drained.counts, drainedToo.counts]; exact usable)
      (drained.cursorBefore.trans drainedToo.cursorBefore.symm)
      (drained.stop.trans drainedToo.stop.symm) (drained.dryRun.trans drainedToo.dryRun.symm)
    have applied : tally.applied = clean.applied := by
      rw [← counts]
    exact ⟨clean, after, tally, final, ran, ranToo, sameRecords.rows, sameRecords.log, applied,
      counts⟩

private def calmly : Worker Unit :=
  ⟨motionless (.ofMillis 0), "sync", .store, ⟨2, false, none, false, false, .standard⟩⟩

/-- A payload with a state code, of which two are known. -/
private def inState (code : String) : String :=
  "\x7b\"id\":\"a\",\"createdon\":\"2020-01-01T00:00:00Z\"," ++
    "\"modifiedon\":\"2020-01-01T00:00:00Z\",\"statecode\":" ++ code ++ "," ++
    "\"attributes\":\x7b\"firstname\":\"A\",\"lastname\":\"B\"\x7d\x7d"

private def oneRecord : Desk Unit := ⟨.empty, .start, .memory ⟨[inState "0"], []⟩, ()⟩

private def amongOthers : Source := .memory ⟨["?", inState "0", inState "7"], []⟩

/-- Before a record stands one that cannot be read, and behind it one with its own id
that cannot become a row. -/
theorem bad_records_isolated_same_id : ∃ clean after tally final,
    (calmly.runUntilIdle .contact none).exec oneRecord = (.ok clean, after) ∧
    (calmly.runUntilIdle .contact none).exec { oneRecord with source := amongOthers } =
      (.ok tally, final) ∧
    final.store.rows = after.store.rows ∧ final.store.log = after.store.log ∧
    clean.created = 1 ∧ tally.created = 1 ∧ tally.invalid = 1 ∧ tally.failed = 1 := by
  have undisturbed : calmly.surroundings.Calm (.ofMillis 0) fun _ => True := motionless_calm _
  have spoiled : Spoiled (oneRecord.source.entries .contact) (amongOthers.entries .contact) :=
    .inserted (by decide +kernel) (.record rfl (.inserted (by decide +kernel) .nil))
  obtain ⟨clean, after, tally, final, ran, ranToo, rows, log, _, counts⟩ :=
    bad_records_isolated undisturbed ⟨.inr rfl, rfl⟩ oneRecord trivial rfl amongOthers spoiled
      ⟨trivial, trivial, fun _ _ => by decide⟩ ⟨trivial, trivial, fun _ _ => by decide⟩
      (by decide +kernel)
  have told : ((calmly.runUntilIdle .contact none).exec
      { oneRecord with source := amongOthers }).1.toOption.map
        (fun tally => (tally.created, tally.invalid, tally.failed)) = some (1, 1, 1) := by
    decide +kernel
  rw [ranToo] at told
  injection told with told
  injection told with created told
  injection told with invalid failed
  exact ⟨clean, after, tally, final, ran, ranToo, rows, log,
    (congrArg Tally.created counts).symm.trans created, created, invalid, failed⟩

end Worker

end Run

end RecordSync
