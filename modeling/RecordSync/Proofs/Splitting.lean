import RecordSync.Proofs.Runs
import RecordSync.Proofs.Undisturbed

/-! How a feed is cut into windows and runs does not matter. At one reading of
the clock, any calls that together come to the end of a feed, and give no record
up, leave what a single window over all of it leaves. -/

namespace RecordSync.Run

open RecordSync.Calendar RecordSync.Change RecordSync.Feed RecordSync.Record RecordSync.Store
open Work

variable {σ τ : Type}

/-- A worker that does not run dry, in the place of others on a lane. -/
structure Worker.Keeps (worker : Worker σ) (lane : Lane) : Prop where
  actor : worker.actor = lane.actor
  place : worker.cursors = lane.place
  ticks : ∀ around, lane.clock (worker.reading around)
  real : worker.options.dryRun = false

theorem Worker.Keeps.lane_eq {worker : Worker σ} {lane : Lane} (keeps : worker.Keeps lane) :
    worker.lane lane.entity lane.clock = lane := by
  unfold Worker.lane
  rw [keeps.actor, keeps.place]

/-- Calls one after the other on a lane, each of which answers, with their
answers and the reason for which the last one stopped. Every call may have other
options, faults and cancellations; between two of them the feed may grow, and
then no reason stands. -/
inductive Lane.Calls (lane : Lane) (start : Desk σ) :
    List Tally → Option Stop → Desk σ → Prop where
  | none : Calls lane start [] none start
  | grown {tallies : List Tally} {standing : Option Stop} {desk : Desk σ} {source : Source}
      (calls : Calls lane start tallies standing desk) (grows : desk.source.GrowsInto source) :
      Calls lane start tallies none { desk with source }
  | served {tallies : List Tally} {standing : Option Stop} {desk after : Desk σ} {tally : Tally}
      (calls : Calls lane start tallies standing desk) (worker : Worker σ)
      (keeps : worker.Keeps lane) (request : Request) (around : σ)
      (ran : (worker.serve lane.entity request).exec { desk with around } = (.ok tally, after)) :
      Calls lane start (tallies ++ [tally]) (some tally.stop) after

/-- What calls come to that give no record up: one stretch of the feed. -/
structure Lane.Joined (lane : Lane) (start : Desk σ) (tallies : List Tally)
    (standing : Option Stop) (trail : List (Entry × Outcome)) (desk : Desk σ) : Prop where
  sound : desk.source.Sound
  applied : Applied lane.actor lane.clock start.store trail desk.store
  stretch : trail.map (·.1) = between (desk.source.entries lane.entity)
    (start.cursor lane.place lane.entity) (desk.cursor lane.place lane.entity)
  early : start.cursor lane.place lane.entity ≤ desk.cursor lane.place lane.entity
  late : desk.cursor lane.place lane.entity ≤
    max (start.cursor lane.place lane.entity) (desk.source.extent lane.entity)
  moved : lane.Moved start (desk.cursor lane.place lane.entity) desk
  counters : ∀ counter ∈ Tally.counters, (tallies.map counter).sum = Tally.total counter trail
  exhausted : standing = some .exhausted → desk.source.Readable lane.entity ∧
    desk.source.extent lane.entity ≤ desk.cursor lane.place lane.entity

namespace Lane

variable {lane : Lane} {first desk after : Desk σ} {tallies : List Tally} {standing : Option Stop}
  {trail more : List (Entry × Outcome)}

theorem Joined.start (sound : first.source.Sound) : lane.Joined first [] none [] first :=
  ⟨sound, .nil (.refl _), (between_self _ _).symm, Nat.le_refl _, Nat.le_max_left _ _,
    .stayed rfl rfl rfl, fun _ _ => rfl, fun impossible => by cases impossible⟩

theorem Joined.grown (joined : lane.Joined first tallies standing trail desk) {source : Source}
    (grows : desk.source.GrowsInto source) :
    lane.Joined first tallies none trail { desk with source } := by
  have extent := grows.1.extent_le lane.entity
  have late := joined.late
  refine { joined with
    sound := grows.sound joined.sound
    stretch := joined.stretch.trans (grows.1.between lane.entity late).symm
    late := ?_
    moved := ?_
    exhausted := fun impossible => by cases impossible }
  · show desk.cursor lane.place lane.entity ≤
      max (first.cursor lane.place lane.entity) (source.extent lane.entity)
    omega
  · exact joined.moved.of_same rfl rfl

theorem Joined.elapsed (joined : lane.Joined first tallies standing trail desk) (around : σ) :
    lane.Joined first tallies standing trail { desk with around } :=
  ⟨joined.sound, joined.applied, joined.stretch, joined.early, joined.late,
    joined.moved.of_same rfl rfl, joined.counters, joined.exhausted⟩

theorem Joined.served {tally : Tally} (joined : lane.Joined first tallies standing trail desk)
    (feed : desk.SameFeed after) (completed : lane.Completed desk tally more after) :
    lane.Joined first (tallies ++ [tally]) (some tally.stop) (trail ++ more) after := by
  have found := completed.moved.cursor
  have early := joined.early
  have late := joined.late
  have further := completed.early
  have within := completed.late
  refine ⟨feed.sound, joined.applied.append completed.applied, ?_, ?_, ?_, ?_, ?_, ?_⟩
  · rw [List.map_append, joined.stretch, completed.stretch, feed.entries, found]
    exact between_append (desk.source.entries_pairwise lane.entity) early further
  · rw [found]
    omega
  · rw [found, feed.extent]
    omega
  · rw [found]
    exact joined.moved.trans completed.moved
  · intro counter counted
    rw [Tally.total_append, ← joined.counters counter counted, ← completed.counters counter counted]
    simp
  · intro exhausted
    rw [found, feed.extent, feed.readable]
    exact ⟨completed.readable, completed.exhausted (Option.some.inj exhausted)⟩

/-- Calls that came to the end of a feed moved their cursor there, so its place
can hold it. -/
theorem Joined.holds (joined : lane.Joined first tallies standing trail desk)
    (exhausted : standing = some .exhausted)
    (further : first.cursor lane.place lane.entity < desk.source.extent lane.entity) :
    lane.place.Holds (desk.source.extent lane.entity) := by
  have arrived := (joined.exhausted exhausted).2
  have late := joined.late
  have there : desk.source.extent lane.entity = desk.cursor lane.place lane.entity := by omega
  cases joined.moved with
  | stayed same _ _ => omega
  | moved _ _ _ holds _ _ => exact there ▸ holds

/-- Calls that give no record up join to one stretch. -/
theorem Calls.joined (calls : lane.Calls first tallies standing desk)
    (sound : first.source.Sound) (kept : ∀ tally ∈ tallies, tally.quarantined = 0) :
    ∃ trail, lane.Joined first tallies standing trail desk := by
  induction calls with
  | none => exact ⟨[], .start sound⟩
  | grown _ grows ih =>
    obtain ⟨trail, joined⟩ := ih kept
    exact ⟨trail, joined.grown grows⟩
  | @served tallies standing desk after tally _ worker keeps request around ran ih =>
    obtain ⟨trail, joined⟩ := ih fun tally member => kept tally (List.mem_append_left _ member)
    have ends := (Worker.serve_ends keeps.ticks keeps.real request
      { desk with around } joined.sound).of_exec ran
    rw [keeps.lane_eq] at ends
    obtain ⟨feed, ended⟩ := ends
    cases ended with
    | surrendered quarantine counted => exact absurd (kept tally (by simp)) (counted tally rfl)
    | completed more completed => exact ⟨_, (joined.elapsed around).served feed completed⟩

end Lane

/-- Options under which nothing but a fault stops a window on its page. -/
structure Options.Lenient (options : Options) : Prop where
  real : options.dryRun = false
  ignoreInvalid : options.ignoreInvalid = true
  ignoreRejected : options.abortOnMappingError = false

namespace Worker

variable {worker : Worker τ} {now : Instant} {calm : τ → Prop} {entity : Entity}
  {trail : List (Entry × Outcome)}

section

variable (undisturbed : worker.surroundings.Calm now calm) (lenient : worker.options.Lenient)
  (desk : Desk τ) (quiet : calm desk.around) (sound : desk.source.Sound)
  (readable : desk.source.Readable entity)
  (room : (desk.source.entries entity).length < worker.options.window) {later : Store}
  (applied : Applied worker.actor (· = now) desk.store trail later)
  (records : trail.map (·.1) = (desk.source.entries entity).filter
    (desk.cursor worker.cursors entity < ·.sequence))
  (holds : desk.cursor worker.cursors entity < desk.source.extent entity →
    worker.cursors.Holds (desk.source.extent entity))
include undisturbed lenient quiet sound readable room applied records holds

/-- An undisturbed and lenient worker takes a feed in at once if its window has room for
all of it. -/
theorem processBatch_answers :
    (worker.processBatch entity).Answers desk fun tally _ =>
      tally.stop = .exhausted ∧ tally.quarantined = 0 := by
  have tolerant : worker.options.Tolerant := ⟨.inl lenient.ignoreInvalid, lenient.ignoreRejected⟩
  rw [processBatch_eq_windowOn]
  apply (window_handles undisturbed tolerant readable (fun _ => holds)
    ⟨.of_eq sound rfl, quiet, Nat.le_refl _, fun _ => rfl, records.symm,
      .of_applied lenient.real applied []⟩ rfl).bind
  rintro ⟨tally, _⟩ after ⟨front, rest, rfl, _, bare, _, _, stops⟩
  refine answers_pure _ ⟨?_, (congrArg Tally.quarantined bare).trans
    ((Tally.start entity 0).recordAll_frame front).2.2⟩
  rcases stops with ⟨_, full⟩ | ⟨stop, _⟩
  · have few := List.length_filter_le (desk.cursor worker.cursors entity < ·.sequence)
      (desk.source.entries entity)
    rw [← records, List.length_map, List.length_append] at few
    omega
  · exact stop

end

end Worker

/-- Cursors that set out from the same place and get to the same one are the same
if the clock says the same. -/
theorem Lane.Moved.unique {lane : Lane} {now : Instant} {before after : Desk σ}
    {start final : Desk τ} {position : Nat} (one : lane.Moved before position after)
    (two : lane.Moved start position final) (clock : ∀ time, lane.clock time → time = now)
    (memory : start.memory = before.memory)
    (cursors : start.store.cursors = before.store.cursors) :
    final.memory = after.memory ∧ final.store.cursors = after.store.cursors := by
  have found : start.cursor lane.place lane.entity = before.cursor lane.place lane.entity := by
    cases lane.place with
    | memory => simp only [Desk.cursor, memory]
    | store => simp only [Desk.cursor, Store.cursor, cursors]
  cases one with
  | stayed there kept keptCursors =>
    cases two with
    | stayed _ keptThere keptCursorsThere =>
      exact ⟨by rw [keptThere, memory, kept], by rw [keptCursorsThere, cursors, keptCursors]⟩
    | moved _ _ onward _ _ _ => omega
  | moved time allowed onward _ moved movedCursors =>
    cases two with
    | stayed there _ _ => omega
    | moved other allowedThere _ _ movedThere movedCursorsThere =>
      rw [movedThere, movedCursorsThere, moved, movedCursors, clock time allowed,
        clock other allowedThere]
      cases lane.place <;> simp [Desk.moved, Store.setCursor, memory, cursors]

/-- How a feed is cut does not matter: calls that come to its end leave the rows,
the log and the cursors, and add up to the counts, of one window over the whole
feed by a worker that nothing stops. -/
theorem calls_agree_with_whole (actor : String) (place : CursorPlace) (entity : Entity)
    (now : Instant) {start final : Desk σ} {tallies : List Tally} (sound : start.source.Sound)
    (calls : (Lane.mk actor place entity (· = now)).Calls start tallies (some .exhausted) final)
    (kept : ∀ tally ∈ tallies, tally.quarantined = 0) (worker : Worker τ)
    (undisturbed : worker.surroundings.Calm now fun _ => True) (author : worker.actor = actor)
    (keeper : worker.cursors = place) (lenient : worker.options.Lenient)
    (room : (final.source.entries entity).length < worker.options.window) (around : τ) :
    ∃ whole after, (worker.processBatch entity).exec
        ⟨start.store, start.memory, final.source, around⟩ = (.ok whole, after) ∧
      after.store.rows = final.store.rows ∧ after.store.log = final.store.log ∧
      after.store.cursors = final.store.cursors ∧ after.memory = final.memory ∧
      ∀ counter ∈ Tally.counters, (tallies.map counter).sum = counter whole := by
  subst author keeper
  obtain ⟨trail, joined⟩ := calls.joined sound kept
  obtain ⟨readable, arrived⟩ := joined.exhausted rfl
  have early := joined.early
  have late := joined.late
  have records := joined.stretch
  simp only at readable arrived early late records
  have found : Desk.cursor ⟨start.store, start.memory, final.source, around⟩ worker.cursors entity =
      start.cursor worker.cursors entity := by
    cases worker.cursors <;> rfl
  have bounded : ∀ entry ∈ final.source.entries entity,
      entry.sequence ≤ final.cursor worker.cursors entity := fun entry member =>
    Nat.le_trans (Source.le_extent_of_mem member) arrived
  rw [between_of_le bounded, ← found] at records
  have holds (further : start.cursor worker.cursors entity < final.source.extent entity) :
      worker.cursors.Holds (final.source.extent entity) := joined.holds rfl further
  have answers := Worker.processBatch_answers undisturbed lenient
    ⟨start.store, start.memory, final.source, around⟩ trivial joined.sound readable room
    joined.applied records (by rw [found]; exact holds)
  have ends := @Worker.processBatch_ends _ worker (· = now) entity
    (fun around => (undisturbed.clock around trivial).1) lenient.real
    ⟨start.store, start.memory, final.source, around⟩ joined.sound
  obtain ⟨whole, after, ran, ⟨exhausted, quarantined⟩, _, ended⟩ := (answers.and_ends ends).exec
  refine ⟨whole, after, ran, ?_⟩
  cases ended with
  | surrendered _ counted => exact absurd quarantined (counted whole rfl)
  | completed more completed =>
    have reach : whole.cursorAfter = final.cursor worker.cursors entity := by
      have earlyThere := completed.early
      have lateThere := completed.late
      have arrivedThere := completed.exhausted exhausted
      simp only [Worker.lane, found] at earlyThere lateThere arrivedThere
      omega
    have recordsThere := completed.stretch
    simp only [Worker.lane, reach] at recordsThere
    rw [between_of_le bounded, ← records] at recordsThere
    obtain ⟨rfl, sameRecords⟩ := Applied.unique (.refl _) joined.applied completed.applied
      recordsThere.symm
    have moved : (worker.lane entity (· = now)).Moved start
        (final.cursor worker.cursors entity) final := joined.moved
    have movedThere := completed.moved
    rw [reach] at movedThere
    have constant (time : Instant) (allowed : (worker.lane entity (· = now)).clock time) :
        time = now := allowed
    obtain ⟨memory, cursors⟩ := moved.unique movedThere constant rfl rfl
    refine ⟨sameRecords.rows.symm, sameRecords.log.symm, cursors, memory, ?_⟩
    intro counter counted
    rw [joined.counters counter counted, completed.counters counter counted]

/-- The first row that is read meets a locked store. -/
private def lockedOnce : Surroundings Bool where
  now locked := (.ofMillis 0, locked)
  cancelled locked := (false, locked)
  meet call locked :=
    match call with
    | .read .. => (if locked then some (.store .locked) else none, false)
    | _ => (none, locked)
  wait _ locked := locked

private def oneByOne : Worker Bool :=
  ⟨lockedOnce, "sync", .store, ⟨1, false, some 25, false, false, .immediate 5 1⟩⟩

private def twoRecords : Desk Bool :=
  ⟨.empty, .start, .memory ⟨["\x7b\"id\":\"a\",\"change\":\"remove\"\x7d", "none"], []⟩, true⟩

private def atOnce : Worker Unit :=
  ⟨motionless (.ofMillis 0), "sync", .store, ⟨3, true, none, false, false, .standard⟩⟩

/-- A first call puts its first record off, and a second one deals with both in
windows of one record; so does a single window. -/
theorem calls_agree_with_whole_deferred_once :
    ∃ (final : Desk Bool) (tallies : List Tally) (whole : Tally) (after : Desk Unit),
      tallies.map (·.deferred) = [1, 0] ∧ tallies.map (·.batches) = [1, 3] ∧
      (atOnce.processBatch .contact).exec
        ⟨twoRecords.store, twoRecords.memory, final.source, ()⟩ = (.ok whole, after) ∧
      after.store.rows = final.store.rows ∧ after.store.log = final.store.log ∧
      after.store.cursors = final.store.cursors ∧ after.memory = final.memory ∧
      ∀ counter ∈ Tally.counters, (tallies.map counter).sum = counter whole := by
  have keeps : oneByOne.Keeps ⟨"sync", .store, .contact, (· = .ofMillis 0)⟩ :=
    ⟨rfl, rfl, fun _ => rfl, rfl⟩
  have deferred := @exec_of_answer _ _ (oneByOne.serve .contact (.untilIdle none))
    { twoRecords with around := true }
    ⟨.contact, 1, 0, 0, 0, 0, 0, 0, 0, 0, 0, 1, 0, 0, 0, .deferred 1, false⟩ (by decide +kernel)
  generalize stored : ((oneByOne.serve .contact (.untilIdle none)).exec
    { twoRecords with around := true }).2 = between at deferred
  have drained := @exec_of_answer _ _ (oneByOne.serve .contact (.untilIdle none))
    { between with around := false }
    ⟨.contact, 3, 1, 0, 0, 0, 0, 0, 1, 1, 0, 0, 0, 0, 2, .exhausted, false⟩
    (by rw [← stored]; decide +kernel)
  have room : (Source.entries ((oneByOne.serve .contact (.untilIdle none)).exec
      { between with around := false }).2.source .contact).length < 3 := by
    rw [← stored]
    decide +kernel
  have calls := (Lane.Calls.none.served oneByOne keeps (.untilIdle none) true deferred).served
    oneByOne keeps (.untilIdle none) false drained
  have sound : twoRecords.source.Sound := trivial
  obtain ⟨whole, after, agrees⟩ := calls_agree_with_whole "sync" .store .contact (.ofMillis 0)
    sound calls (by decide) atOnce (motionless_calm _) rfl rfl ⟨rfl, rfl, rfl⟩ room ()
  exact ⟨_, _, whole, after, rfl, rfl, agrees⟩

end RecordSync.Run
