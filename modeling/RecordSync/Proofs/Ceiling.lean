import RecordSync.Proofs.Arrival

/-! Retries are bounded. A record whose attempts all fail stops each run before it, and
the failures of the database among them are counted; at the ceiling the record is given
up, and the run goes past it. -/

namespace RecordSync.Run

open RecordSync.Calendar RecordSync.Change RecordSync.Feed RecordSync.Record RecordSync.Store
open Work

variable {σ : Type}

/-- The same progress with one more record given up. -/
def Progress.oneMore (progress : Progress) : Progress :=
  { progress with tally := progress.tally.recordQuarantined }

theorem Progress.note_oneMore (progress : Progress) (options : Options) (sequence : Nat)
    (ending : Ending) :
    progress.oneMore.note options sequence ending =
      (progress.note options sequence ending).oneMore := by
  cases ending with
  | terminal outcome => cases outcome <;> rfl
  | quarantined => rfl
  | deferred => rfl

theorem Tally.absorb_oneMore (total batch : Tally) :
    total.recordQuarantined.absorb batch = (total.absorb batch).recordQuarantined := by
  simp only [absorb, recordQuarantined, Nat.add_right_comm _ 1]

theorem Tally.join_oneMore (total : Option Tally) (batch : Tally) :
    Tally.join total batch.recordQuarantined = (Tally.join total batch).recordQuarantined := by
  cases total <;> rfl

namespace Worker

variable {worker : Worker σ} {entity : Entity} {request : Request} {most : Option Nat}
  {start desk after spent : Desk σ} {entry : Entry} {arrival : Arrival σ} {progress : Progress}

/-! What was counted decides nothing about what is done. -/

theorem step_oneMore (progress : Progress) (entry : Entry) :
    worker.step entity progress.oneMore entry =
      Progress.oneMore <$> worker.step entity progress entry := by
  have same : progress.oneMore.stop = progress.stop := rfl
  unfold step
  rw [same]
  split
  · simp only [map_pure]
  · simp only [map_bind]
    congr 1
    funext cancelled
    cases cancelled with
    | true => rfl
    | false =>
      simp only [Bool.false_eq_true, ↓reduceIte, map_bind, map_pure]
      congr 1
      funext answer
      rw [Progress.note_oneMore]
      rfl

theorem foldlM_step_oneMore (entries : List Entry) (progress : Progress) :
    entries.foldlM (worker.step entity) progress.oneMore =
      Progress.oneMore <$> entries.foldlM (worker.step entity) progress := by
  induction entries generalizing progress with
  | nil => simp only [List.foldlM_nil, map_pure]
  | cons entry rest ih =>
    rw [List.foldlM_cons, List.foldlM_cons, step_oneMore, map_bind, bind_map_left]
    congr 1
    funext next
    exact ih next

theorem drainOn_oneMore (left : Nat) (total : Tally) (planned : Planned) :
    worker.drainOn entity most left total.recordQuarantined planned =
      Tally.recordQuarantined <$> worker.drainOn entity most left total planned := by
  induction left generalizing total planned with
  | zero => exact (map_pure _ _).symm
  | succ left ih =>
    have same : goesOn most total.recordQuarantined = goesOn most total := rfl
    unfold drainOn
    rw [same]
    split
    · simp only [map_bind]
      congr 1
      funext cursor
      congr 1
      funext window
      rw [Tally.absorb_oneMore]
      exact ih _ _
    · exact (map_pure _ _).symm

/-- A record that is given up counts once as failed and once as given up. -/
theorem carryOn_oneMore (arrival : Arrival σ) (progress : Progress) :
    worker.carryOn entity most arrival progress.oneMore =
      Tally.recordQuarantined <$> worker.carryOn entity most arrival progress := by
  unfold carryOn
  rw [foldlM_step_oneMore, bind_map_left, map_bind]
  congr 1
  funext reached
  have settled : worker.settle entity (worker.conclude arrival.page reached.oneMore) =
      worker.settle entity (worker.conclude arrival.page reached) := rfl
  have concluded : worker.conclude arrival.page reached.oneMore =
      (worker.conclude arrival.page reached).recordQuarantined := rfl
  rw [settled, concluded, map_bind, Tally.join_oneMore]
  congr 1
  funext _
  exact drainOn_oneMore _ _ _

theorem advanceCursor_serves
    (served : ∀ around, (worker.surroundings.meet (.advanceCursor entity) around).1 = none)
    {expected next : Nat} (there : desk.cursor worker.cursors entity = expected)
    (held : next ≤ greatestPosition) :
    (worker.advanceCursor entity expected next).Answers desk fun _ _ => True := by
  unfold advanceCursor
  apply (meet_serves served desk).bind
  intro _ between alike
  rw [← alike.cursor] at there
  cases place : worker.cursors with
  | memory =>
    rw [place] at there
    have moved : between.memory.advance entity expected next =
        .ok (between.memory.set entity next) := by
      simp only [MemoryCursors.advance, show between.memory.get entity = expected from there,
        ne_eq, not_true_eq_false, ↓reduceIte]
    apply Ends.of_get
    rw [moved]
    exact ⟨(), rfl, trivial⟩
  | store =>
    rw [place] at there
    have found : between.store.cursor entity = expected := there
    have within : ¬ greatestPosition < next := Nat.not_lt.mpr held
    have read : worker.now.exec between = _ := exec_ask _ between
    unfold Answers Ends
    rw [exec_bind_of_ok read, exec_onStore]
    simp only [Store.advanceCursor, found, within, ne_eq, not_true_eq_false, ↓reduceIte, Except.map]
    exact ⟨(), trivial, trivial⟩

/-- The end of a window is served wherever its cursor belongs. -/
theorem settle_serves
    (served : ∀ around, (worker.surroundings.meet (.advanceCursor entity) around).1 = none)
    {tally : Tally} (there : desk.cursor worker.cursors entity = tally.cursorBefore)
    (held : tally.cursorBefore < tally.cursorAfter → tally.cursorAfter ≤ greatestPosition) :
    (worker.settle entity tally).Answers desk fun _ _ => True := by
  unfold settle
  split
  · rename_i moves
    simp only [Bool.and_eq_true, decide_eq_true_eq] at moves
    apply (advanceCursor_serves served there (held moves.2)).bind
    intro _ advanced _
    unfold Answers Ends
    rw [exec_bind_of_ok (exec_attempt _ advanced)]
    exact ⟨(), rfl, trivial⟩
  · exact answers_pure _ trivial

/-- Once there is a reason to stop, the records behind are left alone. -/
theorem foldlM_step_of_stopped (stopped : progress.stop.isSome = true) (entries : List Entry) :
    entries.foldlM (worker.step entity) progress = pure progress := by
  induction entries with
  | nil => rfl
  | cons entry rest ih =>
    have skipped : worker.step entity progress entry = pure progress := by
      unfold step
      rw [if_pos stopped]
    rw [List.foldlM_cons, skipped, pure_bind, ih]

/-- What a run leaves that stopped before a record: so many failures are counted, and
the cursor and the quarantine do not tell of it. -/
structure StopsBefore (worker : Worker σ) (entity : Entity) (sequence count : Nat)
    (start : Desk σ) (result : Except SyncFault Tally) (after : Desk σ) : Prop where
  deferred : ∃ tally, result = .ok tally ∧ tally.stop = .deferred sequence ∧
    tally.cursorAfter < sequence
  cursor : after.cursor worker.cursors entity < sequence
  entries : after.store.quarantine.entriesFor entity sequence =
    start.store.quarantine.entriesFor entity sequence
  failures : after.store.failures entity sequence = count

/-- A record that is put off ends its run. -/
theorem carryOn_puts_off (real : worker.options.dryRun = false)
    (dependable : worker.Dependable entity entry.sequence)
    (approached : worker.Approached entity start entry arrival) {count : Nat}
    (putOff : arrival.desk.PutOff entity entry.sequence count desk) :
    (worker.carryOn entity most arrival
      (arrival.progress.note worker.options entry.sequence .deferred)).Ends desk
        fun result after => start.SameFeed after ∧ after.store.Booked ∧
          worker.StopsBefore entity entry.sequence count start result after := by
  have attended := putOff.toAttended
  have there : desk.cursor worker.cursors entity = arrival.progress.tally.cursorBefore := by
    rw [attended.toSameBeside.cursor attended.cursors, approached.cursor]
  have feed : start.SameFeed desk :=
    approached.toSameFeed.trans (.of_eq approached.sound attended.source)
  obtain ⟨batch, concluded, stop, before, reached⟩ : ∃ batch, worker.conclude arrival.page
      (arrival.progress.note worker.options entry.sequence .deferred) = batch ∧
      batch.stop = .deferred entry.sequence ∧
      batch.cursorBefore = arrival.progress.tally.cursorBefore ∧
      batch.cursorAfter = arrival.progress.through := ⟨_, rfl, rfl, rfl, rfl⟩
  have early : batch.cursorBefore ≤ batch.cursorAfter := by
    rw [before, reached]
    exact approached.early
  have ahead : batch.cursorAfter < entry.sequence := reached ▸ approached.ahead
  have stays : goesOn most (.join arrival.total batch) = false := by
    simp [goesOn, Tally.join_stop, stop]
  unfold carryOn
  rw [foldlM_step_of_stopped rfl, pure_bind, concluded, drainOn_of_stays stays]
  apply ((settle_serves dependable.advanceCursor (there.trans before.symm)
    fun _ => Nat.le_trans (Nat.le_of_lt ahead) dependable.held).and_ends (settle_keeps_forward real batch
      (there.trans before.symm) early feed.sound attended.booked)).bind_ends
  rintro _ after ⟨_, forward, _, untouched, cursor⟩
  have alone := untouched entry.sequence ahead
  refine ends_pure _ ⟨feed.trans forward.toSameFeed, forward.booked, ⟨_, rfl, ?_, ?_⟩, ?_, ?_, ?_⟩
  · rw [Tally.join_stop, stop]
  · rw [Tally.join_cursorAfter]
    exact ahead
  · rw [cursor rfl]
    exact ahead
  · rw [alone.entries, putOff.entries, approached.untouched.entries]
  · rw [alone.failures, putOff.failures]

/-- A record that was given up stays so for the rest of the run. -/
theorem carryOn_givenUp (most : Option Nat) (progress : Progress)
    (real : worker.options.dryRun = false) {count : Nat} {payload : String}
    (sound : desk.source.Sound) (booked : desk.store.Booked)
    (givenUp : desk.store.GivenUp entity entry.sequence count payload)
    (there : desk.cursor worker.cursors entity = progress.tally.cursorBefore)
    (passed : progress.through = entry.sequence)
    (early : progress.tally.cursorBefore ≤ entry.sequence)
    (behind : ∀ later ∈ arrival.behind, entry.sequence < later.sequence) :
    (worker.carryOn entity most arrival progress).Ends desk fun _ after =>
      desk.SameFeed after ∧ after.store.Booked ∧
        after.store.GivenUp entity entry.sequence count payload := by
  have apart : ∀ later ∈ arrival.behind, entry.sequence ≠ later.sequence :=
    fun later member => Nat.ne_of_lt (behind later member)
  unfold carryOn
  apply (foldlM_step_visited entity real arrival.behind progress booked).bind
  · intro fault after visited
    exact ⟨.of_eq sound visited.source, visited.booked,
      givenUp.apart (visited.others _ apart).toApart⟩
  · rintro reached attended ⟨onward, visited⟩
    have feed : desk.SameFeed attended := .of_eq sound visited.source
    have still := givenUp.apart (visited.others _ apart).toApart
    have far : entry.sequence ≤ reached.through := by
      rcases onward.through with same | ⟨later, member, same⟩
      · exact Nat.le_of_eq (passed.symm.trans same.symm)
      · exact same ▸ Nat.le_of_lt (behind later member)
    have further : entry.sequence ≤ (worker.conclude arrival.page reached).cursorAfter :=
      Nat.le_trans far (worker.through_le_cursorAfter _ _)
    have begun : (worker.conclude arrival.page reached).cursorBefore =
        progress.tally.cursorBefore := onward.cursorBefore
    have found : attended.cursor worker.cursors entity =
        (worker.conclude arrival.page reached).cursorBefore := by
      rw [visited.toSameBeside.cursor visited.cursors, there, begun]
    apply (settle_keeps_forward real _ found (begun ▸ Nat.le_trans early further) feed.sound
      visited.booked).bind
    · rintro fault after ⟨forward, apart, _⟩
      exact ⟨feed.trans forward.toSameFeed, forward.booked, still.apart (apart _)⟩
    · rintro _ settled ⟨forward, apart, _, cursor⟩
      apply (drainOn_forward real arrival.left _ _ forward.sound forward.booked).mono
      intro result after later
      refine ⟨(feed.trans forward.toSameFeed).trans later.toSameFeed, later.booked, ?_⟩
      exact (still.apart (apart _)).apart (later.apart _ ((cursor rfl).symm ▸ further))

/-- What a run does that gives a record up: the record counts once as failed and once as
given up, and the run goes on with the records behind it. If there are none in the window,
it ends like any that nothing stopped. -/
structure GoesPast (worker : Worker σ) (entity : Entity) (request : Request) (start : Desk σ)
    (entry : Entry) (arrival : Arrival σ) (count : Nat) (result : Except SyncFault Tally)
    (after : Desk σ) : Prop where
  givenUp : after.store.GivenUp entity entry.sequence count entry.delivery.payload
  goesOn : ∃ dealt, dealt.store.GivenUp entity entry.sequence count entry.delivery.payload ∧
    (Tally.recordQuarantined <$> worker.carryOn entity request.most arrival
      { arrival.progress with through := entry.sequence }).exec dealt = (result, after) ∧
    ∀ next rest, arrival.behind = next :: rest → worker.Reaches entity request start next
      { arrival with
        behind := rest
        progress := { arrival.progress with
          tally := arrival.progress.tally.recordQuarantined, through := entry.sequence }
        desk := dealt }
  unstopped :
    let batch := worker.conclude arrival.page { arrival.progress with through := entry.sequence }
    (batch.stop = .exhausted ∨ batch.stop = .windowFull) ∧ entry.sequence ≤ batch.cursorAfter

/-- A record that is given up is gone past. -/
theorem Reaches.goes_past (reaches : worker.Reaches entity request start entry arrival)
    (real : worker.options.dryRun = false)
    (approached : worker.Approached entity start entry arrival) {count : Nat}
    (dealt : (worker.step entity arrival.progress entry).exec arrival.desk =
      (.ok (arrival.progress.note worker.options entry.sequence .quarantined), desk))
    (attended : arrival.desk.Attended desk)
    (givenUp : desk.store.GivenUp entity entry.sequence count entry.delivery.payload) :
    (worker.carryOn entity request.most arrival
      (arrival.progress.note worker.options entry.sequence .quarantined)).Ends desk
        fun result after => start.SameFeed after ∧ after.store.Booked ∧
          worker.GoesPast entity request start entry arrival count result after := by
  have there : desk.cursor worker.cursors entity = arrival.progress.tally.cursorBefore := by
    rw [attended.toSameBeside.cursor attended.cursors, approached.cursor]
  have feed : start.SameFeed desk :=
    approached.toSameFeed.trans (.of_eq approached.sound attended.source)
  have before := Nat.le_of_lt (Nat.lt_of_le_of_lt approached.early approached.ahead)
  have rest := carryOn_givenUp request.most
    (arrival.progress.note worker.options entry.sequence .quarantined) real feed.sound
    attended.booked givenUp there rfl before approached.behind
  unfold Ends at rest ⊢
  refine ⟨feed.trans rest.1, rest.2.1, rest.2.2, ⟨desk, givenUp, ?_, ?_⟩, ?_,
    worker.through_le_cursorAfter arrival.page { arrival.progress with through := entry.sequence }⟩
  · rw [← carryOn_oneMore]
    rfl
  · intro next later behind
    exact reaches.next behind dealt approached.going
  · simp only [conclude, approached.going, Option.getD_none]
    split
    · exact .inl rfl
    · exact .inr rfl

/-- One run that comes to a record and uses up its attempts on it. -/
theorem Reaches.ends (reaches : worker.Reaches entity request start entry arrival)
    (real : worker.options.dryRun = false)
    (dependable : worker.Dependable entity entry.sequence) (sound : start.source.Sound)
    (booked : start.store.Booked) {fault : SyncFault} {now : Instant}
    (out : worker.RunsOut entry arrival.desk fault now spent)
    (few : start.store.failures entity entry.sequence < worker.ceiling) :
    (worker.serve entity request).Ends start fun result after =>
      start.SameFeed after ∧ after.store.Booked ∧
        let count := start.store.failures entity entry.sequence + fault.isDatabase.toNat
        if count < worker.ceiling then
          worker.StopsBefore entity entry.sequence count start result after
        else worker.GoesPast entity request start entry arrival count result after := by
  have approached := reaches.approached real sound booked
  have same := approached.untouched.failures
  dsimp only
  unfold Ends
  rw [reaches.exec real]
  split
  · rename_i below
    obtain ⟨progress, dealt, ran, rfl, putOff⟩ := (out.puts_off real approached.going dependable
      approached.booked (by
        intro counted
        rw [same]
        simpa [counted] using below)).exec
    rw [exec_bind_of_ok ran]
    rw [same] at putOff
    exact carryOn_puts_off real dependable approached putOff
  · rename_i reached
    have counted : fault.isDatabase = true := by
      cases is : fault.isDatabase with
      | true => rfl
      | false => simp [is, few] at reached
    simp only [counted, Bool.toNat_true] at reached ⊢
    obtain ⟨progress, dealt, ran, rfl, attended, givenUp⟩ := (out.gives_up real approached.going
      dependable approached.booked counted (by rw [same]; omega)).exec
    rw [exec_bind_of_ok ran]
    rw [same] at givenUp
    exact reaches.goes_past real approached ran attended givenUp

end Worker

/-- What may happen between two runs: the feed grows, and the store is used in any way
that keeps its tables in order and lets one record's failures be. -/
structure Desk.Meanwhile (before : Desk σ) (entity : Entity) (sequence : Nat) (after : Desk σ) :
    Prop where
  feed : before.source.GrowsInto after.source
  booked : before.store.Booked → after.store.Booked
  failures : after.store.failures entity sequence = before.store.failures entity sequence

namespace Worker

/-- Runs of a worker, one after the other, each of which comes to a record and uses up
its attempts on it; with the faults that the last attempts met. -/
inductive Tried (worker : Worker σ) (entity : Entity) (entry : Entry) (first : Desk σ) :
    List SyncFault → Desk σ → Prop where
  | start : Tried worker entity entry first [] first
  | run {faults : List SyncFault} {rested start spent after : Desk σ} {request : Request}
      {arrival : Arrival σ} {fault : SyncFault} {now : Instant} {result : Except SyncFault Tally}
      (tried : Tried worker entity entry first faults rested)
      (meanwhile : rested.Meanwhile entity entry.sequence start)
      (reaches : worker.Reaches entity request start entry arrival)
      (out : worker.RunsOut entry arrival.desk fault now spent)
      (ran : (worker.serve entity request).exec start = (result, after)) :
      Tried worker entity entry first (faults ++ [fault]) after

variable {worker : Worker σ} {entity : Entity} {entry : Entry} {first rested : Desk σ}
  {faults : List SyncFault}

theorem countP_concat (faults : List SyncFault) (fault : SyncFault) :
    (faults ++ [fault]).countP (·.isDatabase) =
      faults.countP (·.isDatabase) + fault.isDatabase.toNat := by
  rw [List.countP_append, List.countP_singleton]
  cases fault.isDatabase <;> rfl

/-- Below the ceiling the ledger counts the runs whose last attempt met a fault of the
database. -/
theorem Tried.counted (tried : worker.Tried entity entry first faults rested)
    (real : worker.options.dryRun = false)
    (dependable : worker.Dependable entity entry.sequence) (sound : first.source.Sound)
    (booked : first.store.Booked) (unlisted : ¬ first.store.Lists entity entry.sequence)
    (few : faults.countP (·.isDatabase) < worker.ceiling) :
    rested.source.Sound ∧ rested.store.Booked ∧
      rested.store.failures entity entry.sequence = faults.countP (·.isDatabase) := by
  induction tried with
  | start => exact ⟨sound, booked, failures_of_not_lists unlisted⟩
  | @run faults rested start spent after request arrival fault now result tried meanwhile reaches
      out ran ih =>
    rw [countP_concat] at few ⊢
    obtain ⟨soundThere, bookedThere, failures⟩ := ih (by omega)
    have same := meanwhile.failures.trans failures
    obtain ⟨feed, bookedAfter, outcome⟩ := (reaches.ends real dependable
      (meanwhile.feed.sound soundThere) (meanwhile.booked bookedThere) out (by omega)).of_exec ran
    dsimp only at outcome
    rw [same, if_pos few] at outcome
    exact ⟨feed.sound, bookedAfter, outcome.failures⟩

/-- Whatever happens between the runs, and whatever becomes of other records in them: a
record whose attempts all fail stops each run before it, with as many failures in the
ledger as runs so far ended on it with a fault of the database, until these are as many
as the ceiling says. That run gives the record up and goes past it. -/
theorem given_up_at_ceiling {start spent after : Desk σ} {request : Request} {arrival : Arrival σ}
    {fault : SyncFault} {now : Instant} {result : Except SyncFault Tally}
    (real : worker.options.dryRun = false)
    (dependable : worker.Dependable entity entry.sequence) (sound : first.source.Sound)
    (booked : first.store.Booked) (unlisted : ¬ first.store.Lists entity entry.sequence)
    (tried : worker.Tried entity entry first faults rested)
    (few : faults.countP (·.isDatabase) < worker.ceiling)
    (meanwhile : rested.Meanwhile entity entry.sequence start)
    (reaches : worker.Reaches entity request start entry arrival)
    (out : worker.RunsOut entry arrival.desk fault now spent)
    (ran : (worker.serve entity request).exec start = (result, after)) :
    let count := (faults ++ [fault]).countP (·.isDatabase)
    (worker.step entity arrival.progress entry).exec arrival.desk =
      (arrival.progress.note worker.options entry.sequence <$>
        worker.deferOrSurrender entity entry (decode entry.delivery) fault now).exec spent ∧
    if count < worker.ceiling then
      worker.StopsBefore entity entry.sequence count start result after
    else worker.GoesPast entity request start entry arrival worker.ceiling result after := by
  obtain ⟨soundThere, bookedThere, failures⟩ :=
    tried.counted real dependable sound booked unlisted few
  have same := meanwhile.failures.trans failures
  have soundNow := meanwhile.feed.sound soundThere
  have bookedNow := meanwhile.booked bookedThere
  refine ⟨out.exec_step real (reaches.approached real soundNow bookedNow).going, ?_⟩
  obtain ⟨_, _, outcome⟩ :=
    (reaches.ends real dependable soundNow bookedNow out (by omega)).of_exec ran
  dsimp only at outcome ⊢
  rw [same, ← countP_concat] at outcome
  split at outcome
  · rename_i below
    rw [if_pos below]
    exact outcome
  · rename_i reached
    have exact_count : (faults ++ [fault]).countP (·.isDatabase) = worker.ceiling := by
      have counted := countP_concat faults fault
      have one := Bool.toNat_le fault.isDatabase
      omega
    rw [if_neg reached, ← exact_count]
    exact outcome

/-- Each reading of a row meets the next fault that is laid out for it. -/
private def stumbling : Surroundings (List SyncFault) where
  now around := (.ofMillis 0, around)
  cancelled around := (false, around)
  meet call around :=
    match call, around with
    | .read .., fault :: rest => (some fault, rest)
    | _, around => (none, around)
  wait _ around := around

private def stumbler : Worker (List SyncFault) :=
  ⟨stumbling, "sync", .store, ⟨10, false, some 25, false, false, .immediate 2 2⟩⟩

private def removals : MemoryFeed :=
  ⟨["\x7b\"id\":\"a\",\"change\":\"remove\"\x7d", "\x7b\"id\":\"b\",\"change\":\"remove\"\x7d"], []⟩

private def removal : Entry := ⟨1, .ofText "contact" "\x7b\"id\":\"a\",\"change\":\"remove\"\x7d"⟩

private def removalPage : Page := ⟨MemoryFeed.entries removals .contact, 2⟩

private theorem decode_removal : decode removal.delivery = .removed .contact "a" := by
  decide +kernel

private theorem stumble {desk : Desk (List SyncFault)} {fault : SyncFault} {rest : List SyncFault}
    (around : desk.around = fault :: rest) (transient : fault.isTransient = true) :
    (stumbler.applyOnce (decode removal.delivery)).exec desk =
      (.ok (.error (fault, .ofMillis 0)), { desk with around := rest }) := by
  obtain ⟨store, memory, source, _⟩ := desk
  cases around
  have met : (stumbler.applyOnce (.removed .contact "a")).exec
      ⟨store, memory, source, fault :: rest⟩ = exec (if fault.isTransient then
        return .error (fault, .ofMillis 0) else throw fault) ⟨store, memory, source, rest⟩ := rfl
  rw [decode_removal, met, if_pos transient]
  rfl

private theorem stumbles_out {desk : Desk (List SyncFault)} {first last : SyncFault}
    {rest : List SyncFault} (around : desk.around = first :: last :: rest)
    (one : first.isTransient = true) (two : last.isTransient = true) :
    stumbler.RunsOut removal desk last (.ofMillis 0) { desk with around := rest } := by
  refine .intro rfl (.again (.first (stumble around one)) rfl rfl ?_)
  exact stumble rfl two

private theorem stumbler_reaches {desk : Desk (List SyncFault)}
    (feed : desk.source = .memory removals) (there : desk.store.cursor .contact = 0) :
    stumbler.Reaches .contact .batch desk removal
      ⟨none, 0, removalPage, (MemoryFeed.entries removals .contact).tail,
        stumbler.opened .contact 0 [], desk⟩ := by
  obtain ⟨store, memory, _, around⟩ := desk
  cases feed
  have loaded : (stumbler.loadCursor .contact).exec ⟨store, memory, .memory removals, around⟩ =
      (.ok 0, ⟨store, memory, .memory removals, around⟩) := by
    rw [← there]
    rfl
  have opened : (stumbler.openWindow .contact none []).exec
      ⟨store, memory, .memory removals, around⟩ = (.ok (removalPage, stumbler.opened .contact 0 []),
        ⟨store, memory, .memory removals, around⟩) := by
    unfold openWindow
    rw [exec_bind_of_ok loaded]
    rfl
  have shape : removalPage.entries =
      [] ++ removal :: (MemoryFeed.entries removals .contact).tail := rfl
  exact .intro .start opened shape rfl rfl

private theorem stumbler_dependable : stumbler.Dependable .contact removal.sequence :=
  ⟨by decide, fun _ => rfl, fun _ _ => rfl, fun _ _ => rfl⟩

private def unstarted : Desk (List SyncFault) := ⟨.empty, .start, .memory removals, []⟩

private theorem unstarted_unlisted : ¬ unstarted.store.Lists .contact removal.sequence := by
  rintro ⟨_, member, _⟩
  cases member

private theorem another_run {rested : Desk (List SyncFault)} {faults : List SyncFault}
    {first last : SyncFault} (tried : stumbler.Tried .contact removal unstarted faults rested)
    (feed : rested.source = .memory removals) (there : rested.store.cursor .contact = 0)
    (one : first.isTransient = true) (two : last.isTransient = true)
    (few : (faults ++ [last]).countP (·.isDatabase) < stumbler.ceiling) :
    ∃ after, stumbler.Tried .contact removal unstarted (faults ++ [last]) after ∧
      after.source = .memory removals ∧ after.store.cursor .contact = 0 := by
  rw [countP_concat] at few
  obtain ⟨sound, booked, failures⟩ := tried.counted rfl stumbler_dependable trivial empty_booked
    unstarted_unlisted (by omega)
  let start : Desk (List SyncFault) := { rested with around := [first, last] }
  have meanwhile : rested.Meanwhile .contact removal.sequence start :=
    ⟨⟨.refl _, rfl⟩, id, rfl⟩
  have reaches := @stumbler_reaches start feed there
  have out := @stumbles_out start first last [] rfl one two
  rcases ran : (stumbler.serve .contact .batch).exec start with ⟨result, after⟩
  obtain ⟨same, _, outcome⟩ := (reaches.ends rfl stumbler_dependable sound booked out (by
    show rested.store.failures _ _ < _
    omega)).of_exec ran
  dsimp only at outcome
  rw [show start.store.failures _ _ = _ from failures, if_pos few] at outcome
  refine ⟨after, tried.run meanwhile reaches out ran, ?_, Nat.lt_one_iff.mp outcome.cursor⟩
  obtain ⟨marks, kept⟩ := same.marks
  rw [kept, show start.source = _ from feed]
  rfl

/-- A locked store, a race and a locked store again, each as the last fault of a run: with
a ceiling of two the third run gives the record up and goes past it. -/
theorem given_up_at_ceiling_third_run :
    ∃ (rested start : Desk (List SyncFault)) (arrival : Arrival (List SyncFault))
      (result : Except SyncFault Tally) (after : Desk (List SyncFault)),
      stumbler.Tried .contact removal unstarted
        [.store .locked, .constraint .contact "a" (.reported "race")] rested ∧
      stumbler.GoesPast .contact .batch start removal arrival 2 result after := by
  obtain ⟨first, triedOnce, feed, there⟩ := @another_run unstarted []
    (.constraint .contact "a" (.reported "race")) (.store .locked) .start rfl rfl rfl rfl
    (by decide)
  obtain ⟨rested, tried, feed, there⟩ := @another_run first [.store .locked] (.store .locked)
    (.constraint .contact "a" (.reported "race")) triedOnce feed there rfl rfl (by decide)
  let start : Desk (List SyncFault) := { rested with around := [.store .locked, .store .locked] }
  have meanwhile : rested.Meanwhile .contact removal.sequence start :=
    ⟨⟨.refl _, rfl⟩, id, rfl⟩
  have sound : unstarted.source.Sound := trivial
  have reaches := @stumbler_reaches start feed there
  have out := @stumbles_out start (.store .locked) (.store .locked) [] rfl rfl rfl
  rcases ran : (stumbler.serve .contact .batch).exec start with ⟨result, after⟩
  have outcome := (given_up_at_ceiling rfl stumbler_dependable sound empty_booked
    unstarted_unlisted tried (by decide) meanwhile reaches out ran).2
  rw [if_neg (by decide)] at outcome
  exact ⟨rested, start, _, _, _, tried, outcome⟩

end Worker

end RecordSync.Run
