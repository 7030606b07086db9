import RecordSync.Proofs.Limits
import RecordSync.Proofs.Separation

/-! What is pending lies ahead. The ledger of failures holds records ahead of the cursor
alone, as long as it is cleared whenever it is meant to be, and none that the last run
which dealt with it gave up. -/

namespace RecordSync

open RecordSync.Calendar RecordSync.Feed RecordSync.Record RecordSync.Run RecordSync.Store

namespace Store

variable {store after : Store} {attempts : List Attempt} {attempt : Attempt} {entity : Entity}
  {sequence : Nat} {externalId : Option String} {error : String} {now : Instant}

/-- Every line of the ledger counts a failure at least. -/
def Counted (store : Store) : Prop :=
  ∀ entity, ∀ attempt ∈ store.attempts.get entity, 1 ≤ attempt.attempts

theorem one_le_of_mem_addFailure (counted : ∀ attempt ∈ attempts, 1 ≤ attempt.attempts)
    (member : attempt ∈ addFailure sequence externalId error now attempts) :
    1 ≤ attempt.attempts := by
  induction attempts with
  | nil =>
    rw [List.mem_singleton.mp member]
  | cons first rest ih =>
    obtain ⟨one, others⟩ := List.forall_mem_cons.mp counted
    unfold addFailure at member
    split at member
    · rcases List.mem_cons.mp member with rfl | later
      · exact Nat.le_add_left 1 _
      · exact others attempt later
    · split at member
      · rcases List.mem_cons.mp member with rfl | there
        · exact Nat.le_refl 1
        · exact counted attempt there
      · rcases List.mem_cons.mp member with rfl | later
        · exact one
        · exact ih others later

theorem Counted.set (counted : store.Counted)
    (ledger : after.attempts = store.attempts.set entity attempts)
    (ones : ∀ attempt ∈ attempts, 1 ≤ attempt.attempts) : after.Counted := by
  intro about attempt member
  rw [ledger] at member
  by_cases same : about = entity
  · subst same
    rw [PerEntity.get_set_same] at member
    exact ones attempt member
  · rw [PerEntity.get_set_of_ne _ _ same] at member
    exact counted about attempt member

theorem Counted.filter (counted : store.Counted) {keeps : Attempt → Bool}
    (ledger : after.attempts =
      store.attempts.set entity ((store.attempts.get entity).filter keeps)) : after.Counted :=
  counted.set ledger fun attempt member => counted entity attempt (List.mem_filter.mp member).1

theorem Counted.congr (counted : store.Counted) (ledger : after.attempts = store.attempts) :
    after.Counted := by
  unfold Counted
  rwa [ledger]

end Store

namespace Run

open Work

variable {σ : Type}

structure Desk.InOrder (desk : Desk σ) : Prop where
  sound : desk.source.Sound
  booked : desk.store.Booked
  counted : desk.store.Counted

/-- A desk that differs in its ledger and its quarantine, if at all. -/
theorem Desk.InOrder.beside {before after : Desk σ} (inOrder : before.InOrder)
    (source : after.source = before.source) (booked : after.store.Booked)
    (counted : after.store.Counted) : after.InOrder :=
  ⟨source ▸ inOrder.sound, booked, counted⟩

theorem Desk.InOrder.alike {before after : Desk σ} (inOrder : before.InOrder)
    (alike : before.Alike after) : after.InOrder :=
  inOrder.beside alike.source (alike.store ▸ inOrder.booked) (alike.store ▸ inOrder.counted)

namespace Worker

theorem inOrder_preserved (worker : Worker σ) (entity : Entity) :
    worker.Preserves entity (fun _ => True) Desk.InOrder where
  alike := fun alike inOrder => inOrder.alike alike
  fetched := by
    intro before after position page fetched store _ inOrder
    exact ⟨⟨(Source.fetch_spec inOrder.sound fetched).2.1, store ▸ inOrder.booked,
      store ▸ inOrder.counted⟩, fun _ _ => trivial⟩
  applied := by
    intro before after entry outcome now _ beside applied inOrder
    have attempts := apply_attempts applied
    exact inOrder.beside beside.source (inOrder.booked.beside attempts (apply_quarantine applied))
      (inOrder.counted.congr attempts)
  counted := by
    intro before after entry fault now attempts beside recorded inOrder
    refine inOrder.beside beside.source (inOrder.booked.recordFailure recorded) ?_
    obtain ⟨_, ledger⟩ := recordFailure_eq_ok recorded
    exact inOrder.counted.set (by rw [ledger]) fun _ =>
      one_le_of_mem_addFailure (inOrder.counted entity)
  surrendered := by
    intro before after entry fault now attempts id _ _ beside given inOrder
    obtain ⟨_, _, _, _, _, _, _, ledger⟩ := surrender_eq_ok given
    exact inOrder.beside beside.source (inOrder.booked.surrender given)
      (inOrder.counted.filter ledger)
  moved := by
    intro before after position now alike inOrder
    refine (inOrder.beside ?_ ?_ ?_).alike alike
    · exact before.moved_source _ _ _ _
    · exact inOrder.booked.beside (before.moved_attempts _ _ _ _) (before.moved_quarantine _ _ _ _)
    · exact inOrder.counted.congr (before.moved_attempts _ _ _ _)
  cleared := by
    intro before after position beside cleared inOrder
    exact inOrder.beside beside.source (inOrder.booked.clearAttempts cleared)
      (inOrder.counted.filter (by rw [clearAttempts_eq_ok cleared]))

def clear (worker : Worker σ) (entity : Entity) (position : Nat) : Work σ Unit := do
  worker.meet (.clearAttempts entity)
  onStore fun store => (store.clearAttempts entity position).map ((), ·)

/-- A run comes to clear the ledger up to a position: a window is over, and moved the cursor
there. -/
inductive ComesToClear (worker : Worker σ) (entity : Entity) (request : Request) (start : Desk σ) :
    Nat → Desk σ → Prop where
  | intro {interim : Interim σ} {page : Page} {opening progress : Progress}
      {fetched attended moved : Desk σ}
      (passes : worker.Passes entity request.most
        ⟨none, request.further entity start.source, [], start⟩ interim)
      (opened : (worker.openWindow entity none interim.planned).exec interim.desk =
        (.ok (page, opening), fetched))
      (passed : (page.entries.foldlM (worker.step entity) opening).exec fetched =
        (.ok progress, attended))
      (moves : worker.moves (worker.conclude page progress) = true)
      (advanced : (worker.advanceCursor entity (worker.conclude page progress).cursorBefore
        (worker.conclude page progress).cursorAfter).exec attended = (.ok (), moved)) :
      ComesToClear worker entity request start (worker.conclude page progress).cursorAfter moved

/-- Whenever a run comes to clear the ledger, that succeeds. -/
def Clears (worker : Worker σ) (entity : Entity) (request : Request) (start : Desk σ) : Prop :=
  ∀ position desk, worker.ComesToClear entity request start position desk →
    ((worker.clear entity position).exec desk).1 = .ok ()

/-- A run comes to a record and deals with it; the record ends in some way, or a fault ends
the run there. -/
inductive DealsWith (worker : Worker σ) (entity : Entity) (request : Request) (start : Desk σ) :
    Nat → Except SyncFault Ending → Prop where
  | ended {entry : Entry} {arrival : Arrival σ} {ending : Ending} {progress : Progress}
      {after : Desk σ} (reaches : worker.Reaches entity request start entry arrival)
      (ran : (worker.attend entity arrival.progress entry).exec arrival.desk =
        (.ok (some ending, progress), after)) :
      DealsWith worker entity request start entry.sequence (.ok ending)
  | failed {entry : Entry} {arrival : Arrival σ} {fault : SyncFault} {after : Desk σ}
      (reaches : worker.Reaches entity request start entry arrival)
      (ran : (worker.attend entity arrival.progress entry).exec arrival.desk =
        (.error fault, after)) :
      DealsWith worker entity request start entry.sequence (.error fault)

end Worker

/-- The ledger of a kind holds records ahead of the cursor alone. -/
def Desk.Ahead (desk : Desk σ) (place : CursorPlace) (entity : Entity) : Prop :=
  ∀ sequence, desk.store.Lists entity sequence → desk.cursor place entity < sequence

/-- With the same lines the ledger is ahead of a cursor that is no further. -/
theorem Desk.Ahead.of_same {before after : Desk σ} {place : CursorPlace} {entity : Entity}
    (ahead : before.Ahead place entity)
    (attempts : after.store.attempts.get entity = before.store.attempts.get entity)
    (cursor : after.cursor place entity ≤ before.cursor place entity) : after.Ahead place entity :=
  fun sequence listed => Nat.lt_of_le_of_lt cursor (ahead sequence (listed.of_same attempts))

/-- What the records of a window leave in the ledger lies ahead of its cursor as they do. -/
theorem Desk.Visited.ahead {worker : Worker σ} {entity : Entity} {before after : Desk σ}
    {page : List Entry} (visited : before.Visited entity page after)
    (inside : ∀ entry ∈ page, before.cursor worker.cursors entity < entry.sequence)
    (ahead : before.Ahead worker.cursors entity) : after.Ahead worker.cursors entity := by
  intro sequence listed
  rw [visited.toSameBeside.cursor visited.cursors]
  by_cases apart : ∀ entry ∈ page, sequence ≠ entry.sequence
  · exact ahead sequence ((visited.others sequence apart).listed listed)
  · push Not at apart
    obtain ⟨entry, member, rfl⟩ := apart
    exact inside entry member

namespace Worker

variable {worker : Worker σ} {entity : Entity} {request : Request}
  {start before between after desk : Desk σ} {interim : Interim σ}

/-- What a part of a run does to the ledger: it stays ahead of the cursor, and a line is new
only if the run dealt with its record. -/
structure KeepsLedger (worker : Worker σ) (entity : Entity) (request : Request)
    (start before after : Desk σ) : Prop where
  ahead : before.Ahead worker.cursors entity → after.Ahead worker.cursors entity
  new : ∀ sequence, after.store.Lists entity sequence → before.store.Lists entity sequence ∨
    ∃ result, worker.DealsWith entity request start sequence result

theorem KeepsLedger.trans (one : worker.KeepsLedger entity request start before between)
    (two : worker.KeepsLedger entity request start between after) :
    worker.KeepsLedger entity request start before after := by
  refine ⟨fun was => two.ahead (one.ahead was), fun sequence listed => ?_⟩
  rcases two.new sequence listed with there | deals
  · exact one.new sequence there
  · exact .inr deals

theorem KeepsLedger.of_reread (reread : before.Reread after) :
    worker.KeepsLedger entity request start before after where
  ahead was := was.of_same (by rw [reread.store]) (Nat.le_of_eq (reread.cursor _ _))
  new _ listed := .inl (listed.of_same (by rw [reread.store]))

/-- A record that a run comes to has a line afterwards only if it was dealt with. -/
theorem Reaches.new {entry : Entry} {arrival : Arrival σ}
    (reaches : worker.Reaches entity request start entry arrival)
    (real : worker.options.dryRun = false) (booked : arrival.desk.store.Booked) :
    (worker.step entity arrival.progress entry).Ends arrival.desk fun _ after => ∀ sequence,
      after.store.Lists entity sequence → arrival.desk.store.Lists entity sequence ∨
        ∃ result, worker.DealsWith entity request start sequence result := by
  intro sequence listed
  by_cases here : sequence = entry.sequence
  · subst here
    rw [step_eq_attend, map_eq_pure_bind] at listed
    rcases ran : (worker.attend entity arrival.progress entry).exec arrival.desk with
      ⟨fault | answer, after⟩
    · exact .inr ⟨_, .failed reaches ran⟩
    · have attended := (worker.attend_ends entity _ entry _ real).of_exec ran
      rw [exec_bind_of_ok ran] at listed
      cases attended with
      | unreached stopped => exact .inl listed
      | cancelled going alike => exact .inl (alike.store ▸ listed)
      | dealt going dealt => exact .inr ⟨_, .ended reaches ran⟩
  · exact .inl ((step_untouched booked here real arrival.progress).2.listed listed)

/-- The records of a window from some record on. -/
theorem foldlM_step_new (real : worker.options.dryRun = false)
    (passes : worker.Passes entity request.most
      ⟨none, request.further entity start.source, [], start⟩ interim)
    {page : Page} {opening progress : Progress} {fetched : Desk σ}
    (opened : (worker.openWindow entity none interim.planned).exec interim.desk =
      (.ok (page, opening), fetched))
    {front rest : List Entry} (shape : page.entries = front ++ rest)
    (passed : (front.foldlM (worker.step entity) opening).exec fetched = (.ok progress, desk))
    (booked : desk.store.Booked) :
    (rest.foldlM (worker.step entity) progress).Ends desk fun _ after => ∀ sequence,
      after.store.Lists entity sequence → desk.store.Lists entity sequence ∨
        ∃ result, worker.DealsWith entity request start sequence result := by
  induction rest generalizing front progress desk with
  | nil => exact ends_pure _ fun _ listed => .inl listed
  | cons entry rest ih =>
    cases going : progress.stop with
    | some stop =>
      rw [foldlM_step_of_stopped (by rw [going]; rfl)]
      exact ends_pure _ fun _ listed => .inl listed
    | none =>
      have reaches : worker.Reaches entity request start entry
          ⟨interim.total, interim.left, page, rest, progress, desk⟩ :=
        .intro passes opened shape passed going
      have first := reaches.new real booked
      have visited := step_visited entity real (List.mem_singleton_self entry) progress booked
      rw [List.foldlM_cons]
      apply Ends.bind_exec
      · intro fault after ran
        exact first.of_exec ran
      · intro next after ran
        have further : ((front ++ [entry]).foldlM (worker.step entity) opening).exec fetched =
            (.ok next, after) := by
          rw [List.foldlM_append, exec_bind_of_ok passed, List.foldlM_cons, exec_bind_of_ok ran]
          rfl
        apply (ih (by rw [shape, List.append_assoc]; rfl) further (visited.of_exec ran).booked).mono
        intro _ final new sequence listed
        rcases new sequence listed with there | deals
        · exact first.of_exec ran sequence there
        · exact .inr deals

/-- Once the ledger is cleared, it holds records ahead of the position alone. -/
theorem clear_ends (worker : Worker σ) (entity : Entity) (position : Nat) (desk : Desk σ) :
    (worker.clear entity position).Ends desk fun result after =>
      (∀ place, after.cursor place entity = desk.cursor place entity) ∧
        (result = .ok () → ∀ sequence, after.store.Lists entity sequence → position < sequence) := by
  apply (worker.meet_onStore_atomic (.clearAttempts entity) _ desk).mono
  intro result after atomic
  cases result with
  | error fault => exact ⟨fun place => atomic.cursor place entity, nofun⟩
  | ok _ =>
    obtain ⟨done, beside⟩ := atomic
    obtain ⟨_, cleared, same⟩ := map_eq_ok_iff.mp done
    cases same
    have cursors := (clearAttempts_onlyAttempts cleared).cursors
    refine ⟨fun place => Desk.cursor_congr beside.memory cursors place entity, ?_⟩
    rintro - _ ⟨attempt, member, rfl⟩
    rw [clearAttempts_eq_ok cleared, PerEntity.get_set_same] at member
    simpa using (List.mem_filter.mp member).2

/-- Where the calls are served, a run clears the ledger whenever it comes to that. -/
theorem clears_of_served
    (served : ∀ around, (worker.surroundings.meet (.clearAttempts entity) around).1 = none)
    (place : worker.cursors = .store) : worker.Clears entity request start := by
  rintro _ desk (@⟨_, page, _, progress, _, attended, _, passes, opened, passed, moves, advanced⟩)
  have held : (worker.conclude page progress).cursorAfter ≤ greatestPosition :=
    ((worker.advanceCursor_ends entity _ _ attended).of_exec advanced).2.1 place
  have answers : (worker.clear entity (worker.conclude page progress).cursorAfter).Answers desk
      fun _ _ => True := by
    unfold clear
    apply (meet_serves served desk).bind
    intro _ met _
    unfold Answers Ends
    rw [exec_onStore, Store.clearAttempts, if_neg (Nat.not_lt.mpr held)]
    exact ⟨(), rfl, trivial⟩
  obtain ⟨_, same, _⟩ := answers
  exact same

/-- The end of a window that clears the ledger whenever it moved the cursor leaves it ahead
of the cursor. -/
theorem settle_ahead {tally : Tally} (ahead : desk.Ahead worker.cursors entity)
    (clears : ∀ moved, worker.moves tally = true →
      (worker.advanceCursor entity tally.cursorBefore tally.cursorAfter).exec desk = (.ok (), moved) →
        ((worker.clear entity tally.cursorAfter).exec moved).1 = .ok ()) :
    (worker.settle entity tally).Ends desk fun _ after => after.Ahead worker.cursors entity := by
  have kept {after : Desk σ} (alike : desk.Alike after) : after.Ahead worker.cursors entity :=
    ahead.of_same (by rw [alike.store]) (Nat.le_of_eq (alike.cursor _ _))
  unfold settle
  change Ends (if worker.moves tally then _ else _) desk _
  split
  · rename_i moves
    apply Ends.bind_exec
    · intro fault after ran
      exact kept ((worker.advanceCursor_ends entity _ _ desk).of_exec ran)
    · intro _ advanced ran
      obtain ⟨_, _, around, alike⟩ := (worker.advanceCursor_ends entity _ _ desk).of_exec ran
      obtain ⟨cursor, emptied⟩ := worker.clear_ends entity tally.cursorAfter advanced
      unfold Ends
      rw [exec_bind_of_ok (exec_attempt _ advanced)]
      intro sequence listed
      have there := emptied (clears advanced moves ran) sequence listed
      rwa [← desk.cursor_moved_same worker.cursors entity tally.cursorAfter (worker.reading around),
        ← alike.cursor, ← cursor] at there
  · exact ends_pure _ ahead

theorem window_keepsLedger (real : worker.options.dryRun = false)
    (clears : worker.Clears entity request start)
    (passes : worker.Passes entity request.most
      ⟨none, request.further entity start.source, [], start⟩ interim)
    (sound : interim.desk.source.Sound) (booked : interim.desk.store.Booked) :
    (worker.window entity interim.planned).Ends interim.desk fun _ after =>
      worker.KeepsLedger entity request start interim.desk after := by
  unfold window
  apply Ends.bind_exec
  · intro fault after ran
    exact .of_reread ((worker.openWindow_ends entity none _ _ sound).of_exec ran).1
  · rintro ⟨page, opening⟩ fetched opened
    obtain ⟨reread, opens⟩ := (worker.openWindow_ends entity none _ _ sound).of_exec opened
    obtain ⟨cursor, there, _, _, covers⟩ := opens _ rfl
    obtain rfl : cursor = interim.desk.cursor worker.cursors entity := there rfl
    have bookedStill : fetched.store.Booked := reread.store ▸ booked
    have inside : ∀ entry ∈ page.entries, fetched.cursor worker.cursors entity < entry.sequence := by
      rw [reread.cursor]
      exact fun entry member => (covers.mem member).2
    have visited := foldlM_step_visited entity real page.entries opening bookedStill
    have new := foldlM_step_new real passes opened (List.nil_append _).symm rfl bookedStill
    unfold finish
    apply Ends.bind_exec
    · intro fault after ran
      exact (KeepsLedger.of_reread reread).trans
        ⟨(visited.of_exec ran).ahead inside, new.of_exec ran⟩
    · intro progress attended ran
      have records : worker.KeepsLedger entity request start fetched attended :=
        ⟨(visited.of_exec ran).2.ahead inside, new.of_exec ran⟩
      have settled : (worker.settle entity (worker.conclude page progress)).Ends attended
          fun _ after => worker.KeepsLedger entity request start attended after :=
        ⟨fun ahead => settle_ahead ahead fun moved moves advanced =>
            clears _ _ (.intro passes opened ran moves advanced),
          fun sequence listed => .inl (worker.settle_lists entity _ attended entity sequence listed)⟩
      have whole := (KeepsLedger.of_reread reread).trans records
      apply settled.bind
      · intro fault after kept
        exact whole.trans kept
      · intro _ after kept
        exact ends_pure _ (whole.trans kept)

/-- What a run does from a window on, it does to the ledger as windows do. -/
theorem resume_keepsLedger (real : worker.options.dryRun = false)
    (clears : worker.Clears entity request start)
    (passes : worker.Passes entity request.most
      ⟨none, request.further entity start.source, [], start⟩ interim)
    (sound : interim.desk.source.Sound) (booked : interim.desk.store.Booked) :
    (worker.resume entity request.most interim).Ends interim.desk fun _ after =>
      worker.KeepsLedger entity request start interim.desk after := by
  obtain ⟨total, left, planned, desk⟩ := interim
  induction left generalizing total planned desk with
  | zero =>
    unfold resume
    apply (window_keepsLedger real clears passes sound booked).bind
    · intro fault after kept
      exact kept
    · intro window after kept
      exact ends_pure _ kept
  | succ left ih =>
    have keeps := window_keepsLedger real clears passes sound booked
    have forward := @window_forward _ worker entity desk real planned sound booked
    unfold resume
    apply Ends.bind_exec
    · intro fault after ran
      exact keeps.of_exec ran
    · intro window after ran
      cases goes : goesOn request.most (.join total window.1) with
      | false =>
        dsimp only
        rw [drainOn_of_stays goes]
        exact ends_pure _ (keeps.of_exec ran)
      | true =>
        obtain ⟨onward, _⟩ := forward.of_exec ran
        have further := ih _ _ after (.window passes rfl ran goes) onward.sound onward.booked
        dsimp only
        rw [drainOn_of_goes real goes]
        exact further.mono fun _ _ kept => (keeps.of_exec ran).trans kept

theorem serve_keepsLedger (real : worker.options.dryRun = false)
    (clears : worker.Clears entity request start) (sound : start.source.Sound)
    (booked : start.store.Booked) :
    (worker.serve entity request).Ends start fun _ after =>
      worker.KeepsLedger entity request start start after :=
  .congr (resume_keepsLedger real clears .start sound booked) (exec_serve request start)

/-- A record that a run gave up has no line when the run is over. -/
theorem DealsWith.unlisted {sequence : Nat}
    (deals : worker.DealsWith entity request start sequence (.ok .quarantined))
    (real : worker.options.dryRun = false) (sound : start.source.Sound)
    (booked : start.store.Booked) :
    (worker.serve entity request).Ends start fun _ after =>
      ¬ after.store.Lists entity sequence := by
  generalize ended : (Except.ok .quarantined : Except SyncFault Ending) = result at deals
  cases deals with
  | failed reaches ran => cases ended
  | @ended entry arrival ending progress dealt reaches ran =>
    cases ended
    have approached := reaches.approached real sound booked
    have attended := (worker.attend_ends entity _ entry _ real).of_exec ran
    generalize shape : (some Ending.quarantined, progress) = answer at attended
    cases attended with
    | unreached stopped => cases shape
    | cancelled going alike => cases shape
    | dealt going gaveUp =>
      cases shape
      obtain ⟨beside, ledger, _, _, record, only, rfl, sameSequence, _, given⟩ := gaveUp
      have keyed : ledger.quarantine.Keyed := only.quarantine ▸ approached.booked.quarantine
      have givenUp := keyed.givenUp given
      rw [sameSequence] at givenUp
      have stepped : (worker.step record.entity arrival.progress entry).exec arrival.desk =
          (.ok (arrival.progress.note worker.options entry.sequence .quarantined), dealt) := by
        rw [step_eq_attend, map_eq_pure_bind, exec_bind_of_ok ran]
        rfl
      have visited := (step_visited record.entity real (List.mem_singleton_self entry) _
        approached.booked).of_exec stepped
      have there : dealt.cursor worker.cursors record.entity =
          arrival.progress.tally.cursorBefore := by
        rw [visited.toSameBeside.cursor visited.cursors, approached.cursor]
      have rest := carryOn_givenUp request.most
        (arrival.progress.note worker.options entry.sequence .quarantined) real
        (visited.source ▸ approached.sound) visited.booked givenUp there rfl
        (Nat.le_of_lt (Nat.lt_of_le_of_lt approached.early approached.ahead)) approached.behind
      unfold Ends
      rw [reaches.exec real, exec_bind_of_ok stepped]
      exact rest.2.2.unlisted

end Worker

/-- A run of a worker over a kind of record, from a desk on. -/
structure Ran (σ : Type) where
  worker : Worker σ
  entity : Entity
  request : Request
  start : Desk σ

/-- A run that is not dry dealt with a record, which ended in some way or with a fault. -/
structure Ran.Dealt (run : Ran σ) (entity : Entity) (sequence : Nat)
    (result : Except SyncFault Ending) : Prop where
  real : run.worker.options.dryRun = false
  about : run.entity = entity
  deals : run.worker.DealsWith entity run.request run.start sequence result

/-- Of some runs, latest first, the last one that dealt with a record gave it up. -/
def LastGaveUp (runs : List (Ran σ)) (entity : Entity) (sequence : Nat) : Prop :=
  ∃ later run earlier, runs = later ++ run :: earlier ∧
    run.Dealt entity sequence (.ok .quarantined) ∧
      ∀ other ∈ later, ∀ result, ¬ other.Dealt entity sequence result

theorem LastGaveUp.cases {run : Ran σ} {runs : List (Ran σ)} {entity : Entity} {sequence : Nat}
    (gaveUp : LastGaveUp (run :: runs) entity sequence) :
    run.Dealt entity sequence (.ok .quarantined) ∨
      (∀ result, ¬ run.Dealt entity sequence result) ∧ LastGaveUp runs entity sequence := by
  obtain ⟨later, last, earlier, shape, deals, none⟩ := gaveUp
  rcases List.cons_eq_append_iff.mp shape with ⟨rfl, same⟩ | ⟨later, rfl, same⟩
  · cases same
    exact .inl deals
  · exact .inr ⟨none run (.head _), later, last, earlier, same, deals,
      fun other member => none other (.tail _ member)⟩

/-- What may go on where one worker keeps its cursors, with the runs so far, latest first:
runs with any options and in any surroundings, however they end, as long as the ledger is
cleared whenever a run comes to that; cursors put back; and a feed that grows or is opened
again. At first the ledger is empty. -/
inductive Tenure (place : CursorPlace) : List (Ran σ) → Desk σ → Prop where
  | start {desk : Desk σ} (sound : desk.source.Sound) (keyed : desk.store.quarantine.Keyed)
      (empty : desk.store.attempts = .both []) : Tenure place [] desk
  | grown {runs : List (Ran σ)} {desk : Desk σ} {source : Source} (tenure : Tenure place runs desk)
      (grows : desk.source.GrowsInto source) : Tenure place runs { desk with source }
  | reopened {runs : List (Ran σ)} {desk : Desk σ} (tenure : Tenure place runs desk) :
      Tenure place runs { desk with source := desk.source.remembering (.both .top) }
  | rewound {runs : List (Ran σ)} {desk after : Desk σ} {result : Except SyncFault Nat}
      (tenure : Tenure place runs desk) (worker : Worker σ) (keeper : worker.cursors = place)
      (entity : Entity) (around : σ)
      (ran : (worker.resetCursor entity).exec { desk with around } = (result, after)) :
      Tenure place runs after
  | served {runs : List (Ran σ)} {desk after : Desk σ} {result : Except SyncFault Tally}
      (tenure : Tenure place runs desk) (worker : Worker σ) (keeper : worker.cursors = place)
      (entity : Entity) (request : Request) (around : σ)
      (clears : worker.Clears entity request { desk with around })
      (ran : (worker.serve entity request).exec { desk with around } = (result, after)) :
      Tenure place (⟨worker, entity, request, { desk with around }⟩ :: runs) after

/-- The ledger at a desk, after some runs, is as it should be. -/
structure Desk.Tracks (desk : Desk σ) (place : CursorPlace) (runs : List (Ran σ)) : Prop
    extends desk.InOrder where
  ahead : ∀ entity, desk.Ahead place entity
  dropped : ∀ entity sequence, LastGaveUp runs entity sequence →
    ¬ desk.store.Lists entity sequence

namespace Desk.Tracks

variable {place : CursorPlace} {runs : List (Ran σ)} {desk after : Desk σ}

theorem start (sound : desk.source.Sound) (keyed : desk.store.quarantine.Keyed)
    (empty : desk.store.attempts = .both []) : desk.Tracks place [] := by
  have nothing (entity : Entity) : desk.store.attempts.get entity = [] := by
    rw [empty, PerEntity.get_both]
  refine ⟨⟨sound, ⟨fun entity => ?_, keyed⟩, fun entity attempt member => ?_⟩, ?_, ?_⟩
  · rw [nothing]
    exact List.Pairwise.nil
  · rw [nothing] at member
    cases member
  · rintro entity sequence ⟨attempt, member, _⟩
    rw [nothing] at member
    cases member
  · rintro entity sequence ⟨later, run, earlier, shape, _⟩
    cases later <;> cases shape

/-- Only cursors were put back, or the feed is another. -/
theorem elsewhere (tracks : desk.Tracks place runs) (sound : after.source.Sound)
    (attempts : after.store.attempts = desk.store.attempts)
    (quarantine : after.store.quarantine = desk.store.quarantine)
    (cursor : ∀ entity, after.cursor place entity ≤ desk.cursor place entity) :
    after.Tracks place runs where
  sound := sound
  booked := tracks.booked.beside attempts quarantine
  counted := tracks.counted.congr attempts
  ahead entity := (tracks.ahead entity).of_same (by rw [attempts]) (cursor entity)
  dropped entity sequence gaveUp listed :=
    tracks.dropped entity sequence gaveUp (listed.of_same (by rw [attempts]))

theorem rewound {worker : Worker σ} {entity : Entity} (tracks : desk.Tracks worker.cursors runs)
    (rewound : worker.Rewound entity desk after) : after.Tracks worker.cursors runs := by
  refine tracks.elsewhere (rewound.source ▸ tracks.sound) rewound.attempts rewound.quarantine ?_
  intro other
  by_cases same : other = entity
  · rw [same, rewound.at_start]
    exact Nat.zero_le _
  · exact Nat.le_of_eq (rewound.others _ _ (.inr same))

/-- A run that dealt with no record of a kind and left its lines and its cursor alone. -/
theorem undealt {run : Ran σ} {entity : Entity} (tracks : desk.Tracks place runs)
    (attempts : after.store.attempts.get entity = desk.store.attempts.get entity)
    (cursor : after.cursor place entity = desk.cursor place entity)
    (none : ∀ sequence result, ¬ run.Dealt entity sequence result) :
    after.Ahead place entity ∧ ∀ sequence, LastGaveUp (run :: runs) entity sequence →
      ¬ after.store.Lists entity sequence := by
  refine ⟨(tracks.ahead entity).of_same attempts (Nat.le_of_eq cursor),
    fun sequence gaveUp listed => ?_⟩
  obtain ⟨_, earlier⟩ := gaveUp.cases.resolve_left (none sequence _)
  exact tracks.dropped entity sequence earlier (listed.of_same attempts)

theorem served {worker : Worker σ} {entity : Entity} {request : Request}
    {result : Except SyncFault Tally} (tracks : desk.Tracks worker.cursors runs)
    (clears : worker.Clears entity request desk)
    (ran : (worker.serve entity request).exec desk = (result, after)) :
    after.Tracks worker.cursors (⟨worker, entity, request, desk⟩ :: runs) := by
  have inOrder := ((worker.inOrder_preserved entity).serve request tracks.toInOrder).of_exec ran
  have kinds (about : Entity) : after.Ahead worker.cursors about ∧ ∀ sequence,
      LastGaveUp (⟨worker, entity, request, desk⟩ :: runs) about sequence →
        ¬ after.store.Lists about sequence := by
    by_cases other : about ≠ entity
    · obtain ⟨spares, _⟩ :=
        (worker.serve_spares other request desk tracks.booked.quarantine).of_exec ran
      refine tracks.undealt spares.store.attempts ?_ fun _ _ dealt => other dealt.about.symm
      cases worker.cursors with
      | memory => exact spares.memory
      | store => simp only [Desk.cursor, Store.cursor, spares.store.cursors]
    · obtain rfl : about = entity := not_not.mp other
      cases real : worker.options.dryRun with
      | true =>
        have stored := (Worker.serve_storesNothing real request desk).of_exec ran
        refine tracks.undealt (by rw [stored.store])
          (Desk.cursor_congr stored.memory (by rw [stored.store]) _ _) fun _ _ dealt => ?_
        have wet : worker.options.dryRun = false := dealt.real
        rw [real] at wet
        cases wet
      | false =>
        have kept := (Worker.serve_keepsLedger real clears tracks.sound tracks.booked).of_exec ran
        refine ⟨kept.ahead (tracks.ahead about), fun sequence gaveUp listed => ?_⟩
        rcases gaveUp.cases with dealt | ⟨undealt, earlier⟩
        · exact (dealt.deals.unlisted real tracks.sound tracks.booked).of_exec ran listed
        · rcases kept.new sequence listed with there | ⟨result, deals⟩
          · exact tracks.dropped about sequence earlier there
          · exact undealt result ⟨real, rfl, deals⟩
  exact ⟨inOrder, fun about => (kinds about).1, fun about => (kinds about).2⟩

end Desk.Tracks

theorem Tenure.tracks {place : CursorPlace} {runs : List (Ran σ)} {desk : Desk σ}
    (tenure : Tenure place runs desk) : desk.Tracks place runs := by
  induction tenure with
  | start sound keyed empty => exact .start sound keyed empty
  | grown _ grows ih =>
    exact ih.elsewhere (grows.sound ih.sound) rfl rfl fun _ => Nat.le_refl _
  | reopened _ ih =>
    exact ih.elsewhere (Source.remembering_top_sound _) rfl rfl fun _ => Nat.le_refl _
  | @rewound runs desk after result _ worker keeper entity around ran ih =>
    subst keeper
    have elapsed : Desk.Tracks { desk with around } worker.cursors runs :=
      ih.elsewhere ih.sound rfl rfl fun _ => Nat.le_refl _
    exact elapsed.rewound ((worker.resetCursor_ends entity _).of_exec ran).2
  | @served runs desk after result _ worker keeper entity request around clears ran ih =>
    subst keeper
    have elapsed : Desk.Tracks { desk with around } worker.cursors runs :=
      ih.elsewhere ih.sound rfl rfl fun _ => Nat.le_refl _
    exact elapsed.served clears ran

/-- A run over a feed that grows before each of its windows is as many runs for one window. -/
theorem Tenure.runs {worker : Worker σ} {entity : Entity} {most : Option Nat} {found : Source}
    {runs : List (Ran σ)} {desk after : Desk σ} {total : Tally} {planned : Planned}
    (real : worker.options.dryRun = false)
    (clears : ∀ desk, worker.Clears entity .batch desk)
    (windows : worker.Runs entity most desk found total planned after)
    (tenure : Tenure worker.cursors runs desk) :
    ∃ later, Tenure worker.cursors (later ++ runs) after ∧
      ∀ run ∈ later, run.worker = worker ∧ run.entity = entity ∧ run.request = .batch := by
  have window {between last : Desk σ} {source : Source} {batch : Tally} {further : Planned}
      {runs : List (Ran σ)} (earlier : Tenure worker.cursors runs between)
      (grows : between.source.GrowsInto source)
      (ran : (worker.windowOn entity none []).exec { between with source } =
        (.ok (batch, further), last)) :
      Tenure worker.cursors (⟨worker, entity, .batch, { between with source }⟩ :: runs) last :=
    (earlier.grown grows).served worker rfl entity .batch between.around (clears _)
      (Worker.exec_serve_batch ran)
  induction windows with
  | first grows ran => exact ⟨[_], window tenure grows ran, by simp⟩
  | next windows goes grows ran ih =>
    obtain ⟨later, further, same⟩ := ih
    rw [Worker.onward_of_real real, windows.planned_nil real] at ran
    exact ⟨_ :: later, window further grows ran, by simpa using same⟩

/-- Whatever is in the ledger then lies ahead of the cursor. -/
theorem Worker.Runs.ahead {worker : Worker σ} {entity : Entity} {most : Option Nat}
    {found : Source} {runs : List (Ran σ)} {desk after : Desk σ} {total : Tally}
    {planned : Planned} (windows : worker.Runs entity most desk found total planned after)
    (real : worker.options.dryRun = false)
    (clears : ∀ desk, worker.Clears entity .batch desk)
    (tenure : Tenure worker.cursors runs desk) (about : Entity) :
    after.Ahead worker.cursors about := by
  obtain ⟨later, further, _⟩ := tenure.runs real clears windows
  exact further.tracks.ahead about

/-- Whatever one worker goes through from an empty ledger on, as long as the ledger is
cleared whenever a run comes to that: each line of the ledger is about a record ahead of
the cursor and counts a failure at least, and none is about a record that was given up by
the last run which dealt with it. -/
theorem Tenure.ledger_stays_ahead {place : CursorPlace} {runs : List (Ran σ)} {desk : Desk σ}
    (tenure : Tenure place runs desk) (entity : Entity) :
    (∀ attempt ∈ desk.store.attempts.get entity,
      desk.cursor place entity < attempt.sequence ∧ 1 ≤ attempt.attempts) ∧
    ∀ sequence, LastGaveUp runs entity sequence →
      ∀ attempt ∈ desk.store.attempts.get entity, attempt.sequence ≠ sequence := by
  have tracks := tenure.tracks
  refine ⟨fun attempt member => ⟨?_, tracks.counted entity attempt member⟩,
    fun sequence gaveUp attempt member same => ?_⟩
  · exact tracks.ahead entity attempt.sequence ⟨attempt, member, rfl⟩
  · exact tracks.dropped entity sequence gaveUp ⟨attempt, member, same⟩

/-- Every reading of a row finds the store locked. -/
private def lockedRows : Worker Unit :=
  ⟨⟨fun _ => (.ofMillis 0, ()), fun _ => (false, ()),
      fun call _ => (match call with | .read .. => some (.store .locked) | _ => none, ()),
      fun _ _ => ()⟩,
    "sync", .store, ⟨10, false, some 25, false, false, .immediate 2 1⟩⟩

private def twoRemovals : MemoryFeed :=
  ⟨["\x7b\"id\":\"a\",\"change\":\"remove\"\x7d", "\x7b\"id\":\"b\",\"change\":\"remove\"\x7d"], []⟩

private def firstRemoval : Entry :=
  ⟨1, .ofText "contact" "\x7b\"id\":\"a\",\"change\":\"remove\"\x7d"⟩

private def beforeRuns : Desk Unit := ⟨.empty, .start, .memory twoRemovals, ()⟩

private def afterRun (desk : Desk Unit) : Desk Unit :=
  ((lockedRows.serve .contact .batch).exec desk).2

private def startOf (desk : Desk Unit) : Arrival Unit :=
  ⟨none, 0, ⟨twoRemovals.entries .contact, 2⟩, (twoRemovals.entries .contact).tail,
    lockedRows.opened .contact 0 [], desk⟩

private theorem lockedRows_reaches {desk : Desk Unit} (feed : desk.source = .memory twoRemovals)
    (there : desk.store.cursor .contact = 0) :
    lockedRows.Reaches .contact .batch desk firstRemoval (startOf desk) := by
  obtain ⟨store, memory, _, around⟩ := desk
  cases feed
  have loaded : (lockedRows.loadCursor .contact).exec ⟨store, memory, .memory twoRemovals, around⟩ =
      (.ok 0, ⟨store, memory, .memory twoRemovals, around⟩) := by
    rw [← there]
    rfl
  have opened : (lockedRows.openWindow .contact none []).exec
      ⟨store, memory, .memory twoRemovals, around⟩ =
        (.ok (⟨twoRemovals.entries .contact, 2⟩, lockedRows.opened .contact 0 []),
          ⟨store, memory, .memory twoRemovals, around⟩) := by
    unfold Worker.openWindow
    rw [exec_bind_of_ok loaded]
    rfl
  have shape : twoRemovals.entries .contact =
      [] ++ firstRemoval :: (twoRemovals.entries .contact).tail := rfl
  exact .intro .start opened shape rfl rfl

private theorem afterRun_source {desk : Desk Unit} (feed : desk.source = .memory twoRemovals) :
    (afterRun desk).source = .memory twoRemovals := by
  have sound : desk.source.Sound := feed ▸ trivial
  have ends := @Worker.serve_ends _ lockedRows (fun _ => True) .contact (fun _ => trivial) rfl
    .batch desk sound
  obtain ⟨_, kept⟩ := ends.1.marks
  rw [feed] at kept
  exact kept

private theorem Tenure.again {runs : List (Ran Unit)} {desk : Desk Unit}
    (tenure : Tenure .store runs desk) :
    Tenure .store (⟨lockedRows, .contact, .batch, desk⟩ :: runs) (afterRun desk) :=
  tenure.served lockedRows rfl .contact .batch ()
    (Worker.clears_of_served (fun _ => rfl) rfl) Prod.mk.eta.symm

private theorem gives_up_at {desk : Desk Unit} (feed : desk.source = .memory twoRemovals)
    (there : desk.store.cursor .contact = 0)
    (told : ((lockedRows.attend .contact (lockedRows.opened .contact 0 []) firstRemoval).exec
      desk).1.toOption.map (·.1) = some (some .quarantined)) (runs : List (Ran Unit)) :
    LastGaveUp (⟨lockedRows, .contact, .batch, desk⟩ :: runs) .contact 1 := by
  have reaches := lockedRows_reaches feed there
  rcases attended : (lockedRows.attend .contact (lockedRows.opened .contact 0 [])
    firstRemoval).exec desk with ⟨fault | ⟨ending, progress⟩, dealt⟩
  · rw [attended] at told
    cases told
  · rw [attended] at told
    injection told with told
    cases told
    exact ⟨[], _, runs, rfl, ⟨rfl, rfl, .ended reaches attended⟩,
      fun _ impossible => by cases impossible⟩

/-- With a ceiling of two the second run gives the first record up and passes it, and
stops before the second record, whose line is the only one left. -/
theorem Tenure.ledger_stays_ahead_second_run : ∃ (runs : List (Ran Unit)) (desk : Desk Unit),
    Tenure .store runs desk ∧ LastGaveUp runs .contact 1 ∧
      desk.cursor .store .contact = 1 ∧
        (desk.store.attempts.get .contact).map (fun attempt =>
          (attempt.sequence, attempt.attempts)) = [(2, 1)] ∧
        ∀ attempt ∈ desk.store.attempts.get .contact,
          (desk.cursor .store .contact < attempt.sequence ∧ 1 ≤ attempt.attempts) ∧
            attempt.sequence ≠ 1 := by
  have untouched : Tenure .store [] beforeRuns :=
    .start (show Source.Sound (.memory twoRemovals) from trivial) Quarantine.empty_keyed rfl
  have gaveUp := gives_up_at (@afterRun_source beforeRuns rfl) (by decide +kernel)
    (by decide +kernel) [⟨lockedRows, .contact, .batch, beforeRuns⟩]
  have twice := untouched.again.again
  obtain ⟨lines, dropped⟩ := twice.ledger_stays_ahead .contact
  refine ⟨_, _, twice, gaveUp, by decide +kernel, by decide +kernel, fun attempt member => ?_⟩
  exact ⟨lines attempt member, dropped 1 gaveUp attempt member⟩

end Run

end RecordSync
