import RecordSync.Proofs.Draining
import RecordSync.Proofs.Runs

/-! What rows say when workers drain one feed together. The cursor is moved by
comparison, but rows are not: a slow worker may write an old record of a page that
another worker has long gone past. Unless it goes on to the later records itself,
its window ends without moving the cursor, and the next run does not replay that
record, for it sets out from the cursor of the other worker. So the row stays as the
old record says. Nothing else can set a row back. -/

namespace RecordSync.Run

open RecordSync.Calendar RecordSync.Change RecordSync.Feed RecordSync.Record RecordSync.Store
open Work

variable {σ : Type}

/-- The record of a key that a window dealt with last. -/
structure OpenWindow.DealtLast (window : OpenWindow σ) (source : Source) (externalId : String)
    (entry : Entry) : Prop where
  member : entry ∈ source.entries window.entity
  decides : (decode entry.delivery).decides window.entity externalId = true
  behind : window.progress.tally.cursorBefore < entry.sequence
  reached : entry.sequence ≤ window.progress.through
  last : ∀ other ∈ source.entries window.entity,
    (decode other.delivery).decides window.entity externalId = true →
      other.sequence ≤ window.progress.through → other.sequence ≤ entry.sequence

/-- A window that goes on dealt with the same record last, unless it passes another
one of that key. -/
theorem OpenWindow.DealtLast.onward {window : OpenWindow σ} {source : Source} {externalId : String}
    {entry : Entry} {rest : List Entry} {progress : Progress} {around : σ}
    (dealtLast : window.DealtLast source externalId entry)
    (before : progress.tally.cursorBefore = window.progress.tally.cursorBefore)
    (further : window.progress.through ≤ progress.through)
    (silent : ∀ other ∈ source.entries window.entity,
      (decode other.delivery).decides window.entity externalId = true →
        other.sequence ≤ progress.through → other.sequence ≤ window.progress.through) :
    OpenWindow.DealtLast { window with left := rest, progress, around } source externalId entry := by
  refine ⟨dealtLast.member, dealtLast.decides, ?_, Nat.le_trans dealtLast.reached further, ?_⟩
  · simpa only [before] using dealtLast.behind
  · intro other member decides reached
    exact dealtLast.last other member decides (silent other member decides reached)

namespace System

/-- A position lies at or before the cursor, or a window under way from the cursor
has got through it. -/
def Passed (system : System σ) (entity : Entity) (position : Nat) : Prop :=
  position ≤ system.store.cursor entity ∨ ∃ id window, system.windows id = some window ∧
    window.entity = entity ∧
    window.progress.tally.cursorBefore = system.store.cursor entity ∧
    position ≤ window.progress.through

/-- A window that dealt with a record of a key last ends and does not move the
cursor, while a later record of that key was already passed. -/
def CutShort (system after : System σ) (entity : Entity) (externalId : String) (entry : Entry) :
    Prop :=
  after.store.cursor entity = system.store.cursor entity ∧
    (∃ id window, system.windows id = some window ∧ after.windows id = none ∧
      window.entity = entity ∧ window.DealtLast system.source externalId entry) ∧
    ∃ other ∈ after.source.entries entity, (decode other.delivery).decides entity externalId = true ∧
      entry.sequence < other.sequence ∧ after.Passed entity other.sequence

/-- How it stands with the record that a row was last written for. -/
inductive Standing (steps : List (System σ × System σ)) (system : System σ) (entity : Entity)
    (externalId : String) : Option Entry → Prop where
  | current {said : Option Entry} (newest : ∀ other ∈ system.source.entries entity,
      (decode other.delivery).decides entity externalId = true →
        system.Passed entity other.sequence → ∃ entry ∈ said, other.sequence ≤ entry.sequence) :
      Standing steps system entity externalId said
  | held {id : Nat} {window : OpenWindow σ} {entry : Entry}
      (underway : system.windows id = some window) (about : window.entity = entity)
      (dealtLast : window.DealtLast system.source externalId entry) :
      Standing steps system entity externalId (some entry)
  | lost {before cut : System σ} {entry : Entry} (taken : (before, cut) ∈ steps)
      (cutShort : before.CutShort cut entity externalId entry) :
      Standing steps system entity externalId (some entry)

/-- The row with a key is as some record of the feed says, if any. -/
structure Told (steps : List (System σ × System σ)) (system : System σ) (entity : Entity)
    (externalId : String) (said : Option Entry) : Prop where
  decides : ∀ entry ∈ said, entry ∈ system.source.entries entity ∧
    (decode entry.delivery).decides entity externalId = true
  mirrors : system.store.Mirrors entity externalId (said.map fun entry => decode entry.delivery)
  standing : Standing steps system entity externalId said

variable {steps : List (System σ × System σ)} {system after : System σ} {entity : Entity}
  {externalId : String} {said : Option Entry} {id : Nat} {window : OpenWindow σ} {entry : Entry}

theorem Ordered.passed_le_extent (ordered : system.Ordered) {position : Nat}
    (passed : system.Passed entity position) : position ≤ system.source.extent entity := by
  rcases passed with reached | ⟨id, window, underway, rfl, _, reached⟩
  · exact Nat.le_trans reached (ordered.within entity)
  · exact Nat.le_trans reached (ordered.windows id window underway).through_le

/-- Nothing more is passed as long as the cursor stays and no window gets further. -/
theorem Passed.of_put {next : Option (OpenWindow σ)} {position : Nat}
    (windows : after.windows = Function.update system.windows id next)
    (cursor : after.store.cursor entity = system.store.cursor entity)
    (further : ∀ window, next = some window → window.entity = entity →
      window.progress.tally.cursorBefore = system.store.cursor entity →
        position ≤ window.progress.through → system.Passed entity position)
    (passed : after.Passed entity position) : system.Passed entity position := by
  rcases passed with reached | ⟨other, opened, found, about, start, reached⟩
  · exact .inl (cursor ▸ reached)
  · rcases window_cases windows found with ⟨_, same⟩ | ⟨_, known⟩
    · exact further opened same about (start.trans cursor) reached
    · exact .inr ⟨other, opened, known, about, start.trans cursor, reached⟩

/-- A row that stays is told of as before, if no more records of its key are passed
and the record of the window that moved stays accounted for. -/
theorem Told.keeps (told : Told steps system entity externalId said) {next : Option (OpenWindow σ)}
    (source : after.source = system.source)
    (row : (after.store.rows.get entity).find? externalId =
      (system.store.rows.get entity).find? externalId)
    (windows : after.windows = Function.update system.windows id next)
    (passed : ∀ other ∈ system.source.entries entity,
      (decode other.delivery).decides entity externalId = true →
        after.Passed entity other.sequence → system.Passed entity other.sequence)
    (held : ∀ window entry, system.windows id = some window → window.entity = entity →
      window.DealtLast system.source externalId entry →
        Standing ((system, after) :: steps) after entity externalId (some entry)) :
    Told ((system, after) :: steps) after entity externalId said := by
  refine ⟨?_, told.mirrors.congr_find? row, ?_⟩
  · rw [source]
    exact told.decides
  · cases told.standing with
    | current newest =>
      refine .current fun other member decides reached => ?_
      rw [source] at member
      exact newest other member decides (passed other member decides reached)
    | @held other opened entry underway about dealtLast =>
      by_cases same : other = id
      · subst same
        exact held opened entry underway about dealtLast
      · have kept : after.windows other = some opened := by
          rw [windows, Function.update_of_ne same]
          exact underway
        exact .held kept about (source ▸ dealtLast)
    | lost taken cutShort => exact .lost (List.mem_cons_of_mem _ taken) cutShort

private theorem Told.grown (told : Told steps system entity externalId said)
    (ordered : system.Ordered) (grows : system.source.Grows after.source)
    (store : after.store = system.store) (windows : after.windows = system.windows) :
    Told ((system, after) :: steps) after entity externalId said := by
  obtain ⟨added, entries, behind⟩ := grows.entries entity
  refine ⟨?_, ?_, ?_⟩
  · intro entry member
    obtain ⟨there, decides⟩ := told.decides entry member
    rw [entries]
    exact ⟨List.mem_append_left _ there, decides⟩
  · rw [store]
    exact told.mirrors
  · cases told.standing with
    | current newest =>
      refine .current fun other member decides passed => ?_
      have passed : system.Passed entity other.sequence := by
        simpa only [Passed, store, windows] using passed
      rw [entries] at member
      rcases List.mem_append.mp member with there | new
      · exact newest other there decides passed
      · have late := behind other new
        have within := ordered.passed_le_extent passed
        omega
    | held underway about dealtLast =>
      subst about
      have through := (ordered.windows _ _ underway).through_le
      refine .held (windows ▸ underway) rfl { dealtLast with member := ?_, last := ?_ }
      · rw [entries]
        exact List.mem_append_left _ dealtLast.member
      · intro other member decides reached
        rw [entries] at member
        rcases List.mem_append.mp member with there | new
        · exact dealtLast.last other there decides reached
        · have late := behind other new
          omega
    | lost taken cutShort => exact .lost (List.mem_cons_of_mem _ taken) cutShort

private theorem closed_standing (rests : system.Rests after)
    (underway : system.windows id = some window)
    (windows : after.windows = Function.update system.windows id none)
    (about : window.entity = entity) (dealtLast : window.DealtLast system.source externalId entry) :
    Standing ((system, after) :: steps) after entity externalId (some entry) := by
  by_cases later : ∃ other ∈ after.source.entries entity,
      (decode other.delivery).decides entity externalId = true ∧
        entry.sequence < other.sequence ∧ after.Passed entity other.sequence
  · have gone : after.windows id = none := by rw [windows, Function.update_self]
    exact .lost List.mem_cons_self
      ⟨rests.cursor entity, ⟨id, window, underway, gone, about, dealtLast⟩, later⟩
  · refine .current fun other member decides passed => ⟨entry, rfl, ?_⟩
    by_contra behind
    exact later ⟨other, member, decides, Nat.lt_of_not_le behind, passed⟩

private theorem settled_passed (ordered : system.Ordered)
    (underway : system.windows id = some window) (left : window.left = [])
    (onward : window.progress.tally.cursorBefore <
      (window.worker.conclude window.page window.progress).cursorAfter)
    (there : system.store.cursor window.entity = window.progress.tally.cursorBefore)
    (moved : after.store.cursor window.entity =
      (window.worker.conclude window.page window.progress).cursorAfter)
    (windows : after.windows = Function.update system.windows id none)
    (member : entry ∈ system.source.entries window.entity)
    (passed : after.Passed window.entity entry.sequence) :
    entry.sequence ≤ window.progress.through := by
  have inOrder := ordered.windows id window underway
  have began := inOrder.began
  rcases passed with reached | ⟨other, opened, found, same, start, reached⟩
  · rw [moved] at reached
    by_cases behind : window.progress.tally.cursorBefore < entry.sequence
    · exact inOrder.accounted.concluded left member behind reached
    · omega
  · rcases window_cases windows found with ⟨_, impossible⟩ | ⟨_, known⟩
    · cases impossible
    · have earlier := (ordered.windows other opened known).behind
      rw [same] at earlier
      omega

private theorem Told.settled (told : Told steps system entity externalId said)
    (ordered : system.Ordered) (underway : system.windows id = some window)
    (left : window.left = []) (source : after.source = system.source)
    (rows : after.store.rows = system.store.rows)
    (there : system.store.cursor window.entity = window.progress.tally.cursorBefore)
    (onward : window.progress.tally.cursorBefore <
      (window.worker.conclude window.page window.progress).cursorAfter)
    (moved : after.store.cursor window.entity =
      (window.worker.conclude window.page window.progress).cursorAfter)
    (others : ∀ entity, entity ≠ window.entity →
      after.store.cursor entity = system.store.cursor entity)
    (windows : after.windows = Function.update system.windows id none) :
    Told ((system, after) :: steps) after entity externalId said := by
  have through {other : Entry} (member : other ∈ system.source.entries window.entity) :=
    @settled_passed σ system after id window other ordered underway left onward there moved windows
      member
  apply told.keeps source (by rw [rows]) windows
  · intro other member decides passed
    by_cases same : entity = window.entity
    · subst same
      exact .inr ⟨id, window, underway, rfl, there.symm, through member passed⟩
    · exact passed.of_put windows (others entity same) fun _ impossible => nomatch impossible
  · intro opened entry known about dealtLast
    rw [underway] at known
    cases known
    subst about
    refine .current fun other member decides passed => ⟨entry, rfl, ?_⟩
    rw [source] at member
    exact dealtLast.last other member decides (through member passed)

private theorem exists_told_of_passed (told : Told steps system entity externalId said)
    (ordered : system.Ordered) {rest : List Entry} {progress : Progress} {around : σ}
    {outcome : Outcome} {now : Instant} (underway : system.windows id = some window)
    (left : window.left = entry :: rest) (going : window.progress.stop = none)
    (before : progress.tally.cursorBefore = window.progress.tally.cursorBefore)
    (through : progress.through = entry.sequence) (source : after.source = system.source)
    (applied : system.store.apply window.worker.actor (decode entry.delivery) now =
      .ok (outcome, after.store))
    (windows : after.windows =
      Function.update system.windows id (some { window with left := rest, progress, around })) :
    ∃ said, Told ((system, after) :: steps) after entity externalId said := by
  have inOrder := ordered.windows id window underway
  have effect := apply_effect ordered.keyed applied
  have present : entry ∈ system.source.entries window.entity :=
    inOrder.inside entry (inOrder.accounted.left_subset (left ▸ List.mem_cons_self))
  have within := decode_within_of_mem present
  have ahead := inOrder.ahead entry (left ▸ List.mem_cons_self)
  have there : after.windows id = some { window with left := rest, progress, around } := by
    rw [windows, Function.update_self]
  cases decides : (decode entry.delivery).decides entity externalId with
  | true =>
    have about : entity = window.entity := within.eq_of_decides decides
    subst about
    refine ⟨some entry, ?_, effect.mirrors_of_decides ordered.keyed within decides, ?_⟩
    · rintro _ ⟨⟩
      exact ⟨source ▸ present, decides⟩
    · refine .held there rfl ⟨source ▸ present, decides, ?_, Nat.le_of_eq through.symm, ?_⟩
      · have began := inOrder.began
        simp only [before]
        omega
      · intro other _ _ reached
        exact Nat.le_trans reached (Nat.le_of_eq through)
  | false =>
    -- The window passes no other record of the key on its way to this one.
    have silent (other : Entry) (member : other ∈ system.source.entries window.entity)
        (said : (decode other.delivery).decides entity externalId = true)
        (reached : other.sequence ≤ progress.through) :
        other.sequence ≤ window.progress.through := by
      rcases inOrder.reached left going member (through ▸ reached) with early | rfl
      · exact early
      · rw [decides] at said
        cases said
    refine ⟨said, told.keeps source (effect.find?_of_not_decides ordered.keyed decides) windows
      ?_ ?_⟩
    · intro other member said passed
      refine passed.of_put windows ?_ ?_
      · simp only [Store.cursor, apply_cursors applied]
      · rintro _ ⟨⟩ rfl start reached
        exact .inr ⟨id, window, underway, rfl, before ▸ start, silent other member said reached⟩
    · intro opened earlier known about dealtLast
      rw [underway] at known
      cases known
      subst about
      exact .held there rfl (source ▸ dealtLast.onward before (by omega) silent)

private theorem exists_told_of_turn (ordered : system.Ordered) (turn : system.Turn after)
    (told : Told steps system entity externalId said) :
    after.store.quarantine.entries ≠ [] ∨
      ∃ said, Told ((system, after) :: steps) after entity externalId said := by
  have row (rests : system.Rests after) : (after.store.rows.get entity).find? externalId =
      (system.store.rows.get entity).find? externalId := by
    rw [rests.rows]
  cases turn with
  | grown grows store windows => exact .inr ⟨said, told.grown ordered grows store windows⟩
  | rested rests windows =>
    have same : after.windows = Function.update system.windows 0 (system.windows 0) := by
      rw [Function.update_eq_self, windows]
    refine .inr ⟨said, told.keeps rests.source (row rests) same ?_ ?_⟩
    · intro other _ _ passed
      refine passed.of_put same (rests.cursor entity) ?_
      intro window known about start reached
      exact .inr ⟨0, window, known, about, start, reached⟩
    · intro window entry known about dealtLast
      exact .held (windows ▸ known) about (rests.source ▸ dealtLast)
  | opened rests idle windows start through accounted inside =>
    refine .inr ⟨said, told.keeps rests.source (row rests) windows ?_ ?_⟩
    · intro other _ _ passed
      refine passed.of_put windows (rests.cursor entity) ?_
      rintro _ ⟨⟩ rfl _ reached
      exact .inl (Nat.le_trans reached (Nat.le_of_eq through))
    · intro opened entry known
      rw [idle] at known
      cases known
  | @paused id window _ rest progress around rests underway left before through stop windows =>
    refine .inr ⟨said, told.keeps rests.source (row rests) windows ?_ ?_⟩
    · intro other _ _ passed
      refine passed.of_put windows (rests.cursor entity) ?_
      rintro _ ⟨⟩ about start reached
      exact .inr ⟨id, window, underway, about, before ▸ start, through ▸ reached⟩
    · intro opened entry known about dealtLast
      rw [underway] at known
      cases known
      have there : after.windows id = some { window with left := rest, progress, around } := by
        rw [windows, Function.update_self]
      refine .held there about (rests.source ▸ dealtLast.onward before (Nat.le_of_eq through.symm) ?_)
      intro other _ _ reached
      exact through ▸ reached
  | passed underway left going before through source applied windows =>
    exact .inr (exists_told_of_passed told ordered underway left going before through source
      applied windows)
  | surrendered quarantine => exact .inl quarantine
  | @closed id window rests underway windows =>
    refine .inr ⟨said, told.keeps rests.source (row rests) windows ?_ ?_⟩
    · intro other _ _ passed
      exact passed.of_put windows (rests.cursor entity) fun _ impossible => nomatch impossible
    · intro opened entry known about dealtLast
      rw [underway] at known
      cases known
      exact closed_standing rests underway windows about dealtLast
  | settled underway left source rows quarantine there onward moved others windows =>
    exact .inr ⟨said, told.settled ordered underway left source rows there onward moved others
      windows⟩

/-- While workers drain from an empty store on and give no record up, their windows
take records in order and a row is told of. -/
theorem Drains.told {source : Source} (drains : Drains (start source) steps system)
    (entity : Entity) (externalId : String) :
    system.store.quarantine.entries ≠ [] ∨
      system.Ordered ∧ ∃ said, Told steps system entity externalId said := by
  induction drains with
  | refl =>
    refine .inr ⟨start_ordered source, none, nofun, ?_, .current fun other member _ passed => ?_⟩
    · cases entity <;> rfl
    · have first := Source.one_le_of_mem member
      rcases passed with reached | ⟨_, _, impossible, _⟩
      · rw [show (start source : System σ).store.cursor entity = 0 from
          (start_initial source : (start source : System σ).Initial).cursors .store entity] at reached
        omega
      · cases impossible
  | step drains step ih =>
    have turn := drains.turn step
    rcases ih with filled | ⟨ordered, said, told⟩
    · exact .inl (turn.quarantine filled)
    · rcases turn.ordered ordered with filled | orderedAfter
      · exact .inl filled
      · exact (exists_told_of_turn ordered turn told).imp_right (⟨orderedAfter, ·⟩)

/-- A run on its own that comes to the end of the feed: a row that was set back to
an old record stays so only if no record behind the cursor decides on it. -/
theorem Told.exhausted {final : Desk σ} {lane : Lane} {trail : List (Entry × Outcome)} {reach : Nat}
    {reader : Nat} {around : σ} (told : Told steps system lane.entity externalId said)
    (keyed : system.store.Keyed) (place : lane.place = .store)
    (advanced : lane.Advanced (system.desk reader around) trail reach final)
    (arrived : system.source.extent lane.entity ≤ reach) :
    final.store.Mirrors lane.entity externalId
        (lastWord lane.entity externalId (system.source.entries lane.entity)) ∨
      final.store.Mirrors lane.entity externalId
          (said.map fun entry => decode entry.delivery) ∧
        ∀ other ∈ system.source.entries lane.entity,
          (decode other.delivery).decides lane.entity externalId = true →
            other.sequence ≤ system.store.cursor lane.entity := by
  have mirrored := advanced.applied.mirrors keyed told.mirrors
  have stretch := advanced.stretch
  rw [place] at stretch
  have stretch : trail.map (·.1) = between (system.source.entries lane.entity)
      (system.store.cursor lane.entity) reach := by
    simpa [desk, Desk.cursor] using stretch
  rw [stretch] at mirrored
  have early : system.store.cursor lane.entity ≤ reach := by
    simpa [place, Desk.cursor, desk] using advanced.early
  have sorted := system.source.entries_pairwise lane.entity
  cases word : lastWord lane.entity externalId (between (system.source.entries lane.entity)
      (system.store.cursor lane.entity) reach) with
  | some change =>
    rw [word] at mirrored
    rw [← Source.between_whole arrived, ← between_append sorted (Nat.zero_le _) early,
      lastWord_append, word]
    exact .inl mirrored
  | none =>
    rw [word, Option.none_or] at mirrored
    refine .inr ⟨mirrored, fun other member decides => ?_⟩
    by_contra behind
    have inside : other ∈ between (system.source.entries lane.entity)
        (system.store.cursor lane.entity) reach :=
      mem_between.mpr ⟨member, Nat.lt_of_not_le behind,
        Nat.le_trans (Source.le_extent_of_mem member) arrived⟩
    rw [lastWord_eq_none_iff.mp word other inside] at decides
    cases decides

/-- Workers drained a feed together, in whatever order their steps came, until no
window was under way, and a run on its own then came to the end of the feed. If no
record was given up, each row is as the last record that decides on it, or else a
window that had dealt with a record of its key ended without moving the cursor when
a later one was already passed, and the row is as that record. -/
theorem drained_rows_mirror {source : Source} {worker : Worker σ} {request : Request} {reader : Nat}
    {around : σ} {tally : Tally} {final : Desk σ} (drains : Drains (start source) steps system)
    (idle : ∀ id, system.windows id = none) (real : worker.options.dryRun = false)
    (place : worker.cursors = .store)
    (ran : (worker.serve entity request).exec (system.desk reader around) = (.ok tally, final))
    (exhausted : tally.stop = .exhausted) (kept : final.store.quarantine.entries = [])
    (externalId : String) :
    final.store.Mirrors entity externalId
        (lastWord entity externalId (final.source.entries entity)) ∨
      ∃ before cut entry, (before, cut) ∈ steps ∧ before.CutShort cut entity externalId entry ∧
        final.store.Mirrors entity externalId (some (decode entry.delivery)) := by
  have sound := (reaches_invariant (start_initial source) drains.reaches).sound reader
  obtain ⟨feed, ended⟩ := (@Worker.serve_ends _ worker (fun _ => True) entity (fun _ => trivial)
    real request (system.desk reader around) sound).of_exec ran
  have entries : final.source.entries entity = system.source.entries entity := by
    simpa [desk] using feed.entries entity
  rw [entries]
  rcases drains.told entity externalId with filled | ⟨ordered, said, told⟩
  · exact absurd kept (ended.quarantine filled)
  cases ended with
  | surrendered quarantine _ => exact absurd kept quarantine
  | completed trail completed =>
    have arrived : system.source.extent entity ≤ tally.cursorAfter := by
      simpa [desk, Worker.lane] using completed.exhausted exhausted
    rcases told.exhausted ordered.keyed place completed.toAdvanced arrived with right | ⟨mirrors, early⟩
    · exact .inl right
    cases told.standing with
    | current newest =>
      rw [lastWord_eq_of_newest (system.source.entries_pairwise entity) told.decides
        fun other member decides => newest other member decides (.inl (early other member decides))]
      exact .inl mirrors
    | held underway _ _ =>
      rw [idle] at underway
      cases underway
    | lost taken cutShort => exact .inr ⟨_, _, _, taken, cutShort, mirrors⟩

private def oneByOne : Worker Instant :=
  ⟨quiet, "sync", .store, ⟨1, false, some 25, false, false, .immediate 5 1⟩⟩

private def comesAndGoes : Source :=
  .memory ⟨["\x7b\"id\":\"a\",\"createdon\":\"2020-01-01T00:00:00Z\"," ++
    "\"modifiedon\":\"2020-01-01T00:00:00Z\",\"statecode\":0," ++
    "\"attributes\":\x7b\"firstname\":\"A\",\"lastname\":\"B\"\x7d\x7d",
    "\x7b\"id\":\"a\",\"change\":\"remove\"\x7d"], []⟩

/-- Two windows drain the feed, each a record at a time, in a given order. -/
private def together (order : List Nat) : System Instant :=
  (start comesAndGoes).interleave oneByOne .contact (.ofMillis 0) order

private theorem drains_together {order : List Nat}
    (ended : order.all fun id => ((together order).windows id).isNone) :
    (∃ steps, Drains (start comesAndGoes) steps (together order)) ∧
      ∀ id, (together order).windows id = none :=
  start_interleave comesAndGoes oneByOne .contact (.ofMillis 0) order rfl rfl ended

/-- A run on its own after them. -/
private def afterwards (order : List Nat) : Except SyncFault Tally × Desk Instant :=
  (oneByOne.serve .contact (.untilIdle none)).exec ((together order).desk 3 (.ofMillis 0))

/-- What a run counts that comes to the end of the feed, and to how many removals. -/
private def caughtUp (deleted : Nat) : Tally :=
  ⟨.contact, 1 + deleted, deleted, 0, 0, 0, 0, deleted, 0, 0, 0, 0, 0, 2 - deleted, 2,
    .exhausted, false⟩

private theorem exec_afterwards {order : List Nat} {tally : Tally}
    (answer : (afterwards order).1.toOption = some tally) :
    (afterwards order).1 = .ok tally ∧
      (oneByOne.serve .contact (.untilIdle none)).exec ((together order).desk 3 (.ofMillis 0)) =
        (.ok tally, (afterwards order).2) := by
  have ran := exec_of_answer answer
  exact ⟨congrArg Prod.fst ran, ran⟩

/-- The second window is opened before the first one makes and deletes the row, and
deals with its record after that: it makes the row anew, and cannot move the cursor.
The removal does not come again. -/
theorem drained_row_overtaken :
    let order := [2, 1, 1, 1, 1, 1, 1, 2, 2]
    (∃ steps, Drains (start comesAndGoes) steps (together order)) ∧
    (∀ id, (together order).windows id = none) ∧
    (afterwards order).1 = .ok (caughtUp 0) ∧
    (afterwards order).2.store.quarantine.entries = [] ∧
    ¬ (afterwards order).2.store.Mirrors .contact "a"
      (lastWord .contact "a" ((afterwards order).2.source.entries .contact)) := by
  intro order
  obtain ⟨stopped, answer, kept, word, there⟩ :
      (order.all fun id => ((together order).windows id).isNone) = true ∧
      (afterwards order).1.toOption = some (caughtUp 0) ∧
      (afterwards order).2.store.quarantine.entries = [] ∧
      lastWord .contact "a" ((afterwards order).2.source.entries .contact) =
        some (.removed .contact "a") ∧
      (((afterwards order).2.store.rows.get .contact).find? "a").isSome = true := by
    decide +kernel
  obtain ⟨drains, idle⟩ := drains_together stopped
  refine ⟨drains, idle, (exec_afterwards answer).1, kept, ?_⟩
  rw [word]
  intro (absent : _ = none)
  rw [absent] at there
  cases there

/-- Both windows deal with the first record, and one of them cannot move the cursor.
The run on its own comes to the removal. -/
theorem drained_rows_mirror_made_twice :
    let order := [2, 1, 1, 2, 2, 1]
    ∃ steps, Drains (start comesAndGoes) steps (together order) ∧
    (∀ id, (together order).windows id = none) ∧
    (afterwards order).1 = .ok (caughtUp 1) ∧
    (afterwards order).2.store.quarantine.entries = [] ∧
    ((afterwards order).2.store.Mirrors .contact "a"
        (lastWord .contact "a" ((afterwards order).2.source.entries .contact)) ∨
      ∃ before cut entry, (before, cut) ∈ steps ∧ before.CutShort cut .contact "a" entry ∧
        (afterwards order).2.store.Mirrors .contact "a" (some (decode entry.delivery))) := by
  intro order
  obtain ⟨stopped, answer, kept⟩ :
      (order.all fun id => ((together order).windows id).isNone) = true ∧
      (afterwards order).1.toOption = some (caughtUp 1) ∧
      (afterwards order).2.store.quarantine.entries = [] := by
    decide +kernel
  obtain ⟨⟨steps, drains⟩, idle⟩ := drains_together stopped
  obtain ⟨ended, ran⟩ := exec_afterwards answer
  exact ⟨steps, drains, idle, ended, kept,
    drained_rows_mirror drains idle rfl rfl ran rfl kept "a"⟩

end System

end RecordSync.Run
