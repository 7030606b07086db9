import RecordSync.Proofs.LastWord
import RecordSync.Proofs.Splitting

/-! Runs that come to the end of a feed leave what the feed says last, however
often its records were dealt with before.

While records are replayed, older ones stand in the place of newer ones, so the
rows are no fold of the feed up to the cursor. Yet each row on its own is as the
feed says up to some position, which is nowhere before the cursor. -/

namespace RecordSync.Run

open RecordSync.Calendar RecordSync.Change RecordSync.Feed RecordSync.Record RecordSync.Store
open Work

variable {σ : Type}

/-- Each row is as its feed says up to a position between the cursor and the end;
rows of an entity that stands are as its whole feed says. -/
structure Desk.Converging (desk : Desk σ) (place : CursorPlace) (standing : PerEntity Bool) :
    Prop where
  keyed : desk.store.Keyed
  behind : ∀ entity externalId, ∃ position,
    desk.cursor place entity ≤ position ∧ position ≤ desk.source.extent entity ∧
      desk.store.Mirrors entity externalId
        (lastWord entity externalId (between (desk.source.entries entity) 0 position))
  stands : ∀ entity, standing.get entity = true → ∀ externalId,
    desk.store.Mirrors entity externalId
      (lastWord entity externalId (desk.source.entries entity))

/-- What a worker may go through from nothing on: runs, whatever their options
and however they end, cursors put back, and a feed that grows or is opened again.
An entity stands while its last run ended with its feed exhausted. -/
inductive Campaign (actor : String) (place : CursorPlace) : Desk σ → PerEntity Bool → Prop where
  | start (source : Source) (around : σ) :
      Campaign actor place ⟨.empty, .start, source.remembering (.both .top), around⟩ (.both false)
  | grown {desk : Desk σ} {standing still : PerEntity Bool} {source : Source}
      (campaign : Campaign actor place desk standing) (grows : desk.source.GrowsInto source)
      (kept : ∀ entity, still.get entity = true → standing.get entity = true ∧
        source.entries entity = desk.source.entries entity) :
      Campaign actor place { desk with source } still
  | reopened {desk : Desk σ} {standing : PerEntity Bool}
      (campaign : Campaign actor place desk standing) :
      Campaign actor place { desk with source := desk.source.remembering (.both .top) } standing
  | rewound {desk after : Desk σ} {standing : PerEntity Bool} {result : Except SyncFault Nat}
      (campaign : Campaign actor place desk standing) (worker : Worker σ)
      (keeper : worker.cursors = place) (entity : Entity) (around : σ)
      (ran : (worker.resetCursor entity).exec { desk with around } = (result, after)) :
      Campaign actor place after standing
  | served {desk after : Desk σ} {standing : PerEntity Bool} {result : Except SyncFault Tally}
      (campaign : Campaign actor place desk standing) (worker : Worker σ)
      (author : worker.actor = actor) (keeper : worker.cursors = place)
      (real : worker.options.dryRun = false) (entity : Entity) (request : Request) (around : σ)
      (ran : (worker.serve entity request).exec { desk with around } = (result, after)) :
      Campaign actor place after
        (standing.set entity (result.toOption.any (·.stop == .exhausted)))

namespace Desk.Converging

variable {desk after : Desk σ} {place : CursorPlace} {standing : PerEntity Bool} {entity : Entity}

theorem start (source : Source) (around : σ) (place : CursorPlace) :
    Converging ⟨.empty, .start, source.remembering (.both .top), around⟩ place (.both false) := by
  refine ⟨?_, ?_, ?_⟩
  · intro entity
    rw [show Store.empty.rows = .both .empty from rfl, PerEntity.get_both]
    exact RowTable.empty_keyed
  · intro entity externalId
    refine ⟨0, ?_, Nat.zero_le _, ?_⟩
    · cases place <;> cases entity <;> exact Nat.le_refl 0
    · rw [between_self]
      cases entity <;> rfl
  · intro entity stood
    simp at stood

/-- Where the cursor is at the end, each row is as the whole feed says. -/
theorem at_end (converging : desk.Converging place standing)
    (arrived : desk.source.extent entity ≤ desk.cursor place entity) (externalId : String) :
    desk.store.Mirrors entity externalId
      (lastWord entity externalId (desk.source.entries entity)) := by
  obtain ⟨position, late, inside, mirrors⟩ := converging.behind entity externalId
  rwa [Source.between_whole (Nat.le_trans arrived late)] at mirrors

theorem grown (converging : desk.Converging place standing) {source : Source}
    {still : PerEntity Bool} (grows : desk.source.GrowsInto source)
    (kept : ∀ entity, still.get entity = true → standing.get entity = true ∧
      source.entries entity = desk.source.entries entity) :
    Converging { desk with source } place still := by
  refine ⟨converging.keyed, ?_, ?_⟩
  · intro entity externalId
    obtain ⟨position, late, inside, mirrors⟩ := converging.behind entity externalId
    refine ⟨position, late, Nat.le_trans inside (grows.1.extent_le entity), ?_⟩
    rwa [grows.1.between entity (Nat.le_trans inside (Nat.le_max_right _ _))]
  · intro entity stands externalId
    obtain ⟨stood, same⟩ := kept entity stands
    rw [same]
    exact converging.stands entity stood externalId

theorem reopened (converging : desk.Converging place standing) :
    Converging { desk with source := desk.source.remembering (.both .top) } place standing := by
  refine ⟨converging.keyed, ?_, ?_⟩
  · intro entity externalId
    simp only [Source.entries_remembering, Source.extent_remembering]
    exact converging.behind entity externalId
  · intro entity stands externalId
    simp only [Source.entries_remembering]
    exact converging.stands entity stands externalId

theorem elapsed (converging : desk.Converging place standing) (around : σ) :
    Converging { desk with around } place standing :=
  ⟨converging.keyed, converging.behind, converging.stands⟩

theorem rewound (converging : desk.Converging place standing) {worker : Worker σ}
    (keeper : worker.cursors = place) (rewound : worker.Rewound entity desk after) :
    after.Converging place standing := by
  subst keeper
  refine ⟨?_, ?_, ?_⟩
  · intro other
    rw [rewound.rows]
    exact converging.keyed other
  · intro other externalId
    obtain ⟨position, late, inside, mirrors⟩ := converging.behind other externalId
    refine ⟨position, ?_, rewound.source ▸ inside, ?_⟩
    · by_cases same : other = entity
      · rw [same, rewound.at_start]
        exact Nat.zero_le _
      · rwa [rewound.others _ _ (.inr same)]
    · rw [rewound.source]
      exact mirrors.congr_find? (by rw [rewound.rows])
  · intro other stands externalId
    rw [rewound.source]
    exact (converging.stands other stands externalId).congr_find? (by rw [rewound.rows])

/-- A stretch from the cursor on has its say about rows that were as the feed
says up to some position: now they are so up to the end of the stretch, or still
up to where they were. -/
theorem advanced {lane : Lane} {trail : List (Entry × Outcome)} {reach : Nat}
    (converging : desk.Converging lane.place standing)
    (advanced : lane.Advanced desk trail reach after) (externalId : String) :
    ∃ position, reach ≤ position ∧ position ≤ desk.source.extent lane.entity ∧
      after.store.Mirrors lane.entity externalId
        (lastWord lane.entity externalId
          (between (desk.source.entries lane.entity) 0 position)) := by
  obtain ⟨position, late, inside, mirrors⟩ := converging.behind lane.entity externalId
  have early := advanced.early
  have within := advanced.late
  have sorted := desk.source.entries_pairwise lane.entity
  have mirrored := advanced.applied.mirrors converging.keyed mirrors
  rw [advanced.stretch] at mirrored
  have joined {low middle high : Nat} (first : low ≤ middle) (second : middle ≤ high) :=
    congrArg (lastWord lane.entity externalId) (between_append sorted first second).symm
  simp only [lastWord_append] at joined
  by_cases further : position ≤ reach
  · refine ⟨reach, Nat.le_refl _, by omega, ?_⟩
    -- What the stretch repeats of the rows' own part of the feed changes nothing.
    have absorbed (later middle first : Option Change) :
        (later.or middle).or (middle.or first) = later.or (middle.or first) := by
      cases later <;> cases middle <;> rfl
    rw [joined late further, joined (Nat.zero_le _) late, absorbed] at mirrored
    rwa [joined (Nat.zero_le _) further, joined (Nat.zero_le _) late]
  · cases said : lastWord lane.entity externalId (between (desk.source.entries lane.entity)
        (desk.cursor lane.place lane.entity) reach) with
    | some word =>
      refine ⟨reach, Nat.le_refl _, by omega, ?_⟩
      rw [joined (Nat.zero_le _) early, said]
      rwa [said] at mirrored
    | none =>
      refine ⟨position, by omega, inside, ?_⟩
      rwa [said] at mirrored

/-- A run keeps rows and cursors together, and its entity stands if it came to
the end of the feed. -/
theorem run {lane : Lane} {trail : List (Entry × Outcome)} {middle reach : Nat} {stand : Bool}
    (converging : desk.Converging lane.place standing) (feed : desk.SameFeed after)
    (advanced : lane.Advanced desk trail reach after) (moved : lane.Moved desk middle after)
    (behind : middle ≤ reach)
    (arrived : stand = true → desk.source.extent lane.entity ≤ middle) :
    after.Converging lane.place (standing.set lane.entity stand) := by
  have others {other : Entity} (different : other ≠ lane.entity) (externalId : String)
      {word : Option Change} (mirrors : desk.store.Mirrors other externalId word) :
      after.store.Mirrors other externalId word := by
    have mirrored := advanced.applied.mirrors converging.keyed mirrors
    rwa [lastWord_of_ne different, Option.none_or] at mirrored
    intro entry member
    rw [advanced.stretch] at member
    exact (mem_between.mp member).1
  have behind (entity : Entity) (externalId : String) : ∃ position,
      after.cursor lane.place entity ≤ position ∧ position ≤ after.source.extent entity ∧
        after.store.Mirrors entity externalId
          (lastWord entity externalId (between (after.source.entries entity) 0 position)) := by
    rw [feed.extent, feed.entries]
    by_cases same : entity = lane.entity
    · subst same
      obtain ⟨position, late, inside, mirrors⟩ := converging.advanced advanced externalId
      exact ⟨position, moved.cursor ▸ Nat.le_trans behind late, inside, mirrors⟩
    · obtain ⟨position, late, inside, mirrors⟩ := converging.behind entity externalId
      exact ⟨position, moved.cursor_other same ▸ late, inside, others same externalId mirrors⟩
  have unstood : after.Converging lane.place (.both false) :=
    ⟨advanced.applied.keyed converging.keyed, behind,
      fun _ stood => by simp at stood⟩
  refine { unstood with stands := ?_ }
  intro entity stands externalId
  by_cases same : entity = lane.entity
  · subst same
    rw [PerEntity.get_set_same] at stands
    exact unstood.at_end (by rw [feed.extent, moved.cursor]; exact arrived stands) externalId
  · rw [PerEntity.get_set_of_ne _ _ same] at stands
    rw [feed.entries]
    exact others same externalId (converging.stands entity stands externalId)

end Desk.Converging

namespace Campaign

variable {actor : String} {place : CursorPlace} {desk : Desk σ} {standing : PerEntity Bool}

theorem sound (campaign : Campaign actor place desk standing) : desk.source.Sound := by
  induction campaign with
  | start source around => exact source.remembering_top_sound
  | grown _ grows _ ih => exact grows.sound ih
  | @reopened desk _ _ _ => exact desk.source.remembering_top_sound
  | @rewound desk _ _ _ _ worker _ entity around ran ih =>
    rw [((worker.resetCursor_ends entity { desk with around }).of_exec ran).2.source]
    exact ih
  | @served desk _ _ _ _ worker _ _ real entity request around ran ih =>
    exact ((@Worker.serve_ends _ worker (fun _ => True) entity (fun _ => trivial) real request
      { desk with around } ih).of_exec ran).1.sound

/-- A run over a feed that grows before each of its windows goes on with a campaign. -/
theorem runs {after : Desk σ} {worker : Worker σ} {entity : Entity} {most : Option Nat}
    {found : Source} {total : Tally} {planned : Planned} (real : worker.options.dryRun = false)
    (runs : worker.Runs entity most desk found total planned after)
    (campaign : Campaign worker.actor worker.cursors desk standing) :
    Campaign worker.actor worker.cursors after
      ((PerEntity.both false).set entity (total.stop == .exhausted)) := by
  have window {between last : Desk σ} {source : Source} {batch : Tally} {further : Planned}
      {standing : PerEntity Bool} (earlier : Campaign worker.actor worker.cursors between standing)
      (grows : between.source.GrowsInto source)
      (ran : (worker.windowOn entity none []).exec { between with source } =
        (.ok (batch, further), last)) :
      Campaign worker.actor worker.cursors last
        ((PerEntity.both false).set entity (batch.stop == .exhausted)) :=
    (earlier.grown grows fun _ stands => by simp at stands).served worker rfl rfl real entity .batch
      between.around (Worker.exec_serve_batch ran)
  induction runs with
  | first grows ran => exact window campaign grows ran
  | next earlier goes grows ran ih =>
    rw [Worker.onward_of_real real, earlier.planned_nil real] at ran
    have last := window ih grows ran
    exact last

/-- A campaign keeps rows and cursors together unless it gives a record up. -/
theorem converging (campaign : Campaign actor place desk standing) :
    desk.store.quarantine.entries ≠ [] ∨ desk.Converging place standing := by
  induction campaign with
  | start source around => exact .inr (.start source around place)
  | grown _ grows kept ih => exact ih.imp_right fun converging => converging.grown grows kept
  | reopened _ ih => exact ih.imp_right fun converging => converging.reopened
  | @rewound desk after standing result _ worker keeper entity around ran ih =>
    have rewound := ((worker.resetCursor_ends entity { desk with around }).of_exec ran).2
    refine ih.imp ?_ fun converging => (converging.elapsed around).rewound keeper rewound
    intro filled
    rwa [rewound.quarantine]
  | @served desk after standing result campaign worker author keeper real entity request around ran
      ih =>
    obtain ⟨feed, ended⟩ := (@Worker.serve_ends _ worker (fun _ => True) entity (fun _ => trivial)
      real request { desk with around } campaign.sound).of_exec ran
    subst keeper
    rcases ih with filled | converging
    · exact .inl (ended.quarantine filled)
    · cases ended with
      | surrendered quarantine counted => exact .inl quarantine
      | @completed tally _ trail completed =>
        refine .inr ((converging.elapsed around).run feed completed.toAdvanced completed.moved
          (Nat.le_refl _) ?_)
        intro stood
        exact completed.exhausted (by simpa [Except.toOption] using stood)
      | aborted trail middle reach aborted =>
        refine .inr ((converging.elapsed around).run feed aborted.toAdvanced aborted.moved
          aborted.behind ?_)
        simp [Except.toOption]

end Campaign

/-- A run that gives no record up and comes to the end of a feed, which may grow before each
of its windows, leaves the rows as that feed says. -/
theorem Worker.Runs.mirrors {worker : Worker σ} {entity : Entity} {most : Option Nat}
    {desk after : Desk σ} {standing : PerEntity Bool} {found : Source} {total : Tally}
    {planned : Planned} (runs : worker.Runs entity most desk found total planned after)
    (real : worker.options.dryRun = false)
    (campaign : Campaign worker.actor worker.cursors desk standing)
    (exhausted : total.stop = .exhausted) (kept : after.store.quarantine.entries = [])
    (externalId : String) :
    after.store.Mirrors entity externalId
      (lastWord entity externalId (after.source.entries entity)) := by
  rcases (campaign.runs real runs).converging with filled | converging
  · exact absurd kept filled
  · exact converging.stands entity (by simp [exhausted]) externalId

/-- Whatever a campaign went through, if it gave no record up and the last run of
an entity came to the end of its feed, then each row of that entity is as the
last record says that decides on it, and there is no row without one. -/
theorem Campaign.converges {actor : String} {place : CursorPlace} {desk : Desk σ}
    {standing : PerEntity Bool} (campaign : Campaign actor place desk standing)
    (kept : desk.store.quarantine.entries = []) (entity : Entity)
    (stands : standing.get entity = true) (externalId : String) :
    desk.store.Mirrors entity externalId
      (lastWord entity externalId (desk.source.entries entity)) := by
  rcases campaign.converging with filled | converging
  · exact absurd kept filled
  · exact converging.stands entity stands externalId

/-- The first cursor that is moved meets a locked store. -/
private def refusingOnce : Surroundings Bool where
  now refusing := (.ofMillis 0, refusing)
  cancelled refusing := (false, refusing)
  meet call refusing :=
    match call with
    | .advanceCursor _ => (if refusing then some (.store .locked) else none, false)
    | _ => (none, refusing)
  wait _ refusing := refusing

private def twoByTwo : Worker Bool :=
  ⟨refusingOnce, "sync", .store, ⟨2, false, some 25, false, false, .immediate 5 1⟩⟩

private def named (name : String) : String :=
  "\x7b\"id\":\"a\",\"createdon\":\"2020-01-01T00:00:00Z\"," ++
    "\"modifiedon\":\"2020-01-01T00:00:00Z\",\"statecode\":0," ++
    "\"attributes\":\x7b\"firstname\":\"" ++ name ++ "\",\"lastname\":\"B\"\x7d\x7d"

private def comeAgain : Source :=
  .memory ⟨[named "A", "\x7b\"id\":\"a\",\"change\":\"remove\"\x7d", named "C"], []⟩

private def untouched : Desk Bool := ⟨.empty, .start, comeAgain, true⟩

/-- What is left when the first cursor could not be moved. -/
private def unmoved : Desk Bool := ((twoByTwo.serve .contact (.untilIdle none)).exec untouched).2

/-- A first run makes and deletes a row and cannot move its cursor. A second one
does both again, and then makes the row anew: it is as the last record says. -/
theorem Campaign.converges_replayed : ∃ (fault : SyncFault) (tally : Tally) (final : Desk Bool),
    (twoByTwo.serve .contact (.untilIdle none)).exec untouched = (.error fault, unmoved) ∧
    (twoByTwo.serve .contact (.untilIdle none)).exec { unmoved with around := false } =
      (.ok tally, final) ∧ tally.created = 2 ∧ tally.deleted = 1 ∧
    lastWord .contact "a" (final.source.entries .contact) =
      some (decode (.ofText "contact" (named "C"))) ∧
    final.store.Mirrors .contact "a" (lastWord .contact "a" (final.source.entries .contact)) := by
  obtain ⟨fault, refused⟩ := @exec_of_no_answer _ _
    (twoByTwo.serve .contact (.untilIdle none)) untouched (by decide +kernel)
  change _ = (_, unmoved) at refused
  obtain ⟨answer, kept, said⟩ :
      ((twoByTwo.serve .contact (.untilIdle none)).exec
        { unmoved with around := false }).1.toOption =
          some ⟨.contact, 2, 3, 2, 0, 0, 0, 1, 0, 0, 0, 0, 0, 0, 3, .exhausted, false⟩ ∧
      ((twoByTwo.serve .contact (.untilIdle none)).exec
        { unmoved with around := false }).2.store.quarantine.entries = [] ∧
      lastWord .contact "a" (((twoByTwo.serve .contact (.untilIdle none)).exec
        { unmoved with around := false }).2.source.entries .contact) =
          some (decode (.ofText "contact" (named "C"))) := by decide +kernel
  have answered := exec_of_answer answer
  generalize ((twoByTwo.serve .contact (.untilIdle none)).exec
    { unmoved with around := false }).2 = final at answered kept said
  have campaign := ((Campaign.start comeAgain true).served twoByTwo rfl rfl rfl .contact
    (.untilIdle none) true refused).served twoByTwo rfl rfl rfl .contact (.untilIdle none) false
      answered
  exact ⟨fault, _, final, refused, answered, rfl, rfl, said,
    campaign.converges kept .contact rfl "a"⟩

end RecordSync.Run
