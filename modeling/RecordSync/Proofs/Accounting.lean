import RecordSync.Proofs.Arrival

/-! What a run counts. Each record of the stretch between its cursors ended for good in
one way, and each count is the number of those that ended so. It makes no difference what
surrounds a window: its counts depend on how records ended and on nothing else. -/

namespace RecordSync

open RecordSync.Calendar RecordSync.Change RecordSync.Feed RecordSync.Record RecordSync.Store

namespace Feed

/-- A page that leaves nothing out of a feed from a position on, whatever is added to the
feed later. -/
structure Page.Spans (page : Page) (source : Source) (entity : Entity) (position : Nat) : Prop where
  onward : position ≤ page.next
  late : page.next ≤ max position (source.extent entity)
  inside : ∀ entry ∈ page.entries, entry.sequence ≤ page.next
  split : ∃ rest, (source.entries entity).filter (position < ·.sequence) = page.entries ++ rest ∧
    ∀ entry ∈ rest, page.next < entry.sequence

namespace Page.Spans

variable {page : Page} {source later : Source} {entity : Entity} {position : Nat}

theorem of_covers {most : Nat} (covers : page.Covers (source.entries entity)
    (source.extent entity) position most) : page.Spans source entity position := by
  have bounded (entry : Entry) (member : entry ∈ source.entries entity) :
      entry.sequence ≤ source.extent entity := Source.le_extent_of_mem member
  obtain ⟨rest, whole, inside, beyond⟩ := covers.split (source.entries_pairwise entity) bounded
  exact ⟨covers.position_le_next, covers.next_le_max bounded, inside, rest, whole, beyond⟩

theorem grown (spans : page.Spans source entity position) (grows : source.Grows later) :
    page.Spans later entity position := by
  have late := spans.late
  have further := grows.extent_le entity
  obtain ⟨added, entries, behind⟩ := grows.entries entity
  obtain ⟨rest, whole, beyond⟩ := spans.split
  refine ⟨spans.onward, by omega, spans.inside,
    rest ++ added.filter (position < ·.sequence), ?_, ?_⟩
  · rw [entries, List.filter_append, whole, List.append_assoc]
  · intro entry member
    rcases List.mem_append.mp member with old | new
    · exact beyond entry old
    · obtain ⟨listed, ahead⟩ := List.mem_filter.mp new
      have after := behind entry listed
      have past : position < entry.sequence := of_decide_eq_true ahead
      omega

end Page.Spans

end Feed

namespace Run

open Work

/-- How many records a window puts off that stops so. -/
def Stop.postponed : Stop → Nat
  | .deferred _ => 1
  | _ => 0

/-- The caller's policy puts no record off. -/
theorem Options.stopAfter_postponed (options : Options) (sequence : Nat) (tally : Tally)
    (outcome : Outcome) : (options.stopAfter sequence tally outcome).elim 0 Stop.postponed = 0 := by
  cases stops : options.stopAfter sequence tally outcome with
  | none => rfl
  | some stop =>
    unfold stopAfter at stops
    split at stops
    · split at stops
      · split at stops <;> cases stops
        rfl
      · cases stops
    · split at stops <;> cases stops
      rfl
    · cases stops

def Ending.isOutcome (kind : Outcome → Bool) : Ending → Bool
  | .terminal outcome => kind outcome
  | _ => false

namespace Tally

/-- The counts of records that ended for good, each with the endings that it counts. -/
def columns : List ((Tally → Nat) × (Ending → Bool)) := [
  (applied, Ending.isOutcome Outcome.isApplied),
  (created, Ending.isOutcome fun outcome => outcome matches .created),
  (updated, Ending.isOutcome fun outcome => outcome matches .updated ..),
  (unchanged, Ending.isOutcome fun outcome => outcome matches .updated _ false),
  (stale, Ending.isOutcome fun outcome => outcome matches .updated true _),
  (deleted, Ending.isOutcome fun outcome => outcome matches .deleted),
  (alreadyAbsent, Ending.isOutcome fun outcome => outcome matches .alreadyAbsent),
  (invalid, Ending.isOutcome fun outcome => outcome matches .invalid _),
  (failed, fun ending => ending matches .quarantined | .terminal (.rejected _)),
  (quarantined, fun ending => ending matches .quarantined)]

/-- Counts that fit together, whatever they are counts of. -/
structure Coherent (tally : Tally) : Prop where
  applied : tally.applied = tally.created + tally.updated + tally.deleted + tally.alreadyAbsent
  stale : tally.stale ≤ tally.updated
  unchanged : tally.unchanged ≤ tally.updated
  quarantined : tally.quarantined ≤ tally.failed

/-- The counts of a stretch of a feed: the records of the stretch each ended for good, and
each count is the number of those that ended in its way. -/
structure Conserves (tally : Tally) (entries : List Entry) (trail : List (Entry × Ending)) : Prop
    extends tally.Coherent where
  deferred : tally.deferred = tally.stop.postponed
  onward : tally.cursorBefore ≤ tally.cursorAfter
  stretch : trail.map (·.1) = between entries tally.cursorBefore tally.cursorAfter
  final : ∀ visit ∈ trail, visit.2 ≠ .deferred
  counts : ∀ column ∈ columns, column.1 tally = trail.countP (column.2 ·.2)
  conserved : tally.processed - tally.deferred =
    (between entries tally.cursorBefore tally.cursorAfter).length

/-- The records of a stretch within the feed are the same ones later on. -/
theorem Conserves.grown {tally : Tally} {source later : Source} {entity : Entity}
    {trail : List (Entry × Ending)} (conserves : tally.Conserves (source.entries entity) trail)
    (grows : source.Grows later)
    (within : tally.cursorAfter ≤ max tally.cursorBefore (source.extent entity)) :
    tally.Conserves (later.entries entity) trail := by
  have same := grows.between entity within
  exact { conserves with
    stretch := conserves.stretch.trans same.symm
    conserved := by rw [same]; exact conserves.conserved }

theorem Coherent.absorb {tally later : Tally} (one : tally.Coherent) (two : later.Coherent) :
    (tally.absorb later).Coherent := by
  obtain ⟨applied, stale, unchanged, quarantined⟩ := one
  obtain ⟨appliedLater, staleLater, unchangedLater, quarantinedLater⟩ := two
  constructor <;> simp only [Tally.absorb] <;> omega

theorem column_absorb {column : (Tally → Nat) × (Ending → Bool)} (listed : column ∈ columns)
    (tally later : Tally) : column.1 (tally.absorb later) = column.1 tally + column.1 later := by
  revert column
  simp only [columns, List.forall_mem_cons, List.not_mem_nil, false_implies, implies_true, and_true]
  exact ⟨rfl, rfl, rfl, rfl, rfl, rfl, rfl, rfl, rfl, rfl⟩

/-- Two stretches, the second from where the first one ended without putting a record off. -/
theorem Conserves.absorb {tally later : Tally} {entries : List Entry}
    {trail more : List (Entry × Ending)} (sorted : entries.Pairwise (·.sequence < ·.sequence))
    (one : tally.Conserves entries trail) (full : tally.stop = .windowFull)
    (two : later.Conserves entries more) (follows : later.cursorBefore = tally.cursorAfter) :
    (tally.absorb later).Conserves entries (trail ++ more) := by
  have early := one.onward
  have late : tally.cursorAfter ≤ later.cursorAfter := follows ▸ two.onward
  have none : tally.deferred = 0 := by rw [one.deferred, full]; rfl
  have joined : between entries tally.cursorBefore later.cursorAfter =
      between entries tally.cursorBefore tally.cursorAfter ++
        between entries later.cursorBefore later.cursorAfter := by
    rw [follows, between_append sorted early late]
  refine { one.toCoherent.absorb two.toCoherent with
    deferred := ?_, onward := Nat.le_trans early late, stretch := ?_, final := ?_, counts := ?_
    conserved := ?_ }
  · show tally.deferred + later.deferred = later.stop.postponed
    rw [none, Nat.zero_add, two.deferred]
  · rw [List.map_append, one.stretch, two.stretch]
    exact joined.symm
  · intro visit member
    rcases List.mem_append.mp member with before | after
    · exact one.final visit before
    · exact two.final visit after
  · intro column listed
    rw [column_absorb listed, List.countP_append, one.counts column listed,
      two.counts column listed]
  · have first := one.conserved
    have second := two.conserved
    show _ = (between entries tally.cursorBefore later.cursorAfter).length
    rw [joined, List.length_append, ← first, ← second]
    simp only [processed, Tally.absorb]
    omega

end Tally

namespace Progress

/-- Taking the ending of a record into account leaves counts that fit together. -/
theorem note_coherent {progress : Progress} (coherent : progress.tally.Coherent)
    (options : Options) (sequence : Nat) (ending : Ending) :
    (progress.note options sequence ending).tally.Coherent := by
  obtain ⟨applied, stale, unchanged, quarantined⟩ := coherent
  rcases ending with (_ | ⟨stale, changed⟩ | _ | _ | _ | _) | _ | _
  case terminal.updated =>
    cases stale <;> cases changed <;> constructor <;>
      simp [note, Tally.record, Tally.recordKind, Outcome.isApplied] <;> omega
  all_goals
    constructor <;> simp [note, Tally.record, Tally.recordKind, Tally.recordQuarantined,
      Tally.recordDeferred, Outcome.isApplied] <;> omega

/-- Each ending is counted by the columns that it belongs to. -/
theorem note_column {column : (Tally → Nat) × (Ending → Bool)} (listed : column ∈ Tally.columns)
    (progress : Progress) (options : Options) (sequence : Nat) (ending : Ending) :
    column.1 (progress.note options sequence ending).tally =
      column.1 progress.tally + (column.2 ending).toNat := by
  revert column
  simp only [Tally.columns, List.forall_mem_cons, List.not_mem_nil, false_implies, implies_true,
    and_true]
  rcases ending with (_ | ⟨stale, changed⟩ | _ | _ | _ | _) | _ | _
  case terminal.updated =>
    cases stale <;> cases changed <;> exact ⟨rfl, rfl, rfl, rfl, rfl, rfl, rfl, rfl, rfl, rfl⟩
  all_goals exact ⟨rfl, rfl, rfl, rfl, rfl, rfl, rfl, rfl, rfl, rfl⟩

/-- A record that ends for good is applied, invalid or failed. -/
theorem note_length (progress : Progress) (options : Options) (sequence : Nat) {ending : Ending}
    (final : ending ≠ .deferred) :
    let noted := (progress.note options sequence ending).tally
    noted.applied + noted.invalid + noted.failed =
      progress.tally.applied + progress.tally.invalid + progress.tally.failed + 1 := by
  rcases ending with (_ | ⟨stale, changed⟩ | _ | _ | _ | _) | _ | _
  case deferred => exact absurd rfl final
  all_goals
    simp [note, Tally.record, Tally.recordKind, Tally.recordQuarantined, Outcome.isApplied]
    try omega

/-- How far a window counted that set out from a position: the records that it passed, how
each of them ended for good, and whether it stopped. -/
structure Reckons (cursor : Nat) (trail : List (Entry × Ending)) (progress : Progress) : Prop
    extends progress.tally.Coherent where
  cursorBefore : progress.tally.cursorBefore = cursor
  through : progress.through = lastPlace cursor (trail.map (·.1))
  final : ∀ visit ∈ trail, visit.2 ≠ .deferred
  counts : ∀ column ∈ Tally.columns, column.1 progress.tally = trail.countP (column.2 ·.2)
  length : progress.tally.applied + progress.tally.invalid + progress.tally.failed = trail.length
  deferred : progress.tally.deferred = progress.stop.elim 0 Stop.postponed
  cuts : ∀ stop, progress.stop = some stop → stop.Cuts

namespace Reckons

variable {cursor : Nat} {trail : List (Entry × Ending)} {progress : Progress}

/-- Plans are no matter for the counts. -/
theorem planned (reckons : progress.Reckons cursor trail) (planned : Planned) :
    Reckons cursor trail { progress with planned } := { reckons with }

/-- A window that is told to stop has counted what it had counted. -/
theorem cancelled (reckons : progress.Reckons cursor trail) (going : progress.stop = none) :
    Reckons cursor trail { progress with stop := some .cancelled } := by
  refine { reckons with deferred := ?_, cuts := ?_ }
  · rw [reckons.deferred, going]
    rfl
  · rintro _ ⟨⟩
    exact ⟨nofun, nofun⟩

/-- A record that is put off is no part of the trail. -/
theorem postponed (reckons : progress.Reckons cursor trail) (going : progress.stop = none)
    (options : Options) (sequence : Nat) :
    Reckons cursor trail (progress.note options sequence .deferred) := by
  have none := reckons.deferred
  rw [going] at none
  refine { reckons with
    toCoherent := note_coherent reckons.toCoherent options sequence .deferred
    counts := ?_, deferred := congrArg (· + 1) none, cuts := ?_ }
  · intro column listed
    rw [note_column listed, reckons.counts column listed]
    revert column
    simp [Tally.columns, Ending.isOutcome]
  · rintro _ ⟨⟩
    exact ⟨nofun, nofun⟩

/-- A record that ended for good is the next one of the trail. -/
theorem snoc (reckons : progress.Reckons cursor trail) (going : progress.stop = none)
    (options : Options) (entry : Entry) {ending : Ending} (final : ending ≠ .deferred) :
    Reckons cursor (trail ++ [(entry, ending)]) (progress.note options entry.sequence ending) := by
  have none := reckons.deferred
  rw [going] at none
  have coherent := note_coherent reckons.toCoherent options entry.sequence ending
  refine ⟨coherent, ?_, ?_, ?_, ?_, ?_, ?_, ?_⟩
  · rw [note_cursorBefore, reckons.cursorBefore]
  · cases ending with
    | deferred => exact absurd rfl final
    | terminal outcome => simp [note, lastPlace]
    | quarantined => simp [note, lastPlace]
  · intro visit member
    rcases List.mem_append.mp member with before | last
    · exact reckons.final visit before
    · rw [List.mem_singleton.mp last]
      exact final
  · intro column listed
    rw [note_column listed, reckons.counts column listed, List.countP_append, List.countP_singleton]
    cases column.2 ending <;> rfl
  · rw [List.length_append, ← reckons.length, List.length_singleton]
    exact note_length progress options entry.sequence final
  · cases ending with
    | deferred => exact absurd rfl final
    | terminal outcome =>
      have unmoved : (progress.tally.record outcome).deferred = progress.tally.deferred := by
        cases outcome <;> rfl
      exact (unmoved.trans none).trans (options.stopAfter_postponed entry.sequence _ outcome).symm
    | quarantined => exact reckons.deferred
  · intro stop stops
    cases ending with
    | deferred => exact absurd rfl final
    | terminal outcome => exact Options.stopAfter_cuts stops
    | quarantined => exact reckons.cuts stop stops

end Reckons

end Progress

namespace Worker

variable {σ : Type} {worker : Worker σ} {entity : Entity} {page : Page} {left : List Entry}
  {progress : Progress} {entry : Entry} {cursor : Nat} {trail : List (Entry × Ending)}

/-- How a window takes its next record, whatever surrounds it. -/
inductive Takes (worker : Worker σ) (progress : Progress) (entry : Entry) :
    Option Ending × Progress → Prop where
  | unreached (stopped : progress.stop.isSome = true) : Takes worker progress entry (none, progress)
  | cancelled (going : progress.stop = none) :
      Takes worker progress entry (none, { progress with stop := some .cancelled })
  | dealt (going : progress.stop = none) (ending : Ending) (planned : Planned) :
      Takes worker progress entry
        (some ending, { progress.note worker.options entry.sequence ending with planned })

theorem attend_takes (worker : Worker σ) (entity : Entity) (progress : Progress) (entry : Entry)
    (desk : Desk σ) : (worker.attend entity progress entry).Ends desk fun result _ =>
      ∀ answer, result = .ok answer → worker.Takes progress entry answer := by
  unfold attend
  cases going : progress.stop with
  | some stop =>
    simp only [Option.isSome_some, ↓reduceIte]
    refine ends_pure _ ?_
    rintro _ ⟨⟩
    exact .unreached (by rw [going]; rfl)
  | none =>
    simp only [Option.isSome_none, Bool.false_eq_true, ↓reduceIte]
    apply Ends.bind_exec
    · intro fault after _ answer impossible
      cases impossible
    · intro cancelled asked _
      split
      · refine ends_pure _ ?_
        rintro _ ⟨⟩
        exact .cancelled going
      · apply Ends.bind_exec
        · intro fault after _ answer impossible
          cases impossible
        · intro answer after _
          refine ends_pure _ ?_
          rintro _ ⟨⟩
          exact .dealt going answer.1 answer.2

/-- A window in the middle of its page: the records it passed, those it left alone once it
stopped, and those it has not come to yet. -/
structure MidPage (page : Page) (cursor : Nat) (left : List Entry) (trail : List (Entry × Ending))
    (skipped : List Entry) (progress : Progress) : Prop extends progress.Reckons cursor trail where
  shape : page.entries = trail.map (·.1) ++ (skipped ++ left)
  reached : progress.stop = none → skipped = []

/-- The part of a trail that a record makes up: none, unless it ended for good. -/
def trailOf (entry : Entry) : Option Ending → List (Entry × Ending)
  | none => []
  | some .deferred => []
  | some ending => [(entry, ending)]

/-- The step of a window: the next record joins those it passed or those it leaves alone. -/
theorem MidPage.takes {skipped : List Entry} {answer : Option Ending × Progress}
    (midPage : MidPage page cursor (entry :: left) trail skipped progress)
    (takes : worker.Takes progress entry answer) :
    ∃ skipped, MidPage page cursor left (trail ++ trailOf entry answer.1) skipped answer.2 := by
  have shape := midPage.shape
  have alone : page.entries =
      (trail ++ trailOf entry none).map (·.1) ++ ((skipped ++ [entry]) ++ left) := by
    simp [shape, trailOf]
  cases takes with
  | unreached stopped =>
    refine ⟨skipped ++ [entry], by simpa [trailOf] using midPage.toReckons, alone, ?_⟩
    intro going
    rw [going] at stopped
    cases stopped
  | cancelled going =>
    exact ⟨skipped ++ [entry], by simpa [trailOf] using midPage.cancelled going, alone, nofun⟩
  | dealt going ending planned =>
    have passed (final : ending ≠ .deferred) : MidPage page cursor left
        (trail ++ [(entry, ending)]) []
        { progress.note worker.options entry.sequence ending with planned } := by
      refine ⟨(midPage.snoc going _ entry final).planned planned, ?_, fun _ => rfl⟩
      rw [shape, midPage.reached going]
      simp
    cases ending with
    | deferred =>
      have postponed := (midPage.postponed going worker.options entry.sequence).planned planned
      exact ⟨skipped ++ [entry], by simpa [trailOf] using postponed, alone, nofun⟩
    | terminal outcome => exact ⟨[], passed nofun⟩
    | quarantined => exact ⟨[], passed nofun⟩

/-- The counts of a window that is through with its page are those of a stretch. -/
theorem MidPage.conserves {skipped : List Entry} {source : Source} (worker : Worker σ)
    (midPage : MidPage page cursor [] trail skipped progress)
    (spans : page.Spans source entity cursor) :
    (worker.conclude page progress).Conserves (source.entries entity) trail := by
  obtain ⟨rest, whole, beyond⟩ := spans.split
  have shape := midPage.shape
  rw [List.append_nil] at shape
  have ahead (other : Entry) (member : other ∈ trail.map (·.1)) : cursor < other.sequence := by
    have listed : other ∈ (source.entries entity).filter (cursor < ·.sequence) := by
      rw [whole, shape, List.append_assoc]
      exact List.mem_append_left _ member
    simpa using (List.mem_filter.mp listed).2
  have far : cursor ≤ progress.through := midPage.through ▸ le_lastPlace ahead
  have further := Nat.le_trans far (worker.through_le_cursorAfter page progress)
  have stretch : trail.map (·.1) =
      between (source.entries entity) cursor (worker.conclude page progress).cursorAfter := by
    cases stop : progress.stop with
    | some stopped =>
      have stands : (worker.conclude page progress).cursorAfter =
          lastPlace cursor (trail.map (·.1)) := by
        simp only [conclude, stop, Option.isSome_some, ↓reduceIte, midPage.through]
      rw [stands]
      rw [shape, List.append_assoc] at whole
      exact (between_lastPlace (source.entries_pairwise entity) whole).symm
    | none =>
      rw [midPage.reached stop, List.append_nil] at shape
      have within : progress.through ≤ page.next := by
        rw [midPage.through, ← shape]
        exact lastPlace_le spans.onward spans.inside
      rw [conclude_going stop within, ← shape]
      exact (between_eq_of_split whole spans.inside beyond).symm
  have start : (worker.conclude page progress).cursorBefore = cursor := midPage.cursorBefore
  refine { midPage.toCoherent with
    deferred := ?_, onward := start ▸ further, stretch := start ▸ stretch, final := midPage.final
    counts := ?_, conserved := ?_ }
  · show progress.tally.deferred = (worker.conclude page progress).stop.postponed
    rw [midPage.deferred]
    unfold conclude
    cases progress.stop with
    | some stopped => rfl
    | none =>
      show 0 = Stop.postponed (if _ then _ else _)
      split <;> rfl
  · intro column listed
    rw [← midPage.counts column listed]
    revert column
    simp [Tally.columns, conclude]
  · rw [start, ← stretch, List.length_map, ← midPage.length]
    simp only [Tally.processed, conclude]
    omega

/-- A window's cursor ends within the feed, unless it set out behind it. -/
theorem MidPage.cursorAfter_le {page : Page} {source : Source} {position : Nat}
    {trail : List (Entry × Ending)} {skipped : List Entry} {progress : Progress}
    (midPage : MidPage page position [] trail skipped progress)
    (covers : page.Covers (source.entries entity) (source.extent entity) position
      worker.options.window) :
    (worker.conclude page progress).cursorAfter ≤ max position (source.extent entity) := by
  have bounded : ∀ entry ∈ source.entries entity, entry.sequence ≤ source.extent entity :=
    fun _ => Source.le_extent_of_mem
  obtain ⟨_, _, inside, _⟩ := covers.split (source.entries_pairwise entity) bounded
  have within := covers.next_le_max bounded
  have through : progress.through ≤ page.next := by
    rw [midPage.through]
    apply lastPlace_le covers.position_le_next
    intro entry member
    apply inside entry
    rw [midPage.shape]
    exact List.mem_append_left _ member
  cases stops : progress.stop with
  | some stop =>
    simp only [conclude, stops, Option.isSome_some, ↓reduceIte]
    exact Nat.le_trans through within
  | none =>
    rw [conclude_going stops through]
    exact within

theorem opened_reckons (worker : Worker σ) (entity : Entity) (cursor : Nat) (planned : Planned) :
    (worker.opened entity cursor planned).Reckons cursor [] := by
  refine ⟨⟨rfl, Nat.le_refl 0, Nat.le_refl 0, Nat.le_refl 0⟩, rfl, rfl, nofun, ?_, rfl, rfl, nofun⟩
  simp [Tally.columns, opened, Tally.start]

theorem Takes.batches {answer : Option Ending × Progress}
    (takes : worker.Takes progress entry answer) :
    answer.2.tally.batches = progress.tally.batches := by
  cases takes with
  | unreached _ => rfl
  | cancelled _ => rfl
  | dealt _ ending _ =>
    cases ending with
    | terminal outcome => cases outcome <;> rfl
    | quarantined => rfl
    | deferred => rfl

/-- The records of a page, as far as they count. They are one window's. -/
theorem foldlM_step_midPage (worker : Worker σ) (entity : Entity) (page : Page) (cursor : Nat)
    (planned : Planned) (desk : Desk σ) :
    (page.entries.foldlM (worker.step entity) (worker.opened entity cursor planned)).Ends desk
      fun result _ => ∀ progress, result = .ok progress → progress.tally.batches = 1 ∧
        ∃ trail skipped, MidPage page cursor [] trail skipped progress := by
  apply (foldlM_ends (fun left progress _ => progress.tally.batches = 1 ∧ ∃ trail skipped,
    MidPage page cursor left trail skipped progress) (fun _ _ => True) ?_ page.entries _ desk
    ⟨rfl, [], [], worker.opened_reckons entity cursor planned, rfl, fun _ => rfl⟩).mono
  · rintro result after ends progress rfl
    exact ends
  · rintro entry left progress between ⟨one, trail, skipped, midPage⟩
    rw [step_eq_attend, map_eq_pure_bind]
    apply (worker.attend_takes entity progress entry between).bind
    · intro fault after _
      trivial
    · intro answer after takes
      have taken := takes answer rfl
      exact ends_pure _ ⟨taken.batches.trans one, _, midPage.takes taken⟩

/-- Dealing with records leaves the feed and the cursors as they are. -/
theorem foldlM_step_frame (worker : Worker σ) (entity : Entity) (entries : List Entry)
    (progress : Progress) (desk : Desk σ) :
    (entries.foldlM (worker.step entity) progress).Ends desk fun _ after =>
      desk.SameBeside after ∧ after.store.cursors = desk.store.cursors := by
  apply (foldlM_ends (fun _ _ after => desk.SameBeside after ∧
    after.store.cursors = desk.store.cursors) (fun _ after => desk.SameBeside after ∧
    after.store.cursors = desk.store.cursors) ?_ entries progress desk ⟨.refl desk, rfl⟩).mono
  · intro result after ends
    cases result with
    | error fault => exact ends
    | ok progress => exact ends
  · rintro entry left progress between ⟨beside, cursors⟩
    rw [step_eq_attend, map_eq_pure_bind]
    apply (worker.attend_frame entity progress entry between).bind
    · intro fault after frame
      exact ⟨beside.trans frame.1, frame.2.trans cursors⟩
    · intro answer after frame
      exact ends_pure _ ⟨beside.trans frame.1, frame.2.trans cursors⟩

/-- Where a window sets out from: a position that it is given, or else the cursor. -/
def SetsOut (worker : Worker σ) (entity : Entity) (desk : Desk σ) (position : Nat) :
    Option Nat → Prop
  | some given => given = position
  | none => desk.cursor worker.cursors entity = position

/-- The page of a window and its progress belong to the position that it sets out from. -/
theorem openWindow_from {desk : Desk σ} {position : Nat} {onward : Option Nat}
    (start : worker.SetsOut entity desk position onward) (planned : Planned)
    (sound : desk.source.Sound) :
    (worker.openWindow entity onward planned).Ends desk fun result after =>
      desk.Reread after ∧ ∀ opening, result = .ok opening →
        opening.2 = worker.opened entity position planned ∧
        opening.1.Covers (desk.source.entries entity) (desk.source.extent entity) position
          worker.options.window := by
  cases onward with
  | none =>
    apply (worker.openWindow_ends entity none planned desk sound).mono
    rintro result after ⟨reread, opens⟩
    refine ⟨reread, ?_⟩
    intro opening same
    obtain ⟨cursor, there, progress, _, covers⟩ := opens opening same
    obtain rfl : cursor = position := (there rfl).trans start
    exact ⟨progress, covers⟩
  | some given =>
    obtain rfl : given = position := start
    unfold openWindow
    simp only [pure_bind]
    apply (worker.fetch_ends entity given desk sound).bind
    · rintro fault after ⟨reread, _⟩
      exact ⟨reread, nofun⟩
    · rintro page after ⟨reread, fetched⟩
      refine ends_pure _ ⟨reread, ?_⟩
      rintro _ ⟨⟩
      exact ⟨rfl, (fetched page rfl).2⟩

/-- A window that is no dry run and ends with its counts leaves the cursor at the end of them. -/
theorem MidPage.settled {skipped : List Entry} {entries : List Entry} {desk after : Desk σ}
    (midPage : MidPage page cursor [] trail skipped progress)
    (conserves : (worker.conclude page progress).Conserves entries trail)
    (real : worker.options.dryRun = false) (there : desk.cursor worker.cursors entity = cursor)
    (settled : (worker.settle entity (worker.conclude page progress)).exec desk =
      (.ok (), after)) :
    after.cursor worker.cursors entity = (worker.conclude page progress).cursorAfter := by
  have found : desk.cursor worker.cursors entity =
      (worker.conclude page progress).cursorBefore := there.trans midPage.cursorBefore.symm
  have moved := (@settle_moved _ worker entity (fun _ => True) (fun _ => trivial) _ desk real
    found conserves.onward).of_exec settled
  exact moved.cursor

/-- One window: it answers with what it made of the page that belongs to where it set out,
and unless it is dry the cursor is where its counts say. -/
theorem window_midPage {desk : Desk σ} {position : Nat} {onward : Option Nat}
    (start : worker.SetsOut entity desk position onward)
    (there : worker.options.dryRun = false → desk.cursor worker.cursors entity = position)
    (planned : Planned) (sound : desk.source.Sound) :
    (worker.windowOn entity onward planned).Ends desk fun result after =>
      desk.SameFeed after ∧ ∀ window, result = .ok window → ∃ page progress trail skipped,
        page.Covers (desk.source.entries entity) (desk.source.extent entity) position
          worker.options.window ∧
        MidPage page position [] trail skipped progress ∧ progress.tally.batches = 1 ∧
        window.1 = worker.conclude page progress ∧
        (worker.options.dryRun = false →
          after.cursor worker.cursors entity = window.1.cursorAfter) := by
  apply (openWindow_from start planned sound).bind
  · rintro fault after ⟨reread, _⟩
    exact ⟨reread.toSameFeed, nofun⟩
  · rintro ⟨page, progress⟩ fetched ⟨reread, opened⟩
    obtain ⟨rfl, covers⟩ := opened _ rfl
    have same {after : Desk σ} (source : after.source = fetched.source) : desk.SameFeed after :=
      reread.toSameFeed.trans (.of_eq reread.sound source)
    unfold finish
    apply Ends.bind_exec
    · intro fault after ran
      have frame := (worker.foldlM_step_frame entity page.entries _ fetched).of_exec ran
      exact ⟨same frame.1.source, nofun⟩
    · intro progress attended ran
      have frame := (worker.foldlM_step_frame entity page.entries _ fetched).of_exec ran
      obtain ⟨one, trail, skipped, midPage⟩ :=
        (worker.foldlM_step_midPage entity page position planned fetched).of_exec ran progress rfl
      apply Ends.bind_exec
      · intro fault after settled
        have kept := (worker.settle_frame entity _ attended).of_exec settled
        exact ⟨same (kept.1.trans frame.1.source), nofun⟩
      · intro _ after settled
        have kept := (worker.settle_frame entity _ attended).of_exec settled
        refine ends_pure _ ⟨same (kept.1.trans frame.1.source), ?_⟩
        rintro _ ⟨⟩
        refine ⟨page, progress, trail, skipped, covers, midPage, one, rfl, fun real => ?_⟩
        have found : attended.cursor worker.cursors entity = position := by
          rw [frame.1.cursor frame.2, reread.cursor, there real]
        exact midPage.settled (midPage.conserves worker (.of_covers covers)) real found settled

/-- The counts of a window are those of a stretch from where it set out. -/
theorem window_conserves {desk : Desk σ} {position : Nat} {onward : Option Nat}
    (start : worker.SetsOut entity desk position onward)
    (there : worker.options.dryRun = false → desk.cursor worker.cursors entity = position)
    (planned : Planned) (sound : desk.source.Sound) :
    (worker.windowOn entity onward planned).Ends desk fun result after =>
      desk.SameFeed after ∧ ∀ window, result = .ok window →
        (∃ trail, window.1.Conserves (desk.source.entries entity) trail) ∧
        window.1.cursorAfter ≤ max position (desk.source.extent entity) ∧
        window.1.cursorBefore = position ∧
        (worker.options.dryRun = false →
          after.cursor worker.cursors entity = window.1.cursorAfter) := by
  apply (window_midPage start there planned sound).mono
  rintro result after ⟨feed, answers⟩
  refine ⟨feed, ?_⟩
  intro window answered
  obtain ⟨page, progress, trail, skipped, covers, midPage, _, concluded, cursor⟩ :=
    answers window answered
  rw [concluded] at cursor ⊢
  exact ⟨⟨trail, midPage.conserves worker (.of_covers covers)⟩, midPage.cursorAfter_le covers,
    midPage.cursorBefore, cursor⟩

/-- The position that a later window of a run sets out from is where those before ended. -/
theorem setsOut_onward {total : Tally} {desk : Desk σ} (there : worker.options.dryRun = false →
    desk.cursor worker.cursors entity = total.cursorAfter) :
    worker.SetsOut entity desk total.cursorAfter (worker.onward total.cursorAfter) := by
  cases real : worker.options.dryRun with
  | true => simp [onward, real, SetsOut]
  | false => simpa [onward, real, SetsOut] using there real

/-- What the windows of a run come to, at the desk that they leave: their counts are those of a
stretch of the feed, as the last of them found it. -/
structure Sums (worker : Worker σ) (entity : Entity) (found : Source) (total : Tally)
    (after : Desk σ) : Prop where
  feed : Desk.SameFeed { after with source := found } after
  conserves : ∃ trail, total.Conserves (found.entries entity) trail
  within : total.cursorAfter ≤ max total.cursorBefore (found.extent entity)
  stands : worker.options.dryRun = false → after.cursor worker.cursors entity = total.cursorAfter

/-- One more window, which goes on where those before ended. -/
theorem Sums.window {earlier found : Source} {total batch : Tally} {planned further : Planned}
    {between after : Desk σ} (sums : worker.Sums entity earlier total between)
    (full : total.stop = .windowFull) (grows : between.source.GrowsInto found)
    (ran : (worker.windowOn entity (worker.onward total.cursorAfter) planned).exec
      { between with source := found } = (.ok (batch, further), after)) :
    worker.Sums entity found (total.absorb batch) after := by
  obtain ⟨trail, conserves⟩ := sums.conserves
  have early := conserves.onward
  have extent := grows.1.extent_le entity
  have within := sums.within
  rw [← sums.feed.entries] at conserves
  rw [← sums.feed.extent] at within
  have read : Source.Sound found := grows.sound sums.feed.sound
  obtain ⟨feed, window⟩ := (@window_conserves _ worker entity { between with source := found } _ _
    (setsOut_onward sums.stands) sums.stands planned read).of_exec ran
  obtain ⟨⟨more, counted⟩, reached, follows, stands⟩ := window _ rfl
  -- What was counted so far is still there in the grown feed, at the same places.
  have kept : total.Conserves (found.entries entity) trail := conserves.grown grows.1 within
  have joined := kept.absorb (found.entries_pairwise entity) full counted follows
  refine ⟨⟨feed.marks, feed.sound⟩, ⟨_, joined⟩, ?_, stands⟩
  show batch.cursorAfter ≤ max total.cursorBefore (found.extent entity)
  replace reached : batch.cursorAfter ≤ max total.cursorAfter (found.extent entity) := reached
  omega

/-- A run counts a stretch of the feed, however that grew before each of its windows. -/
theorem Runs.sums {most : Option Nat} {start after : Desk σ} {found : Source} {total : Tally}
    {planned : Planned} (sound : start.source.Sound)
    (runs : worker.Runs entity most start found total planned after) :
    worker.Sums entity found total after := by
  induction runs with
  | @first found batch planned after grows ran =>
    have read : Source.Sound found := grows.sound sound
    have sets : worker.SetsOut entity { start with source := found }
      (Desk.cursor { start with source := found } worker.cursors entity) none := rfl
    obtain ⟨feed, window⟩ := (window_conserves sets (fun _ => rfl) [] read).of_exec ran
    obtain ⟨conserves, reached, begins, stands⟩ := window _ rfl
    exact ⟨⟨feed.marks, feed.sound⟩, conserves, by rw [begins]; exact reached, stands⟩
  | next runs goes grows ran sums => exact sums.window (stop_of_goes goes) grows ran

/-- The windows after the first are a run, too, with the feed as it is. -/
theorem Runs.drainOn {most : Option Nat} {start between after : Desk σ} {marks : PerEntity Mark}
    {total tally : Tally} {planned : Planned} (fuel : Nat) (sound : start.source.Sound)
    (runs : worker.Runs entity most start (start.source.remembering marks) total planned between)
    (ran : (worker.drainOn entity most fuel total planned).exec between = (.ok tally, after)) :
    ∃ marks further, worker.Runs entity most start (start.source.remembering marks) tally further
      after := by
  induction fuel generalizing total planned between marks with
  | zero =>
    cases ran
    exact ⟨marks, planned, runs⟩
  | succ fuel ih =>
    rw [drainOn_succ] at ran
    cases goes : goesOn most total with
    | false =>
      rw [goes] at ran
      cases ran
      exact ⟨marks, planned, runs⟩
    | true =>
      rw [goes, if_pos rfl] at ran
      rcases window : (worker.windowOn entity (worker.onward total.cursorAfter) planned).exec
        between with ⟨fault | ⟨batch, further⟩, next⟩
      · rw [exec_bind_of_error window] at ran
        cases ran
      · rw [exec_bind_of_ok window] at ran
        obtain ⟨remembered, same⟩ := (runs.sums sound).feed.marks
        have more := Runs.next runs goes (.refl between.source) window
        rw [same, Source.remembering_remembering] at more
        exact ih more ran

/-- What a run of either kind does to a feed that stays as it is. -/
theorem serve_runs (request : Request) {start after : Desk σ} {total : Tally}
    (sound : start.source.Sound)
    (ran : (worker.serve entity request).exec start = (.ok total, after)) :
    ∃ marks planned, worker.Runs entity request.most start (start.source.remembering marks) total
      planned after := by
  rw [exec_serve] at ran
  unfold resume at ran
  rcases window : (worker.window entity []).exec start with ⟨fault | ⟨batch, planned⟩, between⟩
  · rw [exec_bind_of_error window] at ran
    cases ran
  · rw [exec_bind_of_ok window] at ran
    have first : worker.Runs entity request.most start start.source batch planned between :=
      .first (.refl start.source) window
    rw [← start.source.remembering_marks] at first
    exact Runs.drainOn _ sound first ran

end Worker

variable {σ : Type}

/-- A window under way counted the records that it passed, and its page leaves none out. -/
def OpenWindow.Counted (window : OpenWindow σ) (source : Source) : Prop :=
  ∃ cursor trail skipped, window.page.Spans source window.entity cursor ∧
    Worker.MidPage window.page cursor window.left trail skipped window.progress

namespace System

variable {system after first : System σ} {id : Nat}

def Counted (system : System σ) : Prop :=
  ∀ id window, system.windows id = some window → window.Counted system.source

theorem noting_source (system : System σ) (window : OpenWindow σ) (entry : Entry)
    (ending : Option Ending) : (system.noting window entry ending).source = system.source := by
  unfold noting
  split
  · split <;> rfl
  · rfl

theorem Counted.put (counted : system.Counted) {window : Option (OpenWindow σ)}
    (fits : ∀ opened, window = some opened → opened.Counted system.source) :
    (system.put id window).Counted := by
  intro other opened underway
  by_cases same : other = id
  · subst same
    simp only [System.put, Function.update_self] at underway
    exact fits opened underway
  · simp only [System.put, ne_eq, same, not_false_eq_true, Function.update_of_ne] at underway
    exact counted other opened underway

theorem Counted.close (counted : system.Counted) : (system.put id none).Counted :=
  counted.put fun _ impossible => by cases impossible

theorem Counted.seat (counted : system.Counted) (reader : Nat) (desk : Desk σ) :
    (system.seat reader desk).Counted := counted

/-- A step of anyone leaves the windows under way with what they counted. -/
theorem Counted.step (counted : system.Counted) (invariant : system.Invariant)
    (step : Step system after) : after.Counted := by
  cases step with
  | grown grows =>
    intro id window underway
    obtain ⟨cursor, trail, skipped, spans, midPage⟩ := counted id window underway
    exact ⟨cursor, trail, skipped, spans.grown grows, midPage⟩
  | rewound worker reader entity around ran => exact counted
  | @opened id page progress desk worker reader entity onward planned around idle dry ran =>
    apply (counted.seat reader desk).put
    rintro _ ⟨⟩
    obtain ⟨position, sets⟩ : ∃ position,
        worker.SetsOut entity (system.desk reader around) position onward := by
      cases onward <;> exact ⟨_, rfl⟩
    obtain ⟨_, opens⟩ :=
      (Worker.openWindow_from sets planned (invariant.sound reader)).of_exec ran
    obtain ⟨rfl, covers⟩ := opens _ rfl
    exact ⟨position, [], [], .of_covers (by simpa [System.desk, System.seat] using covers),
      worker.opened_reckons entity position planned, rfl, fun _ => rfl⟩
  | unopened worker reader entity onward planned around ran => exact counted
  | @attended id window entry rest ending progress desk underway left ran =>
    obtain ⟨cursor, trail, skipped, spans, midPage⟩ := counted id window underway
    have takes := (window.worker.attend_takes window.entity window.progress entry _).of_exec ran
    rw [left] at midPage
    obtain ⟨alone, further⟩ := midPage.takes (takes _ rfl)
    have kept : ((system.seat window.reader desk).noting window entry ending).Counted := by
      intro other opened same
      rw [noting_windows] at same
      rw [noting_source]
      exact counted other opened same
    apply kept.put
    rintro _ ⟨⟩
    rw [noting_source]
    exact ⟨cursor, _, alone, spans, further⟩
  | faulted underway left ran => exact (counted.seat _ _).close
  | settled underway left ran => exact (counted.seat _ _).close
  | abandoned id => exact counted.close

theorem reaches_counted (initial : first.Initial) (reaches : Reaches first system) :
    system.Counted := by
  induction reaches with
  | refl =>
    intro id window underway
    rw [initial.windows] at underway
    cases underway
  | step reaches step counted => exact counted.step (reaches_invariant initial reaches) step

end System

/-- Whatever surrounds a worker, on a dry run or not, a run that ends with its counts counted
each record between its cursors once, by the way in which it ended for good, and besides
these at most the one record that it stopped before to put it off. So did a window that is
through with its page, whatever other workers did meanwhile, and so does a run whose feed
grows before each of its windows. -/
theorem Worker.records_conserved :
    (∀ (worker : Worker σ) (entity : Entity) (request : Request) (desk after : Desk σ)
      (tally : Tally), desk.source.Sound →
      (worker.serve entity request).exec desk = (.ok tally, after) →
        ∃ trail, tally.Conserves (desk.source.entries entity) trail) ∧
    (∀ (first system : System σ) (id : Nat) (window : OpenWindow σ), first.Initial →
      System.Reaches first system → system.windows id = some window → window.left = [] →
        ∃ trail, (window.worker.conclude window.page window.progress).Conserves
          (system.source.entries window.entity) trail) ∧
    ∀ (worker : Worker σ) (entity : Entity) (most : Option Nat) (start after : Desk σ)
      (found : Source) (total : Tally) (planned : Planned), start.source.Sound →
      worker.Runs entity most start found total planned after →
        ∃ trail, total.Conserves (found.entries entity) trail := by
  refine ⟨?_, ?_, ?_⟩
  · intro worker entity request desk after tally sound ran
    obtain ⟨marks, planned, runs⟩ := serve_runs request sound ran
    have sums := (runs.sums sound).conserves
    rwa [Source.entries_remembering] at sums
  · intro first system id window initial reaches underway left
    obtain ⟨cursor, trail, skipped, spans, midPage⟩ :=
      System.reaches_counted initial reaches id window underway
    rw [left] at midPage
    exact ⟨trail, midPage.conserves window.worker spans⟩
  · intro worker entity most start after found total planned sound runs
    exact (runs.sums sound).conserves

private def lockedAtB : Surroundings Unit where
  now around := (.ofMillis 0, around)
  cancelled around := (false, around)
  meet call around := (if call = .read .contact "b" then some (.store .locked) else none, around)
  wait _ around := around

private def pairwise : Worker Unit :=
  ⟨lockedAtB, "sync", .store, ⟨2, false, some 25, false, false, .immediate 5 1⟩⟩

private def threeRecords : Desk Unit :=
  ⟨.empty, .start, .memory ⟨["\x7b\"id\":\"a\",\"change\":\"remove\"\x7d", "none",
    "\x7b\"id\":\"b\",\"change\":\"remove\"\x7d"], []⟩, ()⟩

/-- A removal of what is absent, a record that cannot be read, and in the second window one
that is put off: two of the three are between the cursors. -/
theorem Worker.records_conserved_put_off : ∃ (tally : Tally) (after : Desk Unit)
    (trail : List (Entry × Ending)),
    (pairwise.serve .contact (.untilIdle none)).exec threeRecords = (.ok tally, after) ∧
    tally.stop = .deferred 3 ∧ tally.batches = 2 ∧ tally.alreadyAbsent = 1 ∧ tally.invalid = 1 ∧
    tally.cursorAfter = 2 ∧ trail.length = 2 ∧
    tally.Conserves (threeRecords.source.entries .contact) trail := by
  have ran := @exec_of_answer _ _ (pairwise.serve .contact (.untilIdle none)) threeRecords
    ⟨.contact, 2, 1, 0, 0, 0, 0, 0, 1, 1, 0, 1, 0, 0, 2, .deferred 3, false⟩ (by decide +kernel)
  have sound : threeRecords.source.Sound := trivial
  obtain ⟨trail, conserves⟩ := Worker.records_conserved.1 _ _ _ _ _ _ sound ran
  have length : (trail.map (·.1)).length = 2 := by
    rw [conserves.stretch, ← conserves.conserved]
    rfl
  rw [List.length_map] at length
  exact ⟨_, _, trail, ran, rfl, rfl, rfl, rfl, rfl, length, conserves⟩

end Run

end RecordSync
