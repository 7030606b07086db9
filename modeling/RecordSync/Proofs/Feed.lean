import RecordSync.Feed.Lines
import RecordSync.Proofs.Lines

/-! Either kind of feed as the list of its entries. A feed that grows keeps its
entries and adds new ones behind the last place that was there. -/

namespace RecordSync

open RecordSync.Feed RecordSync.Record

/-- What stands in place of a file later on, if it is only appended to. -/
def FileState.Grows : FileState → FileState → Prop
  | .missing, _ => True
  | .directory, .directory => True
  | .bytes before, .bytes after => before <+: after
  | _, _ => False

theorem FileState.Grows.refl (file : FileState) : file.Grows file := by
  cases file <;> simp [Grows]

theorem FileState.Grows.trans {first second third : FileState} (one : first.Grows second)
    (two : second.Grows third) : first.Grows third := by
  cases first <;> cases second <;> cases third <;> simp [Grows] at one two ⊢
  exact one.trans two

namespace Feed

/-- The complete lines of a file; anything else has none. -/
def linesIn : FileState → List (List UInt8)
  | .bytes bytes => LineFeed.linesOf bytes
  | _ => []

theorem linesIn_grows {before after : FileState} (grows : before.Grows after) :
    linesIn before <+: linesIn after := by
  cases before with
  | missing => exact List.nil_prefix
  | directory => exact List.nil_prefix
  | bytes early =>
    cases after with
    | missing => exact grows.elim
    | directory => exact grows.elim
    | bytes late =>
      obtain ⟨more, rfl⟩ := grows
      obtain ⟨added, lines⟩ := LineFeed.linesOf_append early more
      exact ⟨added, lines.symm⟩

/-- The mark of a file that was read stands at the end of a line. -/
def Mark.FitsFile (mark : Mark) : FileState → Prop
  | .bytes bytes => mark.Fits bytes
  | _ => mark = .top

theorem Mark.FitsFile.grows {mark : Mark} {before after : FileState} (fits : mark.FitsFile before)
    (grows : before.Grows after) : mark.FitsFile after := by
  have atTop (there : mark = .top) : mark.FitsFile after := by
    subst there
    cases after with
    | bytes bytes => exact Mark.fits_top bytes
    | missing => rfl
    | directory => rfl
  cases before with
  | missing => exact atTop fits
  | directory => exact atTop fits
  | bytes early =>
    cases after with
    | missing => exact grows.elim
    | directory => exact grows.elim
    | bytes late =>
      obtain ⟨more, rfl⟩ := grows
      exact fits.append more

namespace Source

/-- What a feed remembers; a feed in memory has nothing to remember. -/
def marks : Source → PerEntity Mark
  | .memory _ => .both .top
  | .lines feed => feed.marks

def entries (source : Source) (entity : Entity) : List Entry :=
  match source with
  | .memory feed => feed.entries entity
  | .lines feed => placed (LineFeed.delivered? entity) 1 (linesIn (feed.files.get entity))

/-- The number of the last place of a kind. -/
def extent (source : Source) (entity : Entity) : Nat :=
  match source with
  | .memory feed => feed.length entity
  | .lines feed => (linesIn (feed.files.get entity)).length

/-- Whether a feed can be read: nothing but a file may stand where one should. -/
def Readable (source : Source) (entity : Entity) : Prop :=
  match source with
  | .memory _ => True
  | .lines feed => feed.files.get entity ≠ .directory

/-- What a feed remembers of its files is true of them. -/
def Sound : Source → Prop
  | .memory _ => True
  | .lines feed => ∀ entity, (feed.marks.get entity).FitsFile (feed.files.get entity)

/-- The feed later on, if it is only appended to. What it remembers may differ,
for it may be read through another reader. -/
def Grows : Source → Source → Prop
  | .memory before, .memory after => ∀ entity, before.get entity <+: after.get entity
  | .lines before, .lines after =>
    ∀ entity, (before.files.get entity).Grows (after.files.get entity)
  | _, _ => False

def remembering (source : Source) (marks : PerEntity Mark) : Source :=
  match source with
  | .memory feed => .memory feed
  | .lines feed => .lines { feed with marks }

@[simp] theorem entries_remembering (source : Source) (marks : PerEntity Mark) (entity : Entity) :
    (source.remembering marks).entries entity = source.entries entity := by
  cases source <;> rfl

@[simp] theorem extent_remembering (source : Source) (marks : PerEntity Mark) (entity : Entity) :
    (source.remembering marks).extent entity = source.extent entity := by
  cases source <;> rfl

@[simp] theorem remembering_marks (source : Source) : source.remembering source.marks = source := by
  cases source <;> rfl

@[simp] theorem remembering_remembering (source : Source) (earlier later : PerEntity Mark) :
    (source.remembering earlier).remembering later = source.remembering later := by
  cases source <;> rfl

@[simp] theorem remembering_marks_remembering (source : Source) (marks : PerEntity Mark) :
    source.remembering (source.remembering marks).marks = source.remembering marks := by
  cases source <;> rfl

theorem remembering_top_sound (source : Source) : (source.remembering (.both .top)).Sound := by
  cases source with
  | memory feed => trivial
  | lines feed =>
    intro entity
    have top : (PerEntity.both Mark.top).get entity = .top := by cases entity <;> rfl
    show ((PerEntity.both Mark.top).get entity).FitsFile (feed.files.get entity)
    rw [top]
    cases feed.files.get entity with
    | bytes bytes => exact Mark.fits_top bytes
    | missing => rfl
    | directory => rfl

theorem Grows.refl (source : Source) : source.Grows source := by
  cases source with
  | memory feed => exact fun _ => List.prefix_rfl
  | lines feed => exact fun _ => .refl _

/-- A reader's marks stay true while its files are appended to. -/
theorem Grows.sound {before after : Source} {marks : PerEntity Mark} (grows : before.Grows after)
    (sound : (before.remembering marks).Sound) : (after.remembering marks).Sound := by
  cases before with
  | memory early =>
    cases after with
    | memory late => trivial
    | lines late => exact grows.elim
  | lines early =>
    cases after with
    | memory late => exact grows.elim
    | lines late =>
      intro entity
      exact (sound entity).grows (grows entity)

private theorem entries_eq_placed (source : Source) (entity : Entity) :
    ∃ (γ : Type) (deliver : γ → Option Change.Delivery) (items : List γ),
      source.entries entity = placed deliver 1 items ∧ source.extent entity = items.length ∧
      ∀ item ∈ items, ∀ delivery ∈ deliver item, delivery.entityName = entity.name := by
  cases source with
  | memory feed =>
    refine ⟨String, _, feed.get entity, numbered_eq_placed entity 1 _, rfl, ?_⟩
    rintro item _ delivery ⟨⟩
    rfl
  | lines feed =>
    refine ⟨_, _, linesIn (feed.files.get entity), rfl, rfl, ?_⟩
    intro line _ delivery delivered
    unfold LineFeed.delivered? at delivered
    split at delivered
    · cases delivered
    · cases delivered
      unfold Change.Delivery.ofBytes
      split <;> rfl

theorem entries_pairwise (source : Source) (entity : Entity) :
    (source.entries entity).Pairwise (·.sequence < ·.sequence) := by
  obtain ⟨_, _, _, entries, _⟩ := source.entries_eq_placed entity
  rw [entries]
  exact placed_pairwise _ _ _

theorem le_extent_of_mem {source : Source} {entity : Entity} {entry : Entry}
    (member : entry ∈ source.entries entity) : entry.sequence ≤ source.extent entity := by
  obtain ⟨_, _, _, entries, extent, _⟩ := source.entries_eq_placed entity
  rw [entries] at member
  have bounds := placed_bounds member
  omega

theorem one_le_of_mem {source : Source} {entity : Entity} {entry : Entry}
    (member : entry ∈ source.entries entity) : 1 ≤ entry.sequence := by
  obtain ⟨_, _, _, entries, _⟩ := source.entries_eq_placed entity
  rw [entries] at member
  exact (placed_bounds member).1

/-- What a feed delivers bears its entity's name. -/
theorem entityName_of_mem {source : Source} {entity : Entity} {entry : Entry}
    (member : entry ∈ source.entries entity) : entry.delivery.entityName = entity.name := by
  obtain ⟨_, _, _, entries, _, named⟩ := source.entries_eq_placed entity
  rw [entries] at member
  obtain ⟨item, there, delivered⟩ := delivered_of_mem_placed member
  exact named item there _ delivered

/-- Growing adds entries behind the last place. -/
theorem Grows.entries {before after : Source} (grows : before.Grows after) (entity : Entity) :
    ∃ added, after.entries entity = before.entries entity ++ added ∧
      ∀ entry ∈ added, before.extent entity < entry.sequence := by
  have behind {γ : Type} {deliver : γ → Option Change.Delivery} {items more : List γ} :
      ∃ added, placed deliver 1 (items ++ more) = placed deliver 1 items ++ added ∧
        ∀ entry ∈ added, items.length < entry.sequence := by
    refine ⟨_, placed_append _ _ _ _, ?_⟩
    intro entry member
    have bounds := placed_bounds member
    omega
  cases before with
  | memory early =>
    cases after with
    | lines late => exact grows.elim
    | memory late =>
      obtain ⟨more, same⟩ := grows entity
      simp only [Source.entries, extent, MemoryFeed.entries, MemoryFeed.length,
        numbered_eq_placed, ← same]
      exact behind
  | lines early =>
    cases after with
    | memory late => exact grows.elim
    | lines late =>
      obtain ⟨more, same⟩ := linesIn_grows (grows entity)
      simp only [Source.entries, extent, ← same]
      exact behind

theorem Grows.extent_le {before after : Source} (grows : before.Grows after) (entity : Entity) :
    before.extent entity ≤ after.extent entity := by
  cases before with
  | memory early =>
    cases after with
    | lines late => exact grows.elim
    | memory late => exact (grows entity).length_le
  | lines early =>
    cases after with
    | memory late => exact grows.elim
    | lines late => exact (linesIn_grows (grows entity)).length_le

private theorem last_behind (entity : Entity) (payloads : List String) (position : Nat) :
    ((((MemoryFeed.numbered entity 1 payloads).filter (position < ·.sequence)).getLast?.map
      (·.sequence)).getD position) = max position payloads.length := by
  rcases List.eq_nil_or_concat payloads with rfl | ⟨before, last, rfl⟩
  · simp [MemoryFeed.numbered]
  · by_cases inside : position < before.length + 1
    · have late : position < 1 + before.length := by omega
      simp only [numbered_eq_placed, List.concat_eq_append, placed_append, placed,
        List.filter_append, List.filter_cons, List.filter_nil, late, decide_true, ↓reduceIte,
        List.getLast?_append, List.getLast?_singleton, Option.some_or, Option.map_some,
        Option.getD_some, List.length_append, List.length_singleton]
      omega
    · have nothing : (MemoryFeed.numbered entity 1 (before.concat last)).filter
          (position < ·.sequence) = [] := by
        rw [numbered_eq_placed]
        exact LineFeed.placed_filter_early _ (by simp; omega)
      rw [nothing, List.concat_eq_append, List.length_append, List.length_singleton]
      show position = _
      omega

/-- A stretch within the feed as it was is the same later on. -/
theorem Grows.between {before after : Source} (grows : before.Grows after) (entity : Entity)
    {low high : Nat} (within : high ≤ max low (before.extent entity)) :
    Feed.between (after.entries entity) low high =
      Feed.between (before.entries entity) low high := by
  obtain ⟨added, entries, behind⟩ := grows.entries entity
  have nothing : Feed.between added low high = [] := by
    apply List.filter_eq_nil_iff.mpr
    intro entry member
    have late := behind entry member
    simp
    omega
  rw [entries, Feed.between, List.filter_append]
  change Feed.between _ low high ++ Feed.between added low high = _
  rw [nothing, List.append_nil]

/-- Up to its end or further, a feed is whole. -/
theorem between_whole {source : Source} {entity : Entity} {position : Nat}
    (arrived : source.extent entity ≤ position) :
    Feed.between (source.entries entity) 0 position = source.entries entity := by
  rw [between_of_le fun entry member => ?_, List.filter_eq_self.mpr fun entry member => ?_]
  · exact decide_eq_true (one_le_of_mem member)
  · exact Nat.le_trans (le_extent_of_mem member) arrived

/-- The feed later on, with the reader's marks as they were. -/
def GrowsInto (before after : Source) : Prop :=
  before.Grows after ∧ after.marks = before.marks

theorem GrowsInto.refl (source : Source) : source.GrowsInto source :=
  ⟨.refl source, rfl⟩

theorem GrowsInto.sound {before after : Source} (grows : before.GrowsInto after)
    (sound : before.Sound) : after.Sound := by
  rw [← after.remembering_marks, grows.2]
  exact grows.1.sound (by rwa [before.remembering_marks])

/-- A feed in memory with one more payload. -/
def pushed (source : Source) (entity : Entity) (payload : String) : Source :=
  match source with
  | .memory feed => .memory (feed.push entity payload).2
  | .lines feed => .lines feed

theorem growsInto_pushed (source : Source) (entity : Entity) (payload : String) :
    source.GrowsInto (source.pushed entity payload) := by
  cases source with
  | lines feed => exact .refl _
  | memory feed =>
    refine ⟨fun other => ?_, rfl⟩
    by_cases about : other = entity
    · subst about
      rw [MemoryFeed.push, PerEntity.get_set_same]
      exact List.prefix_append _ _
    · have kept := PerEntity.get_set_of_ne feed (feed.get entity ++ [payload]) about
      exact ⟨[], (List.append_nil _).trans kept.symm⟩

/-- A page of either kind of feed holds the next entries behind its position, as
many as fit. Reading changes nothing but the marks. -/
theorem fetch_spec {source after : Source} {entity : Entity} {position most : Nat} {page : Page}
    (sound : source.Sound) (fetched : source.fetch entity position most = .ok (page, after)) :
    page.Covers (source.entries entity) (source.extent entity) position most ∧
      after.Sound ∧ ∃ marks, after = source.remembering marks := by
  cases source with
  | memory feed =>
    cases fetched
    refine ⟨⟨rfl, fun _ => rfl, ?_⟩, trivial, .both .top, rfl⟩
    intro short
    have all : ((feed.entries entity).filter (position < ·.sequence)).take most =
        (feed.entries entity).filter (position < ·.sequence) := by
      apply List.take_of_length_le
      simp only [MemoryFeed.fetch, List.length_take] at short
      omega
    simp only [MemoryFeed.fetch, all]
    exact last_behind entity _ position
  | lines feed =>
    simp only [fetch, LineFeed.fetch] at fetched
    have fits := sound entity
    split at fetched
    · rename_i missing
      cases fetched
      refine ⟨⟨?_, ?_, ?_⟩, sound, feed.marks, rfl⟩
      · simp [Source.entries, missing, linesIn, placed]
      · intro _
        rfl
      · intro _
        simp [extent, missing, linesIn]
    · cases fetched
    · rename_i bytes present
      cases fetched
      rw [present] at fits
      obtain ⟨covers, fitsAfter⟩ := LineFeed.pageOf_spec fits entity position most
      refine ⟨?_, ?_, _, rfl⟩
      · simp only [Source.entries, extent, present, linesIn]
        exact covers
      · intro other
        by_cases same : other = entity
        · subst same
          simp only [PerEntity.get_set_same, present]
          exact fitsAfter
        · simp only [PerEntity.get_set_of_ne _ _ same]
          exact sound other

/-- Whatever a feed remembers, the entries of its pages bear their entity's name. -/
theorem fetch_named {source after : Source} {entity : Entity} {position most : Nat} {page : Page}
    (fetched : source.fetch entity position most = .ok (page, after)) :
    ∀ entry ∈ page.entries, entry.delivery.entityName = entity.name := by
  cases source with
  | memory feed =>
    cases fetched
    intro entry member
    have listed := (List.mem_filter.mp (List.mem_of_mem_take member)).1
    exact entityName_of_mem (show entry ∈ Source.entries (.memory feed) entity from listed)
  | lines feed =>
    simp only [fetch, LineFeed.fetch] at fetched
    split at fetched
    · cases fetched
      intro entry member
      cases member
    · cases fetched
    · cases fetched
      intro entry member
      refine LineFeed.gather_named ?_ _ entry (List.mem_reverse.mp member)
      intro _ none
      cases none

/-- Reading changes nothing but what is remembered of the one kind. -/
theorem fetch_marks {source after : Source} {entity : Entity} {position most : Nat} {page : Page}
    (fetched : source.fetch entity position most = .ok (page, after)) :
    ∃ marks, after = source.remembering marks ∧
      ∀ other, other ≠ entity → marks.get other = source.marks.get other := by
  cases source with
  | memory feed =>
    cases fetched
    exact ⟨.both .top, rfl, fun _ _ => rfl⟩
  | lines feed =>
    simp only [fetch, LineFeed.fetch] at fetched
    split at fetched
    · cases fetched
      exact ⟨feed.marks, rfl, fun _ _ => rfl⟩
    · cases fetched
    · cases fetched
      exact ⟨_, rfl, fun _ different => PerEntity.get_set_of_ne _ _ different⟩

theorem readable_of_fetch {source after : Source} {entity : Entity} {position most : Nat}
    {page : Page} (fetched : source.fetch entity position most = .ok (page, after)) :
    source.Readable entity := by
  cases source with
  | memory feed => trivial
  | lines feed =>
    intro directory
    simp only [fetch, LineFeed.fetch, directory] at fetched
    cases fetched

theorem Readable.fetch {source : Source} {entity : Entity} (readable : source.Readable entity)
    (position most : Nat) :
    ∃ page after, source.fetch entity position most = .ok (page, after) := by
  cases source with
  | memory feed => exact ⟨_, _, rfl⟩
  | lines feed =>
    simp only [Source.fetch, LineFeed.fetch]
    cases present : feed.files.get entity with
    | missing => exact ⟨_, _, rfl⟩
    | bytes bytes => exact ⟨_, _, rfl⟩
    | directory => exact absurd present readable

/-- A feed that cannot be read says so, wherever it is read from. -/
theorem fetch_of_not_readable {source : Source} {entity : Entity}
    (unreadable : ¬ source.Readable entity) :
    ∃ fault, ∀ (marks : PerEntity Mark) (position most : Nat),
      (source.remembering marks).fetch entity position most = .error fault := by
  cases source with
  | memory feed => exact absurd trivial unreadable
  | lines feed =>
    have directory : feed.files.get entity = .directory := not_not.mp unreadable
    refine ⟨.feed (.unreadable (feed.path entity) .isDirectory), ?_⟩
    intro marks position most
    simp only [remembering, Source.fetch, LineFeed.fetch, directory]
    rfl

@[simp] theorem readable_remembering (source : Source) (marks : PerEntity Mark)
    (entity : Entity) : (source.remembering marks).Readable entity ↔ source.Readable entity := by
  cases source <;> rfl

end Source

end Feed

end RecordSync
