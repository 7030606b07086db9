import RecordSync.Proofs.Rereading

/-! Pages that follow one another. Each is read from where the one before it ended,
while the files grow and the reader may be a new one; together they hold every line
once. -/

namespace RecordSync.Feed

open RecordSync.Change RecordSync.Record

namespace LineFeed

/-- A chain of pages: the feed they are read from, what they brought so far and
where the next one starts. -/
structure Chain where
  feed : LineFeed
  entries : List Entry
  position : Nat

/-- What happens along a chain: its next page is read, something else happens to
the feed, or a new reader takes over. -/
inductive Move where
  | next (most : Nat)
  | meanwhile (event : Event)
  | reopened

def Move.event? : Move → Option Event
  | .meanwhile event => some event
  | .next _ => none
  | .reopened => none

def Chain.start (directory : String) : Chain := ⟨.ofDirectory directory, [], 0⟩

def Chain.step (entity : Entity) (chain : Chain) : Move → Chain
  | .next most =>
    match chain.feed.fetch entity chain.position most with
    | .ok (page, feed) => ⟨feed, chain.entries ++ page.entries, page.next⟩
    | .error _ => chain
  | .meanwhile event => { chain with feed := chain.feed.after event }
  | .reopened => { chain with feed := chain.feed.reopened }

/-- The bytes that are appended to the file of a kind along a chain. -/
def appendedAlong (entity : Entity) (moves : List Move) : List UInt8 :=
  appendedTo entity (moves.filterMap Move.event?)

/-- Reading leaves the files as they are, and everything else appends to them. -/
theorem Reading.grows_after {feed : LineFeed} {history : List Event}
    (reading : Reading feed history) (event : Event) :
    (Source.lines feed).Grows (.lines (feed.after event)) := by
  cases event with
  | appended entity more => exact grows_appended feed entity more
  | fetched entity position most =>
    obtain ⟨page, next, fetched, files, _, _⟩ := reading.fetch entity position most
    rw [LineFeed.after, fetched]
    intro other
    rw [files]
    exact .refl _

/-- A chain under way has brought all entries up to where its next page starts,
which lies within the feed. -/
structure Chain.Delivers (chain : Chain) (entity : Entity) (history : List Event) : Prop where
  reading : Reading chain.feed history
  entries : chain.entries = between ((Source.lines chain.feed).entries entity) 0 chain.position
  within : chain.position ≤ (Source.lines chain.feed).extent entity

namespace Chain.Delivers

variable {chain : Chain} {entity : Entity} {history : List Event}

/-- What the chain has brought stays the same when the feed grows behind it. -/
theorem grown (delivers : chain.Delivers entity history) {feed : LineFeed} {later : List Event}
    (reading : Reading feed later) (grows : (Source.lines chain.feed).Grows (.lines feed)) :
    Delivers { chain with feed } entity later := by
  constructor
  · exact reading
  · have arrived := Nat.le_trans delivers.within (Nat.le_max_right 0 _)
    exact delivers.entries.trans (grows.between entity arrived).symm
  · exact Nat.le_trans delivers.within (grows.extent_le entity)

/-- The next page is there, and goes on where the chain has come to. -/
theorem fetch (delivers : chain.Delivers entity history) (most : Nat) :
    ∃ page after, chain.feed.fetch entity chain.position most = .ok (page, after) ∧
      page.Covers ((Source.lines chain.feed).entries entity)
        ((Source.lines chain.feed).extent entity) chain.position most ∧
      Delivers ⟨after, chain.entries ++ page.entries, page.next⟩ entity history := by
  obtain ⟨page, after, fetched, files, sound, covers⟩ :=
    delivers.reading.fetch entity chain.position most
  have same : (Source.lines after).entries entity = (Source.lines chain.feed).entries entity ∧
      (Source.lines after).extent entity = (Source.lines chain.feed).extent entity := by
    simp only [Source.entries, Source.extent, files, and_self]
  rw [← delivers.reading.lines entity] at covers
  have covers : page.Covers ((Source.lines chain.feed).entries entity)
    ((Source.lines chain.feed).extent entity) chain.position most := covers
  have sorted := (Source.lines chain.feed).entries_pairwise entity
  have bounded (entry : Entry) (member : entry ∈ (Source.lines chain.feed).entries entity) :=
    Source.le_extent_of_mem member
  refine ⟨page, after, fetched, covers, ⟨fun other => ?_, sound⟩, ?_, ?_⟩
  · rw [files]
    exact delivers.reading.holds other
  · rw [same.1, ← between_append sorted (Nat.zero_le _) covers.position_le_next,
      covers.between_eq sorted bounded, delivers.entries]
  · calc page.next
      _ ≤ max chain.position ((Source.lines chain.feed).extent entity) :=
        covers.next_le_max bounded
      _ = (Source.lines chain.feed).extent entity := Nat.max_eq_right delivers.within
      _ = (Source.lines after).extent entity := same.2.symm

/-- Every move keeps a chain under way. -/
theorem step (delivers : chain.Delivers entity history) (move : Move) :
    (chain.step entity move).Delivers entity (history ++ move.event?.toList) := by
  cases move with
  | next most =>
    obtain ⟨page, after, fetched, _, delivered⟩ := delivers.fetch most
    rw [Chain.step, fetched, Move.event?, Option.toList_none, List.append_nil]
    exact delivered
  | meanwhile event =>
    exact delivers.grown (delivers.reading.after event) (delivers.reading.grows_after event)
  | reopened =>
    rw [Move.event?, Option.toList_none, List.append_nil]
    exact delivers.grown delivers.reading.reopened fun _ => .refl _

end Chain.Delivers

theorem delivers_foldl (directory : String) (entity : Entity) (moves : List Move) :
    (moves.foldl (Chain.step entity) (.start directory)).Delivers entity
      (moves.filterMap Move.event?) := by
  induction moves using List.reverseRecOn with
  | nil =>
    constructor
    · exact reading_foldl directory []
    · exact (between_self _ 0).symm
    · exact Nat.zero_le _
  | append_singleton moves move ih =>
    rw [List.foldl_append, List.filterMap_append]
    have stepped := ih.step move
    cases move <;> exact stepped

/-- The lines that are not blank are cut where a chain has come to: it has brought
those before, and the others are behind it. -/
theorem Chain.Delivers.cut {chain : Chain} {entity : Entity} {history : List Event}
    (delivers : chain.Delivers entity history) :
    ∃ passed rest, filledBehind (linesOf (appendedTo entity history)) 0 = passed ++ rest ∧
      chain.entries = passed.map (entryOf entity) ∧
      ((Source.lines chain.feed).entries entity).filter (chain.position < ·.sequence) =
        rest.map (entryOf entity) := by
  have sorted := (Source.lines chain.feed).entries_pairwise entity
  have bounded (entry : Entry) (member : entry ∈ (Source.lines chain.feed).entries entity) :=
    Source.le_extent_of_mem member
  have whole : (filledBehind (linesOf (appendedTo entity history)) 0).map (entryOf entity) =
      chain.entries ++
        ((Source.lines chain.feed).entries entity).filter (chain.position < ·.sequence) := by
    rw [← filter_placed, ← delivers.reading.lines entity, delivers.entries,
      ← between_of_le bounded, between_append sorted (Nat.zero_le _) delivers.within,
      between_of_le bounded]
    rfl
  obtain ⟨passed, rest, split, front, behind⟩ := List.map_eq_append_iff.mp whole
  exact ⟨passed, rest, split, front.symm, behind.symm⟩

/-- Along any chain of pages of a growing file, what was brought so far are the first
lines that are not blank, each whole, with its number, and once. The next page can
always be read; one that is large enough for the rest of them brings it. -/
theorem chained_pages_tell_lines (directory : String) (entity : Entity) (moves : List Move) :
    let chain := moves.foldl (Chain.step entity) (.start directory)
    ∃ lines tail passed rest, Splits (appendedAlong entity moves) lines tail ∧
      filledBehind lines 0 = passed ++ rest ∧
      List.Forall₂ (Shows entity) passed chain.entries ∧
      chain.entries.Pairwise (·.sequence < ·.sequence) ∧
      ∀ most, ∃ page after,
        chain.feed.fetch entity chain.position most = .ok (page, after) ∧
        (rest.length ≤ most →
          List.Forall₂ (Shows entity) (filledBehind lines 0) (chain.entries ++ page.entries)) := by
  intro chain
  have delivers : chain.Delivers entity (moves.filterMap Move.event?) :=
    delivers_foldl directory entity moves
  have shown (numbered : List (List UInt8 × Nat)) :
      List.Forall₂ (Shows entity) numbered (numbered.map (entryOf entity)) := by
    rw [List.forall₂_map_right_iff, List.forall₂_same]
    exact fun line _ => shows_entryOf entity line
  obtain ⟨tail, splits⟩ := linesOf_splits (appendedAlong entity moves)
  obtain ⟨passed, rest, whole, brought, behind⟩ := delivers.cut
  refine ⟨_, tail, passed, rest, splits, whole, brought ▸ shown passed, ?_, fun most => ?_⟩
  · rw [delivers.entries]
    exact ((Source.lines chain.feed).entries_pairwise entity).filter _
  · obtain ⟨page, after, fetched, covers, _⟩ := delivers.fetch most
    refine ⟨page, after, fetched, fun enough => ?_⟩
    have rested : page.entries = rest.map (entryOf entity) := by
      rw [covers.entries_eq, behind, List.take_of_length_le (by rwa [List.length_map])]
    rw [appendedAlong, whole, brought, rested, ← List.map_append]
    exact shown _

/-- A page ends at a full entry, a blank line follows, and the line behind it is
finished only after the page was read; then a new reader goes on. -/
private def inPieces : List Move :=
  [.meanwhile (.appended .contact "a\n\nb".toUTF8.toList), .next 1, .next 1, .reopened,
    .meanwhile (.appended .contact "c\nd\ne".toUTF8.toList), .next 1]

/-- The line that was finished later is brought whole, and the next one can be read. -/
theorem chained_pages_tell_lines_in_pieces :
    let chain := inPieces.foldl (Chain.step .contact) (.start "feed")
    chain.entries = [⟨1, .ofText "contact" "a"⟩, ⟨3, .ofText "contact" "bc"⟩] ∧
    ∃ lines tail passed rest, Splits (appendedAlong .contact inPieces) lines tail ∧
      filledBehind lines 0 = passed ++ rest ∧
      List.Forall₂ (Shows .contact) passed chain.entries ∧
      ∃ page after,
        chain.feed.fetch .contact chain.position rest.length = .ok (page, after) ∧
        List.Forall₂ (Shows .contact) (filledBehind lines 0) (chain.entries ++ page.entries) := by
  intro chain
  obtain ⟨lines, tail, passed, rest, splits, whole, brought, _, next⟩ :=
    chained_pages_tell_lines "feed" .contact inPieces
  obtain ⟨page, after, fetched, all⟩ := next rest.length
  exact ⟨by decide +kernel, lines, tail, passed, rest, splits, whole, brought, page, after,
    fetched, all (Nat.le_refl _)⟩

end LineFeed

end RecordSync.Feed
