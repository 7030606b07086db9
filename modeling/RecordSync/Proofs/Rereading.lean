import Mathlib.Data.List.Forall2
import Mathlib.Data.List.Induction
import RecordSync.Proofs.Feed
import RecordSync.Proofs.Utf8

/-! One reader of growing files. However often it has read, and from wherever, the
next page is the one that a new reader is given: it follows from the bytes alone. -/

namespace RecordSync.Feed

open RecordSync.Change RecordSync.Record RecordSync.Text

namespace LineFeed

/-- A file's bytes cut into the lines that end in a newline and what is left. -/
structure Splits (bytes : List UInt8) (lines : List (List UInt8)) (tail : List UInt8) : Prop where
  whole : bytes = lines.flatMap (· ++ [newline]) ++ tail
  lines_clear : ∀ line ∈ lines, newline ∉ line
  tail_clear : newline ∉ tail

private theorem completeLines_splits (current : List UInt8) (clear : newline ∉ current)
    (bytes : List UInt8) :
    ∃ tail, Splits (current.reverse ++ bytes) (completeLines current bytes) tail := by
  induction bytes generalizing current with
  | nil => exact ⟨current.reverse, by simp [completeLines], nofun, by simpa using clear⟩
  | cons byte bytes ih =>
    unfold completeLines
    split
    · rename_i ends
      obtain ⟨tail, splits⟩ := ih [] (by simp)
      refine ⟨tail, ?_, ?_, splits.tail_clear⟩
      · have whole := splits.whole
        rw [List.reverse_nil, List.nil_append] at whole
        rw [List.flatMap_cons, ends, List.append_assoc, ← whole]
        simp
      · intro line member
        rcases List.mem_cons.mp member with rfl | there
        · simpa using clear
        · exact splits.lines_clear line there
    · rename_i inside
      have further : newline ∉ byte :: current := by simp [clear, Ne.symm inside]
      obtain ⟨tail, splits⟩ := ih _ further
      exact ⟨tail, by simpa using splits.whole, splits.lines_clear, splits.tail_clear⟩

/-- The complete lines of a file and its open end make up the file. -/
theorem linesOf_splits (bytes : List UInt8) : ∃ tail, Splits bytes (linesOf bytes) tail :=
  completeLines_splits [] (by simp) bytes

/-- The entry that a numbered line becomes: a text if its bytes are one, and else
unreadable, with a rendering of them. -/
inductive Shows (entity : Entity) : List UInt8 × Nat → Entry → Prop where
  | text {line : List UInt8} {number : Nat} {text : String}
      (bytes : Utf8.encode text = trimLine line) :
      Shows entity (line, number) ⟨number, ⟨entity.name, text, none⟩⟩
  | unreadable {line : List UInt8} {number : Nat} {fault : Utf8.Fault}
      (noText : ∀ text, Utf8.encode text ≠ trimLine line) :
      Shows entity (line, number)
        ⟨number, ⟨entity.name, Utf8.decodeLossy (trimLine line), some fault⟩⟩

/-- The lines behind a position that are not blank, each with its number. -/
def filledBehind (lines : List (List UInt8)) (position : Nat) : List (List UInt8 × Nat) :=
  (lines.zipIdx 1).filter fun (line, number) => position < number && !(trimLine line).isEmpty

/-- The page that is read behind a position of a file with some complete lines. -/
structure Reads (entity : Entity) (lines : List (List UInt8)) (position most : Nat)
    (page : Page) : Prop where
  entries : List.Forall₂ (Shows entity) ((filledBehind lines position).take most) page.entries
  next_of_full : page.entries.length = most →
    page.next = (page.entries.getLast?.map (·.sequence)).getD position
  next_of_short : page.entries.length < most → page.next = max position lines.length

def entryOf (entity : Entity) (numbered : List UInt8 × Nat) : Entry :=
  ⟨numbered.2, .ofBytes entity.name (trimLine numbered.1)⟩

theorem shows_entryOf (entity : Entity) (numbered : List UInt8 × Nat) :
    Shows entity numbered (entryOf entity numbered) := by
  obtain ⟨line, number⟩ := numbered
  by_cases valid : ∃ text, Utf8.encode text = trimLine line
  · obtain ⟨text, bytes⟩ := valid
    have shown : entryOf entity (line, number) = ⟨number, ⟨entity.name, text, none⟩⟩ := by
      rw [entryOf, ← bytes, Delivery.ofBytes_encode]
      rfl
    exact shown ▸ .text bytes
  · have noText : ∀ text, Utf8.encode text ≠ trimLine line := not_exists.mp valid
    obtain ⟨fault, delivered⟩ := Delivery.ofBytes_of_ne noText entity.name
    rw [entryOf, delivered]
    exact .unreadable noText

private theorem placed_eq_map (entity : Entity) (first : Nat) (lines : List (List UInt8)) :
    placed (delivered? entity) first lines =
      ((lines.zipIdx first).filter fun (line, _) => !(trimLine line).isEmpty).map (entryOf entity) := by
  induction lines generalizing first with
  | nil => rfl
  | cons line lines ih =>
    rw [placed, List.zipIdx_cons, List.filter_cons, ih]
    by_cases blank : (trimLine line).isEmpty
    · simp [delivered?, blank]
    · simp [delivered?, blank, entryOf]

/-- The entries behind a position are those of the lines behind it. -/
theorem filter_placed (entity : Entity) (lines : List (List UInt8)) (position : Nat) :
    (placed (delivered? entity) 1 lines).filter (position < ·.sequence) =
      (filledBehind lines position).map (entryOf entity) := by
  rw [placed_eq_map, List.filter_map, List.filter_filter]
  rfl

/-- A page that covers the entries of a file reads its lines. -/
theorem reads_of_covers {entity : Entity} {lines : List (List UInt8)} {position most : Nat}
    {page : Page}
    (covers : page.Covers (placed (delivered? entity) 1 lines) lines.length position most) :
    Reads entity lines position most page := by
  have entries : page.entries =
      ((filledBehind lines position).take most).map (entryOf entity) := by
    rw [covers.entries_eq, filter_placed, List.map_take]
  refine ⟨?_, covers.next_of_full, covers.next_of_short⟩
  rw [entries, List.forall₂_map_right_iff, List.forall₂_same]
  exact fun numbered _ => shows_entryOf entity numbered

/-- What happens to a feed in files: bytes are appended to a file, or a page is
fetched. -/
inductive Event where
  | appended (entity : Entity) (bytes : List UInt8)
  | fetched (entity : Entity) (position most : Nat)

def grown (file : FileState) (more : List UInt8) : FileState :=
  match file with
  | .missing => .bytes more
  | .directory => .directory
  | .bytes bytes => .bytes (bytes ++ more)

theorem grows_grown (file : FileState) (more : List UInt8) : file.Grows (grown file more) := by
  cases file with
  | bytes bytes => exact List.prefix_append bytes more
  | missing => trivial
  | directory => trivial

def after (feed : LineFeed) : Event → LineFeed
  | .appended entity bytes =>
    { feed with files := feed.files.set entity (grown (feed.files.get entity) bytes) }
  | .fetched entity position most =>
    match feed.fetch entity position most with
    | .ok (_, feed) => feed
    | .error _ => feed

/-- A feed that bytes are appended to grows. -/
theorem grows_appended (feed : LineFeed) (entity : Entity) (more : List UInt8) :
    (Source.lines feed).Grows (.lines (feed.after (.appended entity more))) := by
  intro other
  by_cases about : other = entity
  · subst about
    rw [LineFeed.after, PerEntity.get_set_same]
    exact grows_grown _ more
  · rw [LineFeed.after, PerEntity.get_set_of_ne _ _ about]
    exact .refl _

def reopened (feed : LineFeed) : LineFeed := ⟨feed.directory, feed.files, .both .top⟩

/-- The bytes that a history appends to the file of a kind. -/
def appendedTo (entity : Entity) (history : List Event) : List UInt8 :=
  history.flatMap fun
    | .appended other bytes => if other = entity then bytes else []
    | .fetched .. => []

/-- A file that only some bytes were appended to. -/
def Holds (file : FileState) (bytes : List UInt8) : Prop :=
  file = .bytes bytes ∨ file = .missing ∧ bytes = []

theorem Holds.grown {file : FileState} {bytes : List UInt8} (holds : Holds file bytes)
    (more : List UInt8) : Holds (grown file more) (bytes ++ more) := by
  rcases holds with rfl | ⟨rfl, rfl⟩ <;> exact .inl rfl

/-- A reader under way: its files hold what was appended, and what it remembers of
them is true. -/
structure Reading (feed : LineFeed) (history : List Event) : Prop where
  holds : ∀ entity, Holds (feed.files.get entity) (appendedTo entity history)
  sound : (Source.lines feed).Sound

/-- The complete lines of a reader's file are those of the bytes appended. -/
theorem Reading.lines {feed : LineFeed} {history : List Event} (reading : Reading feed history)
    (entity : Entity) : linesIn (feed.files.get entity) = linesOf (appendedTo entity history) := by
  rcases reading.holds entity with bytes | ⟨missing, empty⟩
  · rw [bytes]
    rfl
  · rw [missing, empty]
    rfl

/-- A page of a reader under way is the one that the appended bytes tell. -/
theorem Reading.fetch {feed : LineFeed} {history : List Event} (reading : Reading feed history)
    (entity : Entity) (position most : Nat) :
    ∃ page after, feed.fetch entity position most = .ok (page, after) ∧
      after.files = feed.files ∧ (Source.lines after).Sound ∧
      page.Covers (placed (delivered? entity) 1 (linesOf (appendedTo entity history)))
        (linesOf (appendedTo entity history)).length position most := by
  have readable : (Source.lines feed).Readable entity := by
    intro directory
    rcases reading.holds entity with bytes | ⟨missing, _⟩
    · exact absurd (bytes.symm.trans directory) nofun
    · exact absurd (missing.symm.trans directory) nofun
  obtain ⟨page, source, fetched⟩ := readable.fetch position most
  obtain ⟨covers, sound, marks, same⟩ := Source.fetch_spec reading.sound fetched
  obtain ⟨⟨_, after⟩, found, shape⟩ := map_eq_ok_iff.mp fetched
  cases shape
  cases same
  simp only [Source.entries, Source.extent, reading.lines] at covers
  exact ⟨page, _, found, rfl, sound, covers⟩

/-- Every event keeps a reader under way. -/
theorem Reading.after {feed : LineFeed} {history : List Event} (reading : Reading feed history)
    (event : Event) : Reading (feed.after event) (history ++ [event]) := by
  cases event with
  | appended entity more =>
    have same : appendedTo entity (history ++ [.appended entity more]) =
        appendedTo entity history ++ more := by
      simp [appendedTo]
    constructor <;> intro other
    · by_cases about : other = entity
      · subst about
        rw [LineFeed.after, PerEntity.get_set_same, same]
        exact (reading.holds other).grown more
      · have untouched : appendedTo other (history ++ [.appended entity more]) =
            appendedTo other history := by
          simp [appendedTo, Ne.symm about]
        rw [LineFeed.after, PerEntity.get_set_of_ne _ _ about, untouched]
        exact reading.holds other
    · exact (reading.sound other).grows (grows_appended feed entity more other)
  | fetched entity position most =>
    obtain ⟨page, next, fetched, files, sound, _⟩ := reading.fetch entity position most
    have same (other : Entity) : appendedTo other (history ++ [.fetched entity position most]) =
        appendedTo other history := by
      simp [appendedTo]
    rw [LineFeed.after, fetched]
    refine ⟨fun other => ?_, sound⟩
    rw [same, files]
    exact reading.holds other

theorem reading_foldl (directory : String) (history : List Event) :
    Reading (history.foldl LineFeed.after (.ofDirectory directory)) history := by
  induction history using List.reverseRecOn with
  | nil =>
    refine ⟨fun entity => .inr ⟨?_, rfl⟩, fun entity => ?_⟩
    · cases entity <;> rfl
    · cases entity <;> rfl
  | append_singleton history event ih =>
    rw [List.foldl_append]
    exact ih.after event

theorem Reading.reopened {feed : LineFeed} {history : List Event}
    (reading : Reading feed history) : Reading feed.reopened history :=
  ⟨reading.holds, Source.remembering_top_sound (.lines feed)⟩

/-- Whatever was appended to the files and fetched from them through one reader,
its next page is that of a new reader. It holds the first lines behind the
position that are not blank, as they stand in the bytes appended so far. -/
theorem marks_never_show (directory : String) (history : List Event) (entity : Entity)
    (position most : Nat) :
    let feed := history.foldl LineFeed.after (.ofDirectory directory)
    ∃ page, (feed.fetch entity position most).map Prod.fst = .ok page ∧
      (feed.reopened.fetch entity position most).map Prod.fst = .ok page ∧
      ∃ lines tail, Splits (appendedTo entity history) lines tail ∧
        Reads entity lines position most page := by
  intro feed
  have reading : Reading feed history := reading_foldl directory history
  obtain ⟨page, _, fetched, _, _, covers⟩ := reading.fetch entity position most
  obtain ⟨also, _, refetched, _, _, covered⟩ := reading.reopened.fetch entity position most
  obtain ⟨tail, splits⟩ := linesOf_splits (appendedTo entity history)
  cases covers.unique covered
  exact ⟨page, map_eq_ok_iff.mpr ⟨_, fetched, rfl⟩, map_eq_ok_iff.mpr ⟨_, refetched, rfl⟩,
    _, tail, splits, reads_of_covers covers⟩

end LineFeed

end RecordSync.Feed
