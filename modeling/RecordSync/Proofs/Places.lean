import Mathlib.Data.List.Pairwise
import RecordSync.Feed.Basic

/-! Entries at their places. Whatever a feed is made of, an item delivers one
record or none, and its place is its number, counted from one. -/

namespace RecordSync.Feed

open RecordSync.Change RecordSync.Record

variable {γ : Type}

/-- The entries of items that are numbered from a first one on. -/
def placed (deliver : γ → Option Delivery) (first : Nat) : List γ → List Entry
  | [] => []
  | item :: rest =>
    match deliver item with
    | some delivery => ⟨first, delivery⟩ :: placed deliver (first + 1) rest
    | none => placed deliver (first + 1) rest

theorem placed_append (deliver : γ → Option Delivery) (first : Nat) (items more : List γ) :
    placed deliver first (items ++ more) =
      placed deliver first items ++ placed deliver (first + items.length) more := by
  induction items generalizing first with
  | nil => simp [placed]
  | cons item rest ih =>
    have later : first + 1 + rest.length = first + (item :: rest).length := by
      simp only [List.length_cons]
      omega
    simp only [List.cons_append, placed, ih, later]
    cases deliver item <;> rfl

theorem placed_bounds {deliver : γ → Option Delivery} {first : Nat} {items : List γ} {entry : Entry}
    (member : entry ∈ placed deliver first items) :
    first ≤ entry.sequence ∧ entry.sequence < first + items.length := by
  induction items generalizing first with
  | nil => simp [placed] at member
  | cons item rest ih =>
    simp only [List.length_cons]
    have inRest (inside : entry ∈ placed deliver (first + 1) rest) :
        first ≤ entry.sequence ∧ entry.sequence < first + (rest.length + 1) := by
      have bounds := ih inside
      omega
    unfold placed at member
    split at member
    · rcases List.mem_cons.mp member with same | inside
      · subst same
        exact ⟨Nat.le_refl _, by simp⟩
      · exact inRest inside
    · exact inRest member

theorem delivered_of_mem_placed {deliver : γ → Option Delivery} {first : Nat} {items : List γ}
    {entry : Entry} (member : entry ∈ placed deliver first items) :
    ∃ item ∈ items, deliver item = some entry.delivery := by
  induction items generalizing first with
  | nil => simp [placed] at member
  | cons item rest ih =>
    have inRest (inside : entry ∈ placed deliver (first + 1) rest) :
        ∃ found ∈ item :: rest, deliver found = some entry.delivery := by
      obtain ⟨found, there, delivered⟩ := ih inside
      exact ⟨found, List.mem_cons_of_mem _ there, delivered⟩
    unfold placed at member
    split at member
    · rename_i delivery delivered
      rcases List.mem_cons.mp member with same | inside
      · subst same
        exact ⟨item, List.mem_cons_self, delivered⟩
      · exact inRest inside
    · exact inRest member

/-- Places grow along a feed. -/
theorem placed_pairwise (deliver : γ → Option Delivery) (first : Nat) (items : List γ) :
    (placed deliver first items).Pairwise (·.sequence < ·.sequence) := by
  induction items generalizing first with
  | nil => exact .nil
  | cons item rest ih =>
    unfold placed
    split
    · refine .cons ?_ (ih _)
      intro entry member
      have bounds := placed_bounds member
      show first < entry.sequence
      omega
    · exact ih _

/-- An item delivers one record at most. -/
theorem length_placed_le (deliver : γ → Option Delivery) (first : Nat) (items : List γ) :
    (placed deliver first items).length ≤ items.length := by
  induction items generalizing first with
  | nil => exact Nat.le_refl 0
  | cons item rest ih =>
    have later := ih (first + 1)
    unfold placed
    split
    · exact Nat.succ_le_succ later
    · exact Nat.le_succ_of_le later

theorem numbered_eq_placed (entity : Entity) (first : Nat) (payloads : List String) :
    MemoryFeed.numbered entity first payloads =
      placed (fun payload => some (.ofText entity.name payload)) first payloads := by
  induction payloads generalizing first with
  | nil => rfl
  | cons payload rest ih => simp [MemoryFeed.numbered, placed, ih]

/-- The place of the last of some entries, or a position if there are none. -/
def lastPlace (position : Nat) (entries : List Entry) : Nat :=
  (entries.getLast?.map (·.sequence)).getD position

@[simp] theorem lastPlace_nil (position : Nat) : lastPlace position [] = position := rfl

theorem lastPlace_cons (position : Nat) (entry : Entry) (entries : List Entry) :
    lastPlace position (entry :: entries) = lastPlace entry.sequence entries := by
  unfold lastPlace
  rw [List.getLast?_cons]
  cases entries.getLast? <;> rfl

theorem lastPlace_eq {entries : List Entry} (position : Nat) (filled : entries ≠ []) :
    lastPlace position entries = (entries.getLast filled).sequence := by
  simp [lastPlace, List.getLast?_eq_some_getLast filled]

theorem le_lastPlace {entries : List Entry} {position : Nat}
    (behind : ∀ entry ∈ entries, position < entry.sequence) :
    position ≤ lastPlace position entries := by
  by_cases filled : entries = []
  · simp [filled]
  · rw [lastPlace_eq position filled]
    exact Nat.le_of_lt (behind _ (List.getLast_mem filled))

theorem lastPlace_le {entries : List Entry} {position bound : Nat} (within : position ≤ bound)
    (bounded : ∀ entry ∈ entries, entry.sequence ≤ bound) : lastPlace position entries ≤ bound := by
  by_cases filled : entries = []
  · simpa [filled] using within
  · rw [lastPlace_eq position filled]
    exact bounded _ (List.getLast_mem filled)

theorem le_lastPlace_of_mem {entries : List Entry} {entry : Entry} (position : Nat)
    (sorted : entries.Pairwise (·.sequence < ·.sequence)) (member : entry ∈ entries) :
    entry.sequence ≤ lastPlace position entries := by
  have ordered : entries.Pairwise (·.sequence ≤ ·.sequence) := sorted.imp Nat.le_of_lt
  rw [lastPlace_eq position (List.ne_nil_of_mem member)]
  exact ordered.rel_getLast_of_rel_getLast_getLast member (Nat.le_refl _)

/-- What stands behind the first part of a sorted list lies behind its last place. -/
theorem lastPlace_lt_of_mem {front rest : List Entry} {entry : Entry} {position : Nat}
    (sorted : (front ++ rest).Pairwise (·.sequence < ·.sequence))
    (behind : position < entry.sequence) (member : entry ∈ rest) :
    lastPlace position front < entry.sequence := by
  by_cases filled : front = []
  · simpa [filled] using behind
  · rw [lastPlace_eq position filled]
    exact (List.pairwise_append.mp sorted).2.2 _ (List.getLast_mem filled) _ member

/-- The page that belongs to a position, out of all entries of a feed and given
the number of its last place. -/
structure Page.Covers (page : Page) (entries : List Entry) (extent position most : Nat) :
    Prop where
  entries_eq : page.entries = (entries.filter (position < ·.sequence)).take most
  next_of_full : page.entries.length = most → page.next = lastPlace position page.entries
  next_of_short : page.entries.length < most → page.next = max position extent

/-- The entries behind one position, up to another one. -/
def between (entries : List Entry) (low high : Nat) : List Entry :=
  entries.filter fun entry => low < entry.sequence && entry.sequence ≤ high

theorem mem_between {entries : List Entry} {low high : Nat} {entry : Entry} :
    entry ∈ between entries low high ↔
      entry ∈ entries ∧ low < entry.sequence ∧ entry.sequence ≤ high := by
  simp [between]

/-- Entries that are cut where a position lies are those up to it. -/
theorem between_eq_of_split {entries front rest : List Entry} {low high : Nat}
    (whole : entries.filter (low < ·.sequence) = front ++ rest)
    (inside : ∀ entry ∈ front, entry.sequence ≤ high)
    (beyond : ∀ entry ∈ rest, high < entry.sequence) : between entries low high = front := by
  have nested : between entries low high =
      (entries.filter (low < ·.sequence)).filter (·.sequence ≤ high) := by
    rw [List.filter_filter]
    exact List.filter_congr fun entry _ => Bool.and_comm _ _
  rw [nested, whole, List.filter_append, List.filter_eq_self.mpr (by simpa using inside),
    List.filter_eq_nil_iff.mpr (by simpa using beyond), List.append_nil]

/-- What is left behind the place where they are cut. -/
theorem filter_eq_of_split {entries front rest : List Entry} {low high : Nat} (onward : low ≤ high)
    (whole : entries.filter (low < ·.sequence) = front ++ rest)
    (inside : ∀ entry ∈ front, entry.sequence ≤ high)
    (beyond : ∀ entry ∈ rest, high < entry.sequence) :
    entries.filter (high < ·.sequence) = rest := by
  have nested : entries.filter (high < ·.sequence) =
      (entries.filter (low < ·.sequence)).filter (high < ·.sequence) := by
    rw [List.filter_filter]
    refine List.filter_congr fun entry _ => ?_
    by_cases later : high < entry.sequence
    · simp [later, Nat.lt_of_le_of_lt onward later]
    · simp [later]
  rw [nested, whole, List.filter_append, List.filter_eq_nil_iff.mpr (by simpa using inside),
    List.filter_eq_self.mpr (by simpa using beyond), List.nil_append]

/-- Entries that are cut anywhere are those up to the last one before the cut. -/
theorem between_lastPlace {entries front rest : List Entry} {low : Nat}
    (sorted : entries.Pairwise (·.sequence < ·.sequence))
    (whole : entries.filter (low < ·.sequence) = front ++ rest) :
    between entries low (lastPlace low front) = front := by
  have ordered := sorted.filter (low < ·.sequence)
  rw [whole] at ordered
  apply between_eq_of_split whole
  · intro entry member
    exact le_lastPlace_of_mem low (List.pairwise_append.mp ordered).1 member
  · intro entry member
    have inside : entry ∈ entries.filter (low < ·.sequence) :=
      whole ▸ List.mem_append_right front member
    exact lastPlace_lt_of_mem ordered (by simpa using (List.mem_filter.mp inside).2) member

theorem between_self (entries : List Entry) (position : Nat) :
    between entries position position = [] := by
  apply List.filter_eq_nil_iff.mpr
  intro entry _
  simp

theorem between_of_le {entries : List Entry} {low high : Nat}
    (bounded : ∀ entry ∈ entries, entry.sequence ≤ high) :
    between entries low high = entries.filter (low < ·.sequence) := by
  apply List.filter_congr
  intro entry member
  simp [bounded entry member]

/-- A stretch of a feed is the part up to a place in it and the part behind. -/
theorem between_append {entries : List Entry} {low middle high : Nat}
    (sorted : entries.Pairwise (·.sequence < ·.sequence)) (early : low ≤ middle)
    (late : middle ≤ high) :
    between entries low middle ++ between entries middle high = between entries low high := by
  induction sorted with
  | nil => rfl
  | @cons entry rest first _ ih =>
    simp only [between, List.filter_cons] at ih ⊢
    by_cases before : entry.sequence ≤ middle
    · have notLate : ¬ middle < entry.sequence := by omega
      have within : entry.sequence ≤ high := by omega
      by_cases behind : low < entry.sequence
      · simp [behind, before, notLate, within, ih]
      · simp [behind, notLate, ih]
    · have behind : low < entry.sequence := by omega
      have isLate : middle < entry.sequence := by omega
      have nothing : rest.filter
          (fun entry => low < entry.sequence && entry.sequence ≤ middle) = [] := by
        apply List.filter_eq_nil_iff.mpr
        intro other member
        have apart := first other member
        simp
        omega
      rw [nothing, List.nil_append] at ih
      simp only [before, isLate, behind, decide_true, decide_false, Bool.and_false, Bool.true_and,
        Bool.false_eq_true, ↓reduceIte, nothing, List.nil_append, ih]

namespace Page.Covers

variable {page : Page} {entries : List Entry} {entry : Entry} {extent position most : Nat}

theorem mem (covers : page.Covers entries extent position most) (member : entry ∈ page.entries) :
    entry ∈ entries ∧ position < entry.sequence := by
  rw [covers.entries_eq] at member
  simpa using List.mem_of_mem_take member

theorem pairwise (covers : page.Covers entries extent position most)
    (sorted : entries.Pairwise (·.sequence < ·.sequence)) :
    page.entries.Pairwise (·.sequence < ·.sequence) := by
  rw [covers.entries_eq]
  exact (sorted.filter _).take

/-- A page is full, or it holds every entry behind its position. -/
theorem full_or_all (covers : page.Covers entries extent position most) :
    page.entries.length = most ∨
      page.entries.length < most ∧ page.entries = entries.filter (position < ·.sequence) := by
  rw [covers.entries_eq, List.length_take]
  by_cases fits : (entries.filter (position < ·.sequence)).length < most
  · exact .inr ⟨by omega, List.take_of_length_le (by omega)⟩
  · exact .inl (by omega)

/-- One page only belongs to a position. -/
theorem unique {other : Page} (covers : page.Covers entries extent position most)
    (also : other.Covers entries extent position most) : page = other := by
  have same : page.entries = other.entries := covers.entries_eq.trans also.entries_eq.symm
  have next : page.next = other.next := by
    rcases covers.full_or_all with full | ⟨short, _⟩
    · rw [covers.next_of_full full, also.next_of_full (same ▸ full), same]
    · rw [covers.next_of_short short, also.next_of_short (same ▸ short)]
  cases page
  cases other
  cases same
  cases next
  rfl

theorem position_le_next (covers : page.Covers entries extent position most) :
    position ≤ page.next := by
  rcases covers.full_or_all with full | ⟨short, _⟩
  · rw [covers.next_of_full full]
    exact le_lastPlace fun entry member => (covers.mem member).2
  · rw [covers.next_of_short short]
    omega

theorem next_le_max (covers : page.Covers entries extent position most)
    (bounded : ∀ entry ∈ entries, entry.sequence ≤ extent) : page.next ≤ max position extent := by
  rcases covers.full_or_all with full | ⟨short, _⟩
  · rw [covers.next_of_full full]
    apply lastPlace_le (by omega)
    intro entry member
    have within := bounded entry (covers.mem member).1
    omega
  · exact Nat.le_of_eq (covers.next_of_short short)

/-- The entries behind a page's position are its own, up to its next position,
and those that lie further on. -/
theorem split (covers : page.Covers entries extent position most)
    (sorted : entries.Pairwise (·.sequence < ·.sequence))
    (bounded : ∀ entry ∈ entries, entry.sequence ≤ extent) :
    ∃ rest, entries.filter (position < ·.sequence) = page.entries ++ rest ∧
      (∀ entry ∈ page.entries, entry.sequence ≤ page.next) ∧
      ∀ entry ∈ rest, page.next < entry.sequence := by
  rcases covers.full_or_all with full | ⟨short, all⟩
  · rw [covers.next_of_full full]
    have whole : entries.filter (position < ·.sequence) =
        page.entries ++ (entries.filter (position < ·.sequence)).drop most := by
      rw [covers.entries_eq, List.take_append_drop]
    have ordered := sorted.filter (position < ·.sequence)
    rw [whole] at ordered
    refine ⟨_, whole, fun entry member => le_lastPlace_of_mem _ (covers.pairwise sorted) member, ?_⟩
    intro entry late
    have behind := List.mem_of_mem_drop late
    exact lastPlace_lt_of_mem ordered (by simpa using (List.mem_filter.mp behind).2) late
  · refine ⟨[], by rw [all, List.append_nil], ?_, fun _ impossible => by cases impossible⟩
    intro entry member
    have within := bounded entry (covers.mem member).1
    rw [covers.next_of_short short]
    omega

/-- No entry between a page's position and its next one is left out. -/
theorem between_eq (covers : page.Covers entries extent position most)
    (sorted : entries.Pairwise (·.sequence < ·.sequence))
    (bounded : ∀ entry ∈ entries, entry.sequence ≤ extent) :
    between entries position page.next = page.entries := by
  obtain ⟨rest, whole, inside, beyond⟩ := covers.split sorted bounded
  exact between_eq_of_split whole inside beyond

end Page.Covers

end RecordSync.Feed
