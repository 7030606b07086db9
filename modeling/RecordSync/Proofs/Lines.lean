import Mathlib.Algebra.Ring.Nat
import RecordSync.Feed.Lines
import RecordSync.Proofs.Places

/-! Lines of a growing file. What is appended adds lines behind those that are
complete and never changes them, so the end of a line stays a place from which
reading can go on. -/

namespace RecordSync.Feed

open RecordSync.Change RecordSync.Record

namespace LineFeed

/-- The lines of a file that end in a newline. -/
def linesOf (bytes : List UInt8) : List (List UInt8) := completeLines [] bytes

/-- The first complete line, with the bytes behind it. -/
theorem completeLines_eq_cons {current bytes line : List UInt8} {rest : List (List UInt8)}
    (split : completeLines current bytes = line :: rest) :
    ∃ front behind, bytes = front ++ newline :: behind ∧ line = current.reverse ++ front ∧
      completeLines [] behind = rest := by
  induction bytes generalizing current with
  | nil => simp [completeLines] at split
  | cons byte bytes ih =>
    unfold completeLines at split
    split at split
    · rename_i ends
      injection split with first others
      exact ⟨[], bytes, by rw [ends]; rfl, by simp [first], others⟩
    · obtain ⟨front, behind, whole, shape, others⟩ := ih split
      refine ⟨byte :: front, behind, by rw [whole]; rfl, ?_, others⟩
      simpa using shape

/-- Each line takes a newline at least. -/
theorem length_completeLines_le (current bytes : List UInt8) :
    (completeLines current bytes).length ≤ bytes.length := by
  induction bytes generalizing current with
  | nil => exact Nat.le_refl 0
  | cons byte rest ih =>
    unfold completeLines
    split
    · exact Nat.succ_le_succ (ih [])
    · exact Nat.le_succ_of_le (ih _)

theorem completeLines_append (current before more : List UInt8) :
    ∃ added, completeLines current (before ++ more) = completeLines current before ++ added := by
  induction before generalizing current with
  | nil => exact ⟨_, rfl⟩
  | cons byte before ih =>
    simp only [List.cons_append, completeLines]
    split
    · obtain ⟨added, same⟩ := ih []
      exact ⟨added, by rw [same]; rfl⟩
    · exact ih (byte :: current)

theorem linesOf_append (before more : List UInt8) :
    ∃ added, linesOf (before ++ more) = linesOf before ++ added :=
  completeLines_append [] before more

/-- The end of the last of the first lines, as many as a number says. -/
def endOf (lines : List (List UInt8)) (count : Nat) : Mark :=
  ⟨count, ((lines.take count).map (·.length + 1)).sum⟩

theorem endOf_zero (lines : List (List UInt8)) : endOf lines 0 = .top := rfl

theorem endOf_append (lines added : List (List UInt8)) {count : Nat}
    (inside : count ≤ lines.length) : endOf (lines ++ added) count = endOf lines count := by
  unfold endOf
  rw [List.take_append_of_le_length inside]

theorem endOf_succ {before behind : List (List UInt8)} (line : List UInt8) :
    endOf (before ++ line :: behind) (before.length + 1) =
      ⟨before.length + 1, (endOf (before ++ line :: behind) before.length).offset +
        line.length + 1⟩ := by
  unfold endOf
  simp [List.take_append, List.take_of_length_le, Nat.add_assoc]

/-- Behind the end of a line come the lines that follow it. -/
theorem linesOf_drop_endOf (bytes : List UInt8) (count : Nat)
    (inside : count ≤ (linesOf bytes).length) :
    linesOf (bytes.drop (endOf (linesOf bytes) count).offset) = (linesOf bytes).drop count := by
  induction count generalizing bytes with
  | zero => simp [endOf]
  | succ count ih =>
    cases split : linesOf bytes with
    | nil => simp [split] at inside
    | cons line rest =>
      obtain ⟨front, behind, whole, shape, others⟩ := completeLines_eq_cons split
      have shape : line = front := by simpa using shape
      subst shape
      change linesOf behind = rest at others
      subst others
      have fewer : count ≤ (linesOf behind).length := by simpa [split] using inside
      have passed : (endOf (line :: linesOf behind) (count + 1)).offset =
          (line ++ [newline]).length + (endOf (linesOf behind) count).offset := by
        simp [endOf]
      rw [passed, whole, List.drop_succ_cons, ← ih behind fewer]
      congr 1
      rw [show line ++ newline :: behind = (line ++ [newline]) ++ behind by simp,
        List.drop_append]
      simp

/-! Pages -/

def delivered? (entity : Entity) (line : List UInt8) : Option Delivery :=
  if (trimLine line).isEmpty then none else some (.ofBytes entity.name (trimLine line))

/-- A page under way when some first lines were passed. It is never over-full,
and once it is full its next position is that of its last entry. -/
structure Gathering (entity : Entity) (position most : Nat) (before behind : List (List UInt8))
    (gathered : Gathered) : Prop where
  mark : gathered.mark = endOf (before ++ behind) before.length
  entries : gathered.entries.reverse =
    (placed (delivered? entity) 1 before).filter (position < ·.sequence)
  next : gathered.next = max position before.length
  room : gathered.entries.length ≤ most
  next_of_full : gathered.entries.length = most →
    gathered.next = (gathered.entries.head?.map (·.sequence)).getD position

/-- A line at or before the position delivers nothing behind it. -/
theorem placed_filter_early {γ : Type} (deliver : γ → Option Delivery) {first position : Nat}
    {items : List γ} (early : first + items.length ≤ position + 1) :
    (placed deliver first items).filter (position < ·.sequence) = [] := by
  apply List.filter_eq_nil_iff.mpr
  intro entry member
  have bounds := placed_bounds member
  simp only [decide_eq_true_eq]
  omega

/-- One more line keeps the page under way. -/
theorem Gathering.takeLine {entity : Entity} {position most : Nat}
    {before behind : List (List UInt8)} {line : List UInt8} {gathered : Gathered}
    (under : Gathering entity position most before (line :: behind) gathered)
    (unfinished : ¬ (position < gathered.mark.sequence + 1 ∧ gathered.entries.length = most)) :
    Gathering entity position most (before ++ [line]) behind
      (takeLine entity position gathered line) := by
  have count : gathered.mark.sequence = before.length := by rw [under.mark]; rfl
  have passed : (⟨before.length + 1, gathered.mark.offset + line.length + 1⟩ : Mark) =
      endOf (before ++ [line] ++ behind) (before ++ [line]).length := by
    rw [under.mark, List.append_assoc, List.singleton_append, List.length_append,
      List.length_singleton, endOf_succ]
  have grown : (placed (delivered? entity) 1 (before ++ [line])).filter (position < ·.sequence) =
      (placed (delivered? entity) 1 before).filter (position < ·.sequence) ++
        (placed (delivered? entity) (1 + before.length) [line]).filter (position < ·.sequence) := by
    rw [placed_append, List.filter_append]
  have room := under.room
  have next := under.next
  rw [count] at unfinished
  unfold LineFeed.takeLine
  simp only [count]
  split
  · rename_i early
    have nothing : (placed (delivered? entity) (1 + before.length) [line]).filter
        (position < ·.sequence) = [] :=
      placed_filter_early _ (by simp only [List.length_singleton]; omega)
    have empty : gathered.entries = [] := by
      rw [← List.reverse_eq_nil_iff, under.entries]
      exact placed_filter_early _ (by omega)
    refine ⟨passed, ?_, ?_, room, ?_⟩
    · rw [grown, nothing, List.append_nil, under.entries]
    · rw [next, List.length_append, List.length_singleton]
      omega
    · intro _
      simp only [next, empty, List.head?_nil, Option.map_none, Option.getD_none]
      omega
  · rename_i late
    split
    · rename_i blank
      have nothing : placed (delivered? entity) (1 + before.length) [line] = [] := by
        simp [placed, delivered?, blank]
      refine ⟨passed, ?_, ?_, room, ?_⟩
      · rw [grown, nothing, List.filter_nil, List.append_nil, under.entries]
      · show before.length + 1 = max position (before ++ [line]).length
        rw [List.length_append, List.length_singleton]
        omega
      · intro full
        exact absurd ⟨by omega, full⟩ unfinished
    · rename_i filled
      have entry : (placed (delivered? entity) (1 + before.length) [line]).filter
          (position < ·.sequence) =
            [⟨before.length + 1, .ofBytes entity.name (trimLine line)⟩] := by
        simp [placed, delivered?, filled, Nat.add_comm 1, Nat.lt_of_not_le late]
      refine ⟨passed, ?_, ?_, ?_, ?_⟩
      · rw [grown, entry, List.reverse_cons, under.entries]
      · show before.length + 1 = max position (before ++ [line]).length
        rw [List.length_append, List.length_singleton]
        omega
      · simp only [List.length_cons]
        omega
      · intro _
        rfl

/-- Gathering ends at the last line or with a full page. -/
theorem Gathering.gather {entity : Entity} {position most : Nat}
    {before behind : List (List UInt8)} {gathered : Gathered}
    (under : Gathering entity position most before behind gathered) :
    ∃ passed rest, before ++ behind = passed ++ rest ∧
      Gathering entity position most passed rest (gather entity position most gathered behind) ∧
      (rest = [] ∨ (gather entity position most gathered behind).entries.length = most) := by
  induction behind generalizing before gathered with
  | nil => exact ⟨before, [], rfl, under, .inl rfl⟩
  | cons line rest ih =>
    unfold LineFeed.gather
    split
    · rename_i full
      exact ⟨before, line :: rest, rfl, under, .inr full.2⟩
    · rename_i unfinished
      obtain ⟨passed, left, whole, ends, reason⟩ := ih (under.takeLine unfinished)
      exact ⟨passed, left, by rw [← whole]; simp, ends, reason⟩

/-- What is gathered for a kind of record bears its name, wherever gathering starts. -/
theorem gather_named {entity : Entity} {position most : Nat} {gathered : Gathered}
    (named : ∀ entry ∈ gathered.entries, entry.delivery.entityName = entity.name)
    (lines : List (List UInt8)) :
    ∀ entry ∈ (LineFeed.gather entity position most gathered lines).entries,
      entry.delivery.entityName = entity.name := by
  induction lines generalizing gathered with
  | nil => exact named
  | cons line rest ih =>
    unfold LineFeed.gather
    split
    · exact named
    · apply ih
      unfold LineFeed.takeLine
      dsimp only
      split
      · exact named
      · split
        · exact named
        · intro entry member
          rcases List.mem_cons.mp member with rfl | earlier
          · unfold Delivery.ofBytes
            split <;> rfl
          · exact named entry earlier

end LineFeed

open LineFeed

/-- A mark is the end of a line that is complete. -/
def Mark.Fits (mark : Mark) (bytes : List UInt8) : Prop :=
  ∃ count ≤ (linesOf bytes).length, mark = endOf (linesOf bytes) count

theorem Mark.fits_top (bytes : List UInt8) : Mark.top.Fits bytes :=
  ⟨0, Nat.zero_le _, (endOf_zero _).symm⟩

theorem Mark.Fits.append {mark : Mark} {bytes : List UInt8} (fits : mark.Fits bytes)
    (more : List UInt8) : mark.Fits (bytes ++ more) := by
  obtain ⟨count, inside, same⟩ := fits
  obtain ⟨added, lines⟩ := linesOf_append bytes more
  refine ⟨count, ?_, ?_⟩
  · rw [lines, List.length_append]
    omega
  · rw [lines, endOf_append _ _ inside, same]

theorem LineFeed.startFor_fits {mark : Mark} {bytes : List UInt8} (fits : mark.Fits bytes)
    (position : Nat) :
    ∃ count ≤ (linesOf bytes).length, count ≤ position ∧
      startFor mark position bytes.length = endOf (linesOf bytes) count := by
  unfold startFor
  split
  · rename_i useful
    obtain ⟨count, inside, same⟩ := fits
    subst same
    exact ⟨count, inside, useful.1, rfl⟩
  · exact ⟨0, Nat.zero_le _, Nat.zero_le _, (endOf_zero _).symm⟩

/-- A page of a file depends on the position and the lines only: the remembered
mark saves reading and never shows. -/
theorem LineFeed.pageOf_spec {mark : Mark} {bytes : List UInt8} (fits : mark.Fits bytes)
    (entity : Entity) (position most : Nat) :
    (pageOf entity mark position most bytes).1.Covers
        (placed (delivered? entity) 1 (linesOf bytes)) (linesOf bytes).length position most ∧
      (pageOf entity mark position most bytes).2.Fits bytes := by
  obtain ⟨count, inside, early, start⟩ := startFor_fits fits position
  have counted : ((linesOf bytes).take count).length = count := List.length_take_of_le inside
  have under : Gathering entity position most ((linesOf bytes).take count)
      ((linesOf bytes).drop count) ⟨[], position, endOf (linesOf bytes) count⟩ := by
    refine ⟨?_, ?_, ?_, Nat.zero_le _, fun _ => rfl⟩
    · rw [List.take_append_drop, counted]
    · rw [placed_filter_early _ (by omega)]
      rfl
    · show position = _
      omega
  obtain ⟨passed, rest, whole, ends, reason⟩ := under.gather
  rw [List.take_append_drop] at whole
  have page : pageOf entity mark position most bytes =
      let gathered := gather entity position most ⟨[], position, endOf (linesOf bytes) count⟩
        ((linesOf bytes).drop count)
      (⟨gathered.entries.reverse, gathered.next⟩, gathered.mark) := by
    unfold pageOf
    simp only [start]
    rw [← linesOf_drop_endOf bytes count inside]
    rfl
  rw [page]
  generalize gather entity position most ⟨[], position, endOf (linesOf bytes) count⟩
    ((linesOf bytes).drop count) = gathered at ends reason
  have length : gathered.entries.reverse.length = gathered.entries.length := List.length_reverse
  have room := ends.room
  refine ⟨⟨?_, ?_, ?_⟩, passed.length, ?_, ?_⟩
  · show gathered.entries.reverse = _
    rw [whole, placed_append, List.filter_append, ← ends.entries]
    rcases reason with finished | full
    · rw [finished]
      simp only [placed, List.filter_nil, List.append_nil]
      rw [List.take_of_length_le (by omega)]
    · rw [List.take_left' (by omega)]
  · intro full
    show gathered.next = _
    rw [ends.next_of_full (by rw [← length]; exact full)]
    simp [lastPlace, List.getLast?_reverse]
  · intro short
    show gathered.next = _
    rcases reason with finished | full
    · rw [ends.next, whole, finished, List.append_nil]
    · simp only [length] at short
      omega
  · rw [whole, List.length_append]
    omega
  · show gathered.mark = _
    rw [ends.mark, whole]

end RecordSync.Feed
