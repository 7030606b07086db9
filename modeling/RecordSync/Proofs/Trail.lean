import Mathlib.Algebra.Ring.Nat
import RecordSync.Feed.Basic
import RecordSync.Proofs.Apply
import RecordSync.Run.Tally

/-! Records applied one after the other, and what their outcomes add up to. -/

namespace RecordSync

open RecordSync.Calendar RecordSync.Change RecordSync.Feed RecordSync.Record

namespace Store

/-- A trail of records, each with its outcome. Between two of them anything may
happen to the store but to its rows and its log. -/
inductive Applied (actor : String) (clock : Instant → Prop) :
    Store → List (Entry × Outcome) → Store → Prop where
  | nil {store after : Store} (same : store.SameRecords after) : Applied actor clock store [] after
  | cons {store between after : Store} {entry : Entry} {outcome : Outcome}
      {trail : List (Entry × Outcome)} {now : Instant} (allowed : clock now)
      (applied : store.apply actor (decode entry.delivery) now = .ok (outcome, between))
      (rest : Applied actor clock between trail after) :
      Applied actor clock store ((entry, outcome) :: trail) after

namespace Applied

variable {actor : String} {clock : Instant → Prop} {store between after other : Store}
  {trail more : List (Entry × Outcome)}

/-- A trail depends on rows and log alone. -/
theorem congr (same : store.SameRecords other) (applied : Applied actor clock store trail after) :
    Applied actor clock other trail after := by
  induction applied generalizing other with
  | nil still => exact .nil (same.symm.trans still)
  | cons allowed applied _ ih =>
    obtain ⟨later, appliedThere, sameLater⟩ := apply_congr same applied
    exact .cons allowed appliedThere (ih sameLater)

theorem append (first : Applied actor clock store trail between)
    (second : Applied actor clock between more after) :
    Applied actor clock store (trail ++ more) after := by
  induction first with
  | nil same => exact second.congr same.symm
  | cons allowed applied _ ih => exact .cons allowed applied (ih second)

theorem then_same (applied : Applied actor clock store trail after)
    (same : after.SameRecords other) : Applied actor clock store trail other := by
  simpa using applied.append (.nil same)

theorem snoc {entry : Entry} {outcome : Outcome} {now : Instant}
    (first : Applied actor clock store trail between) (allowed : clock now)
    (applied : between.apply actor (decode entry.delivery) now = .ok (outcome, after)) :
    Applied actor clock store (trail ++ [(entry, outcome)]) after :=
  first.append (.cons allowed applied (.nil (.refl after)))

/-- At one reading of the clock, the records decide how they end. -/
theorem unique {now : Instant} {start : Store} (same : store.SameRecords start)
    (first : Applied actor (· = now) store trail after)
    (second : Applied actor (· = now) start more other)
    (records : trail.map (·.1) = more.map (·.1)) : trail = more ∧ after.SameRecords other := by
  induction first generalizing start more with
  | nil still =>
    cases second with
    | nil stillThere => exact ⟨rfl, still.symm.trans (same.trans stillThere)⟩
    | cons _ _ _ => cases records
  | cons allowed applied _ ih =>
    cases second with
    | nil _ => cases records
    | cons allowedThere appliedThere restThere =>
      simp only [List.map_cons, List.cons.injEq] at records
      obtain ⟨rfl, others⟩ := records
      subst allowed allowedThere
      obtain ⟨later, appliedAgain, sameLater⟩ := apply_congr same applied
      rw [appliedThere] at appliedAgain
      cases appliedAgain
      obtain ⟨rfl, sameEnd⟩ := ih sameLater restThere others
      exact ⟨rfl, sameEnd⟩

end Applied

end Store

namespace Run.Tally

/-- The counts that depend on nothing but how records ended for good. -/
def counters : List (Tally → Nat) :=
  [applied, created, updated, unchanged, stale, deleted, alreadyAbsent, invalid, failed]

/-- What one outcome adds to a count. -/
def weight (counter : Tally → Nat) (outcome : Outcome) : Nat :=
  counter ((Tally.start default 0).record outcome)

/-- What the outcomes of a trail add to a count. -/
def total (counter : Tally → Nat) (trail : List (Entry × Outcome)) : Nat :=
  (trail.map fun step => weight counter step.2).sum

theorem total_append (counter : Tally → Nat) (trail more : List (Entry × Outcome)) :
    total counter (trail ++ more) = total counter trail + total counter more := by
  simp [total]

theorem total_snoc (counter : Tally → Nat) (trail : List (Entry × Outcome)) (entry : Entry)
    (outcome : Outcome) :
    total counter (trail ++ [(entry, outcome)]) = total counter trail + weight counter outcome := by
  simp [total]

variable {counter : Tally → Nat}

theorem counter_record (counts : counter ∈ counters) (tally : Tally) (outcome : Outcome) :
    counter (tally.record outcome) = counter tally + weight counter outcome := by
  simp only [counters, List.mem_cons, List.not_mem_nil, or_false] at counts
  rcases counts with rfl | rfl | rfl | rfl | rfl | rfl | rfl | rfl | rfl <;>
    cases outcome <;> simp [record, recordKind, weight, start]

theorem counter_start (counts : counter ∈ counters) (entity : Entity) (cursor : Nat) :
    counter (start entity cursor) = 0 := by
  simp only [counters, List.mem_cons, List.not_mem_nil, or_false] at counts
  rcases counts with rfl | rfl | rfl | rfl | rfl | rfl | rfl | rfl | rfl <;> rfl

theorem counter_absorb (counts : counter ∈ counters) (tally later : Tally) :
    counter (tally.absorb later) = counter tally + counter later := by
  simp only [counters, List.mem_cons, List.not_mem_nil, or_false] at counts
  rcases counts with rfl | rfl | rfl | rfl | rfl | rfl | rfl | rfl | rfl <;> rfl

/-- The counts of records say nothing of batches, cursors and stops. -/
theorem counter_congr (counts : counter ∈ counters) {tally other : Tally}
    (same : { other with
      batches := tally.batches, deferred := tally.deferred, cursorAfter := tally.cursorAfter
      stop := tally.stop, dryRun := tally.dryRun } = tally) : counter other = counter tally := by
  rw [← same]
  simp only [counters, List.mem_cons, List.not_mem_nil, or_false] at counts
  rcases counts with rfl | rfl | rfl | rfl | rfl | rfl | rfl | rfl | rfl <;> rfl

end Run.Tally

end RecordSync
