import RecordSync.Number.Word

/-! Spans of time, counted in machine words.

A multiple of a span is worked out in words too. One that its seconds cannot hold is
cut to the longest span; no other step has such a way out, so each must stay within
its word. -/

namespace RecordSync.Calendar

open RecordSync.Number

/-- Whole seconds, and nanoseconds of less than another one. -/
structure Duration where
  seconds : UInt64
  nanos : UInt32
  nanos_lt : nanos < 1000000000
  deriving DecidableEq, Repr

namespace Duration

/-- The longest span that the words can say. -/
def longest : Duration := ⟨18446744073709551615, 999999999, by decide⟩

/-- Spans are compared by their seconds, and where these agree by their nanoseconds. -/
instance : LE Duration := ⟨fun left right =>
  left.seconds < right.seconds ∨ left.seconds = right.seconds ∧ left.nanos ≤ right.nanos⟩

instance : DecidableRel (α := Duration) (· ≤ ·) :=
  fun _ _ => inferInstanceAs (Decidable (_ ∨ _))

/-- The shorter of two spans. -/
instance : Min Duration := minOfLe

/-- The exact length in nanoseconds. -/
def totalNanos (span : Duration) : Nat := span.seconds.toNat * 1000000000 + span.nanos.toNat

/-- The length in whole milliseconds, rounded down. -/
def millis (span : Duration) : Nat := span.seconds.toNat * 1000 + span.nanos.toNat / 1000000

theorem toNat_nanosOfMillis (millis : UInt64) :
    ((millis % 1000).toUInt32 * 1000000).toNat = millis.toNat % 1000 * 1000000 := by
  have rest : (millis % 1000).toUInt32.toNat = millis.toNat % 1000 :=
    toNat_toUInt32_mod millis (by decide) (by decide)
  rw [UInt32.toNat_mul, rest]
  change millis.toNat % 1000 * 1000000 % 4294967296 = _
  omega

/-- A span of whole milliseconds. -/
def ofMillis (millis : UInt64) : Duration where
  seconds := millis / 1000
  nanos := (millis % 1000).toUInt32 * 1000000
  nanos_lt := by
    rw [UInt32.lt_iff_toNat_lt, toNat_nanosOfMillis]
    change _ < 1000000000
    omega

/-- Seconds and nanoseconds, with those that make whole seconds carried over. -/
def ofParts? (seconds : UInt64) (nanos : UInt32) : Option Duration :=
  if short : nanos < 1000000000 then some ⟨seconds, nanos, short⟩
  else (ofNat64? (seconds.toNat + (nanos / 1000000000).toNat)).map fun seconds =>
    ⟨seconds, nanos % 1000000000, UInt32.mod_lt nanos (by decide)⟩

/-- So many times the seconds of a span, and those that are carried over to them. -/
def secondsTimes? (span : Duration) (factor : UInt32) (carried : UInt64) : Option UInt64 := do
  let product ← ofNat64? (span.seconds.toNat * factor.toNat)
  ofNat64? (product.toNat + carried.toNat)

/-- So many times a span, or the longest span if that takes more seconds than a word holds.
There is no answer only where the nanoseconds leave their words. -/
def times? (span : Duration) (factor : UInt32) : Option Duration := do
  let total ← ofNat64? (span.nanos.toNat * factor.toNat)
  match span.secondsTimes? factor (total / 1000000000) with
  | some seconds => ofParts? seconds (total % 1000000000).toUInt32
  | none => return longest

theorem toNat_nanos_lt (span : Duration) : span.nanos.toNat < 1000000000 :=
  UInt32.lt_iff_toNat_lt.mp span.nanos_lt

theorem millis_eq_totalNanos_div (span : Duration) : span.millis = span.totalNanos / 1000000 := by
  unfold millis totalNanos
  omega

theorem totalNanos_ofMillis (millis : UInt64) :
    (ofMillis millis).totalNanos = millis.toNat * 1000000 := by
  change (millis / 1000).toNat * 1000000000 + ((millis % 1000).toUInt32 * 1000000).toNat = _
  rw [toNat_nanosOfMillis, UInt64.toNat_div]
  change millis.toNat / 1000 * 1000000000 + _ = _
  omega

theorem totalNanos_le_longest (span : Duration) : span.totalNanos ≤ longest.totalNanos := by
  have seconds := span.seconds.toNat_lt
  have nanos := span.toNat_nanos_lt
  have most : longest.totalNanos = 18446744073709551615999999999 := rfl
  unfold totalNanos at *
  omega

theorem le_iff_totalNanos_le {left right : Duration} :
    left ≤ right ↔ left.totalNanos ≤ right.totalNanos := by
  have leftNanos := left.toNat_nanos_lt
  have rightNanos := right.toNat_nanos_lt
  change (_ ∨ _ ∧ _) ↔ _
  rw [UInt64.lt_iff_toNat_lt, ← UInt64.toNat_inj, UInt32.le_iff_toNat_le]
  unfold totalNanos
  omega

theorem totalNanos_min (left right : Duration) :
    (min left right).totalNanos = min left.totalNanos right.totalNanos := by
  change (if left ≤ right then left else right).totalNanos = _
  split
  · rename_i shorter
    exact (Nat.min_eq_left (le_iff_totalNanos_le.mp shorter)).symm
  · rename_i longer
    rw [le_iff_totalNanos_le] at longer
    exact (Nat.min_eq_right (by omega)).symm

theorem secondsTimes?_eq_some_iff {span : Duration} {factor : UInt32} {carried seconds : UInt64} :
    span.secondsTimes? factor carried = some seconds ↔
      seconds.toNat = span.seconds.toNat * factor.toNat + carried.toNat := by
  simp only [secondsTimes?, Option.bind_eq_bind, Option.bind_eq_some_iff, ofNat64?_eq_some_iff]
  constructor
  · rintro ⟨product, exactly, sum⟩
    rw [sum, exactly]
  · intro sum
    have held : span.seconds.toNat * factor.toNat < word64 :=
      Nat.lt_of_le_of_lt (sum ▸ Nat.le_add_right ..) seconds.toNat_lt
    obtain ⟨product, -, exactly⟩ := ofNat64?_of_lt held
    exact ⟨product, exactly, exactly ▸ sum⟩

theorem le_of_secondsTimes?_eq_none {span : Duration} {factor : UInt32} {carried : UInt64}
    (absent : span.secondsTimes? factor carried = none) :
    word64 ≤ span.seconds.toNat * factor.toNat + carried.toNat := by
  apply Nat.le_of_not_lt
  intro fits
  obtain ⟨seconds, -, sum⟩ := ofNat64?_of_lt fits
  rw [secondsTimes?_eq_some_iff.mpr sum] at absent
  cases absent

/-- The nanoseconds of a multiple stay within their word. -/
theorem nanos_mul_lt (span : Duration) (factor : UInt32) :
    span.nanos.toNat * factor.toNat < word64 :=
  calc span.nanos.toNat * factor.toNat
    _ < 1000000000 * word32 := Nat.mul_lt_mul'' span.toNat_nanos_lt factor.toNat_lt
    _ < word64 := by decide

/-- The length of a multiple, split at whole seconds as its nanoseconds are. -/
theorem totalNanos_mul (span : Duration) (factor : Nat) :
    span.totalNanos * factor =
      (span.seconds.toNat * factor + span.nanos.toNat * factor / 1000000000) * 1000000000 +
        span.nanos.toNat * factor % 1000000000 := by
  rw [totalNanos, Nat.add_mul, Nat.mul_right_comm]
  omega

theorem ofParts?_totalNanos (seconds : UInt64) {nanos : UInt32} (short : nanos < 1000000000) :
    ∃ span, ofParts? seconds nanos = some span ∧
      span.totalNanos = seconds.toNat * 1000000000 + nanos.toNat :=
  ⟨_, dif_pos short, rfl⟩

/-- A multiple always has an answer, and it is exact up to the longest span. -/
theorem times?_totalNanos (span : Duration) (factor : UInt32) :
    ∃ multiple, span.times? factor = some multiple ∧
      multiple.totalNanos = min (span.totalNanos * factor.toNat) longest.totalNanos := by
  obtain ⟨total, held, exactly⟩ := ofNat64?_of_lt (span.nanos_mul_lt factor)
  have whole : (total / 1000000000).toNat = total.toNat / 1000000000 := UInt64.toNat_div ..
  have rest : (total % 1000000000).toUInt32.toNat = total.toNat % 1000000000 :=
    toNat_toUInt32_mod total (by decide) (by decide)
  have product := span.totalNanos_mul factor.toNat
  rw [← exactly] at product
  simp only [times?, held, Option.bind_eq_bind, Option.bind_some]
  split
  · rename_i seconds found
    have sum := secondsTimes?_eq_some_iff.mp found
    have short : (total % 1000000000).toUInt32 < 1000000000 := by
      rw [UInt32.lt_iff_toNat_lt, rest]
      exact Nat.mod_lt _ (by decide)
    obtain ⟨multiple, made, length⟩ := ofParts?_totalNanos seconds short
    rw [sum, whole, rest, ← product] at length
    refine ⟨multiple, made, ?_⟩
    rw [← length, Nat.min_eq_left multiple.totalNanos_le_longest]
  · rename_i absent
    have tooLong := le_of_secondsTimes?_eq_none absent
    have most : longest.totalNanos = word64 * 1000000000 - 1 := rfl
    exact ⟨longest, rfl, (Nat.min_eq_right (by omega)).symm⟩

end Duration

end RecordSync.Calendar
