import Mathlib.Algebra.Group.Nat.Defs
import RecordSync.Run.Options

/-! How long a worker waits before it tries again.

By its exact length a delay is the base delay times the factor of the retry, up to the
most. That a multiple is cut to the longest span in between never shows, since the most
is itself a span. -/

namespace RecordSync.Run.RetryPolicy

open RecordSync.Calendar RecordSync.Number

theorem toNat_factor_of_lt {retry : Nat} (within : retry < 32) :
    (factor retry).toNat = 2 ^ retry := by
  have place : (UInt32.ofNat retry).toNat = retry :=
    UInt32.toNat_ofNat_of_lt' (Nat.lt_trans within (by decide))
  have held : 2 ^ retry < 2 ^ 32 := Nat.pow_lt_pow_right (by decide) within
  rw [factor, if_pos within, UInt32.toNat_shiftLeft, place, Nat.mod_eq_of_lt within,
    Nat.shiftLeft_eq, UInt32.toNat_one, Nat.one_mul, Nat.mod_eq_of_lt held]

theorem factor_of_le {retry : Nat} (past : 32 ≤ retry) : factor retry = 4294967295 :=
  if_neg (Nat.not_lt.mpr past)

theorem toNat_factor_mono {earlier later : Nat} (ordered : earlier ≤ later) :
    (factor earlier).toNat ≤ (factor later).toNat := by
  rcases Nat.lt_or_ge later 32 with within | past
  · rw [toNat_factor_of_lt (Nat.lt_of_le_of_lt ordered within), toNat_factor_of_lt within]
    exact Nat.pow_le_pow_right (by decide) ordered
  · rw [factor_of_le past]
    exact Nat.le_of_lt_succ (factor earlier).toNat_lt

theorem backoff?_eq_some (base most : Duration) (retry : Nat) :
    backoff? base most retry = some (backoff base most retry) :=
  (Option.some_get _).symm

/-- The exact length of a delay. -/
theorem totalNanos_backoff (base most : Duration) (retry : Nat) :
    (backoff base most retry).totalNanos =
      min (base.totalNanos * (factor retry).toNat) most.totalNanos := by
  obtain ⟨multiple, found, length⟩ := base.times?_totalNanos (factor retry)
  have taken : min multiple most = backoff base most retry := by
    apply Option.some.inj
    rw [← backoff?_eq_some, backoff?, found]
    rfl
  rw [← taken, Duration.totalNanos_min, length, Nat.min_assoc,
    Nat.min_eq_right most.totalNanos_le_longest]

theorem backoff_mono (base most : Duration) {earlier later : Nat} (ordered : earlier ≤ later) :
    backoff base most earlier ≤ backoff base most later := by
  have longer : base.totalNanos * (factor earlier).toNat ≤
      base.totalNanos * (factor later).toNat :=
    Nat.mul_le_mul_left _ (toNat_factor_mono ordered)
  rw [Duration.le_iff_totalNanos_le, totalNanos_backoff, totalNanos_backoff]
  omega

/-- For settings that fit their words, a worker waits the exact number of milliseconds. -/
theorem delay_eq_min {policy : RetryPolicy} (base : policy.baseDelay < word64)
    (most : policy.maxDelay < word64) (retry : Nat) :
    policy.delay retry = min (policy.baseDelay * (factor retry).toNat) policy.maxDelay := by
  have baseMillis : (UInt64.ofNat policy.baseDelay).toNat = policy.baseDelay :=
    UInt64.toNat_ofNat_of_lt' base
  have mostMillis : (UInt64.ofNat policy.maxDelay).toNat = policy.maxDelay :=
    UInt64.toNat_ofNat_of_lt' most
  rw [delay, Duration.millis_eq_totalNanos_div, totalNanos_backoff, Duration.totalNanos_ofMillis,
    Duration.totalNanos_ofMillis, baseMillis, mostMillis, Nat.mul_right_comm,
    Nat.mul_min_mul_right, Nat.mul_div_cancel _ (by decide)]

/-- The most is reached before the third retry, and kept past the last factor. -/
example : [0, 1, 2, 40].map (delay ⟨5, 5, 100, 350⟩) = [100, 200, 350, 350] := by decide

/-- Whatever the base delay and the most, every retry has a delay: nothing that is worked
out on the way leaves its word. Delays never exceed the most and never grow shorter. The
first 32 are exactly the base delay, doubled with each retry, up to the most; from then on
the delay stays at the base delay times the greatest 32-bit number, up to the most. -/
theorem backoff_doubles_up_to_most (base most : Duration) (retry : Nat) :
    backoff? base most retry = some (backoff base most retry) ∧
    backoff base most retry ≤ most ∧
    (∀ later, retry ≤ later → backoff base most retry ≤ backoff base most later) ∧
    (retry < 32 → (backoff base most retry).totalNanos =
      min (base.totalNanos * 2 ^ retry) most.totalNanos) ∧
    (32 ≤ retry → backoff base most retry = backoff base most 32 ∧
      (backoff base most retry).totalNanos =
        min (base.totalNanos * (2 ^ 32 - 1)) most.totalNanos) := by
  refine ⟨backoff?_eq_some base most retry, ?_, fun later => backoff_mono base most, ?_, ?_⟩
  · rw [Duration.le_iff_totalNanos_le, totalNanos_backoff]
    exact Nat.min_le_right ..
  · intro within
    rw [totalNanos_backoff, toNat_factor_of_lt within]
  · intro past
    have same : factor retry = factor 32 := factor_of_le past
    constructor
    · simp only [backoff, backoff?, same]
    · rw [totalNanos_backoff, factor_of_le past]
      rfl

/-- A nanosecond less than 2^33 seconds. -/
private def eon : Duration := ⟨8589934591, 999999999, Duration.longest.nanos_lt⟩

/-- The last doubling is exact just below the longest span, and the next factor passes it. -/
theorem backoff_doubles_up_to_most_longest :
    backoff eon .longest 31 = ⟨18446744073709551613, 852516352, by decide⟩ ∧
    (backoff eon .longest 31).totalNanos = eon.totalNanos * 2 ^ 31 ∧
    backoff eon .longest 31 ≤ backoff eon .longest 4294967295 ∧
    backoff? eon .longest 4294967295 = some .longest := by
  obtain ⟨-, -, grows, doubles, -⟩ := backoff_doubles_up_to_most eon .longest 31
  obtain ⟨found, -, -, -, past⟩ := backoff_doubles_up_to_most eon .longest 4294967295
  have reached : backoff eon .longest 32 = .longest := by decide +kernel
  have shorter : eon.totalNanos * 2 ^ 31 ≤ Duration.longest.totalNanos := by decide +kernel
  refine ⟨by decide +kernel, ?_, grows _ (by decide), ?_⟩
  · rw [doubles (by decide), Nat.min_eq_left shorter]
  · rw [found, (past (by decide)).1, reached]

end RecordSync.Run.RetryPolicy
