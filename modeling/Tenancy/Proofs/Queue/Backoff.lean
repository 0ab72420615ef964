import Tenancy.Queue.Backoff

/-!
# Delays grow up to the cap

The delay after `n` failures is `base * 2 ^ n`, or the cap where that is shorter. Two bounds come in
between. A product beyond all `Duration`s gives way to the cap, which changes nothing, since no cap
is that long either. The factor has 32 bits, and from 32 failures on the cap applies whatever the
base is: this is the product again unless the base is short beside the cap
(`Backoff.delay_saturates`). Both bounds only ever lead up to the cap, so the delays never go down
(`Backoff.delays_never_regress`).
-/

namespace Tenancy

namespace Duration

theorem nanoseconds_shorter (a b : Duration) :
    (a.shorter b).nanoseconds = min a.nanoseconds b.nanoseconds := by
  unfold shorter
  split <;> omega

theorem scale?_eq_some_iff {d next : Duration} {factor : Nat} :
    d.scale? factor = some next ↔ next.nanoseconds = d.nanoseconds * factor := by
  unfold scale? ofNanos?
  constructor
  · intro h
    split at h
    · cases h
      rfl
    · cases h
  · intro h
    rw [← h]
    exact dif_pos next.bounded

theorem scale?_eq_none_iff {d : Duration} {factor : Nat} :
    d.scale? factor = none ↔ 2 ^ 64 * nanosPerSecond ≤ d.nanoseconds * factor := by
  unfold scale? ofNanos?
  split
  · exact iff_of_false nofun (by omega)
  · exact iff_of_true rfl (by omega)

end Duration

namespace Backoff

/-- The delay after so many failures in unbounded nanoseconds. -/
def unboundedDelay (b : Backoff) (failures : Nat) : Nat :=
  min b.cap.nanoseconds (b.base.nanoseconds * 2 ^ failures)

theorem unboundedDelay_le_cap (b : Backoff) (failures : Nat) :
    b.unboundedDelay failures ≤ b.cap.nanoseconds :=
  Nat.min_le_left _ _

theorem unboundedDelay_mono (b : Backoff) {m n : Nat} (h : m ≤ n) :
    b.unboundedDelay m ≤ b.unboundedDelay n := by
  have hPow : 2 ^ m ≤ 2 ^ n := Nat.pow_le_pow_right (by decide) h
  have hProduct := Nat.mul_le_mul_left b.base.nanoseconds hPow
  unfold unboundedDelay
  omega

theorem unboundedDelay_eq_cap_iff (b : Backoff) (failures : Nat) :
    b.unboundedDelay failures = b.cap.nanoseconds ↔
      b.cap.nanoseconds ≤ b.base.nanoseconds * 2 ^ failures := by
  unfold unboundedDelay
  omega

/-- Below 32 failures no bound shows: where the product has no `Duration`, the cap is shorter. -/
theorem nanoseconds_delay_of_lt (b : Backoff) {failures : Nat} (h : failures < doublings) :
    (b.delay failures).nanoseconds = b.unboundedDelay failures := by
  unfold delay
  rw [if_pos h]
  cases hScale : b.base.scale? (2 ^ failures) with
  | some d =>
    have hProduct := Duration.scale?_eq_some_iff.mp hScale
    change (d.shorter b.cap).nanoseconds = _
    rw [Duration.nanoseconds_shorter, hProduct, unboundedDelay, Nat.min_comm]
  | none =>
    have hLong := Duration.scale?_eq_none_iff.mp hScale
    have hCap := Nat.le_trans (Nat.le_of_lt b.cap.bounded) hLong
    exact ((b.unboundedDelay_eq_cap_iff failures).mpr hCap).symm

theorem delay_of_le (b : Backoff) {failures : Nat} (h : doublings ≤ failures) :
    b.delay failures = b.cap :=
  if_neg (Nat.not_lt.mpr h)

/-- **Delays never regress.** More failures never shorten the delay, and no delay exceeds the cap. -/
theorem delays_never_regress (b : Backoff) {m n : Nat} (h : m ≤ n) :
    (b.delay m).nanoseconds ≤ (b.delay n).nanoseconds ∧
      (b.delay n).nanoseconds ≤ b.cap.nanoseconds := by
  have hCap (failures : Nat) : (b.delay failures).nanoseconds ≤ b.cap.nanoseconds := by
    rcases Nat.lt_or_ge failures doublings with hLt | hLe
    · rw [b.nanoseconds_delay_of_lt hLt]
      exact b.unboundedDelay_le_cap failures
    · exact Nat.le_of_eq (congrArg Duration.nanoseconds (b.delay_of_le hLe))
  refine ⟨?_, hCap n⟩
  rcases Nat.lt_or_ge n doublings with hLt | hLe
  · rw [b.nanoseconds_delay_of_lt hLt, b.nanoseconds_delay_of_lt (Nat.lt_of_le_of_lt h hLt)]
    exact b.unboundedDelay_mono h
  · rw [b.delay_of_le hLe]
    exact hCap m

/-- A base whose first doubling is beyond all durations, and one of a nanosecond at the last doubling
there is: both go up to the cap from there. -/
theorem bounds_never_regress :
    let long : Backoff := ⟨Duration.ofSeconds (2 ^ 63), Duration.longest⟩
    let short : Backoff := ⟨Duration.ofNanos 1, Duration.ofSeconds 3600⟩
    long.base.scale? (2 ^ 1) = none ∧
      (long.delay 0).nanoseconds ≤ (long.delay 1).nanoseconds ∧
      (long.delay 1).nanoseconds ≤ long.cap.nanoseconds ∧
      (short.delay 31).nanoseconds ≤ (short.delay 32).nanoseconds ∧
      (short.delay 32).nanoseconds ≤ short.cap.nanoseconds := by
  intro long short
  have hLong := long.delays_never_regress (show 0 ≤ 1 by decide)
  have hShort := short.delays_never_regress (show 31 ≤ 32 by decide)
  exact ⟨by decide, hLong.1, hLong.2, hShort.1, hShort.2⟩

/-- **Saturation.** Up to 31 failures the delay is the shorter of the cap and `base * 2 ^ failures`
in unbounded nanoseconds; from 32 failures on, where the factor overflows, it is the cap. So it
differs from the closed form exactly where the factor overflows and the product is still below the
cap. -/
theorem delay_saturates (b : Backoff) (failures : Nat) :
    ((b.delay failures).nanoseconds =
      if failures < 32 then min b.cap.nanoseconds (b.base.nanoseconds * 2 ^ failures)
      else b.cap.nanoseconds) ∧
    ((b.delay failures).nanoseconds = min b.cap.nanoseconds (b.base.nanoseconds * 2 ^ failures) ↔
      failures < 32 ∨ b.cap.nanoseconds ≤ b.base.nanoseconds * 2 ^ failures) := by
  change (_ = if failures < doublings then b.unboundedDelay failures else _) ∧
    (_ = b.unboundedDelay failures ↔ failures < doublings ∨ _)
  split
  · next hLt =>
    have hDelay := b.nanoseconds_delay_of_lt hLt
    exact ⟨hDelay, iff_of_true hDelay (.inl hLt)⟩
  · next hLt =>
    rw [b.delay_of_le (Nat.not_lt.mp hLt), or_iff_right hLt]
    exact ⟨rfl, eq_comm.trans (b.unboundedDelay_eq_cap_iff failures)⟩

/-- After 32 failures the delay is the cap of an hour for a base of zero, whose product is zero, and
for a base of a nanosecond, whose product is four seconds. -/
theorem delay_of_short_base :
    let idle : Backoff := ⟨Duration.zero, Duration.ofSeconds 3600⟩
    let short : Backoff := ⟨Duration.ofNanos 1, Duration.ofSeconds 3600⟩
    (idle.delay 32 = idle.cap ∧
      (idle.delay 32).nanoseconds ≠ min idle.cap.nanoseconds (idle.base.nanoseconds * 2 ^ 32)) ∧
    (short.delay 32 = short.cap ∧
      (short.delay 32).nanoseconds ≠ min short.cap.nanoseconds (short.base.nanoseconds * 2 ^ 32)) := by
  decide

end Backoff

end Tenancy
