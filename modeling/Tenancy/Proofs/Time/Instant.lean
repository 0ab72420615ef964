import Tenancy.Proofs.Time.Calendar
import Tenancy.Time.Instant

/-!
# Sums of instants and durations

`Instant.after?` is addition on the nanoseconds since 1970-01-01T00:00:00Z, as long as the sum is an
instant (`Instant.after?_eq_some_iff`). Leap seconds have no number of their own on this line, so
the statements about sums are about instants outside of them. There is no sum exactly where it would
lie beyond the first or the last instant, leap seconds included (`Instant.shift?_eq_none_iff`).
-/

namespace Tenancy.Instant

/-- Nanoseconds since 1970-01-01T00:00:00Z. -/
def nanoseconds (t : Instant) : Int := t.second * nanosPerSecond + t.nano

/-- The year of the date on which the instant falls. -/
def year (t : Instant) : Int := (Date.ofDayNumber (t.second / 86400)).year

theorem year_nonneg {t : Instant} (h : 0 ≤ t.second) : 0 ≤ t.year := by
  rw [year, Date.year_nonneg_iff]
  omega

/-- The second instant is the duration later than the first one. -/
def Reaches (t : Instant) (d : Duration) (next : Instant) : Prop :=
  next.nano < nanosPerSecond ∧ next.nanoseconds = t.nanoseconds + d.nanoseconds

instance (t : Instant) (d : Duration) (next : Instant) : Decidable (t.Reaches d next) :=
  inferInstanceAs (Decidable (_ ∧ _))

theorem Reaches.second_nonneg {t next : Instant} {d : Duration} (h : t.Reaches d next)
    (hStart : 0 ≤ t.second) : 0 ≤ next.second := by
  obtain ⟨hNano, hSum⟩ := h
  simp only [nanoseconds, nanosPerSecond] at hNano hSum
  omega

theorem of?_eq_some_iff {second : Int} {nano : Nat} {t : Instant} :
    of? second nano = some t ↔ t.second = second ∧ t.nano = nano := by
  unfold of?
  constructor
  · intro h
    split at h
    · cases h
      exact ⟨rfl, rfl⟩
    · cases h
  · rintro ⟨rfl, rfl⟩
    exact dif_pos ⟨t.second_ge, t.second_le, t.nano_lt, t.leap⟩

theorem ofSum?_eq_some_iff {seconds nanos : Int} {t : Instant} :
    ofSum? seconds nanos = some t ↔
      t.nano < nanosPerSecond ∧ t.nanoseconds = seconds * nanosPerSecond + nanos := by
  rw [ofSum?, of?_eq_some_iff]
  simp only [nanoseconds, nanosPerSecond]
  omega

/-- An instant and a move that lead to another instant are not further apart than all instants. -/
theorem nanoseconds_le_longestMove (a b : Instant) :
    b.nanoseconds - a.nanoseconds ≤ longestMove := by
  have hA := a.second_ge
  have hB := b.second_le
  have hNano := b.nano_lt
  simp only [nanoseconds, longestMove, nanosPerSecond, firstSecond, lastSecond] at *
  omega

theorem after?_eq_some_iff {t next : Instant} {d : Duration} (h : t.nano < nanosPerSecond) :
    t.after? d = some next ↔ t.Reaches d next := by
  have hMove := nanoseconds_le_longestMove t next
  have hSplit := Int.mul_tdiv_add_tmod (d.nanoseconds : Int) (nanosPerSecond : Nat)
  unfold after? shift? Reaches
  dsimp only
  rw [if_neg (Nat.not_le.mpr h)]
  split
  · rw [ofSum?_eq_some_iff]
    simp only [nanoseconds, nanosPerSecond] at *
    omega
  · refine iff_of_false nofun ?_
    rintro ⟨-, hSum⟩
    omega

theorem after?_eq_none_iff {t : Instant} {d : Duration} (h : t.nano < nanosPerSecond) :
    t.after? d = none ↔ ∀ next, ¬ t.Reaches d next := by
  rw [Option.eq_none_iff_forall_ne_some]
  exact forall_congr' fun next => not_congr (after?_eq_some_iff h)

/-! ## The ends of the time line -/

/-- The instant that much earlier would be before the first one. -/
def Underflows (t : Instant) (d : Duration) : Prop :=
  t.nanoseconds - d.nanoseconds < firstSecond * nanosPerSecond

/-- The instant that much later would be after the last one. A move that ends within the leap second
in which it starts stays in the range. -/
def Overflows (t : Instant) (d : Duration) : Prop :=
  (lastSecond + 1) * nanosPerSecond ≤
    t.second * nanosPerSecond + (t.nano % nanosPerSecond : Nat) + d.nanoseconds

instance (t : Instant) (d : Duration) : Decidable (t.Underflows d) :=
  inferInstanceAs (Decidable (_ < _))

instance (t : Instant) (d : Duration) : Decidable (t.Overflows d) :=
  inferInstanceAs (Decidable (_ ≤ _))

theorem of?_eq_none_iff {second : Int} {nano : Nat} (hNano : nano < 2 * nanosPerSecond)
    (hLeap : nanosPerSecond ≤ nano → second % 60 = 59) :
    of? second nano = none ↔ second < firstSecond ∨ lastSecond < second := by
  unfold of?
  split
  · exact iff_of_false nofun (by omega)
  · exact iff_of_true rfl (by omega)

theorem ofSum?_eq_none_iff {seconds nanos : Int} :
    ofSum? seconds nanos = none ↔
      seconds * nanosPerSecond + nanos < firstSecond * nanosPerSecond ∨
        (lastSecond + 1) * nanosPerSecond ≤ seconds * nanosPerSecond + nanos := by
  have hNano : (nanos % (nanosPerSecond : Nat)).toNat < nanosPerSecond := by
    simp only [nanosPerSecond]
    omega
  rw [ofSum?, of?_eq_none_iff (by omega) (by omega)]
  simp only [nanosPerSecond, firstSecond, lastSecond]
  omega

/-- A whole number of seconds and the rest of a move have the sign of the move. -/
theorem tdiv_nanosPerSecond (delta : Int) :
    delta.tdiv (nanosPerSecond : Nat) =
      if 0 ≤ delta then delta / (nanosPerSecond : Nat) else -(-delta / (nanosPerSecond : Nat)) := by
  split
  · next h => exact Int.tdiv_eq_ediv_of_nonneg h
  · next h => rw [← Int.tdiv_eq_ediv_of_nonneg (by omega), Int.neg_tdiv, Int.neg_neg]

/-- On the line, a move backwards from a leap second starts in the second after it, and a move
forwards in the one whose number it shares. -/
theorem shift?_eq_none_iff {t : Instant} {delta : Int} :
    t.shift? delta = none ↔
      t.nanoseconds + delta < firstSecond * nanosPerSecond ∨
        (lastSecond + 1) * nanosPerSecond ≤
          t.second * nanosPerSecond + (t.nano % nanosPerSecond : Nat) + delta := by
  have hSplit := Int.mul_tdiv_add_tmod delta (nanosPerSecond : Nat)
  have hQuotient := tdiv_nanosPerSecond delta
  have hFirst := t.second_ge
  have hLast := t.second_le
  have hNano := t.nano_lt
  have hLeap := t.leap
  unfold shift? nanoseconds
  dsimp only
  simp only [nanosPerSecond, firstSecond, lastSecond] at *
  split_ifs
  · rw [ofSum?_eq_none_iff]
    simp only [nanosPerSecond, firstSecond, lastSecond]
    omega
  · rw [ofSum?_eq_none_iff]
    simp only [nanosPerSecond, firstSecond, lastSecond]
    omega
  · -- Less than a second leads from a leap second to itself.
    rw [of?_eq_none_iff]
    all_goals
      simp only [nanosPerSecond, firstSecond, lastSecond]
      omega
  · rw [ofSum?_eq_none_iff]
    simp only [nanosPerSecond, firstSecond, lastSecond]
    omega

theorem after?_eq_none_iff_overflows {t : Instant} {d : Duration} :
    t.after? d = none ↔ t.Overflows d := by
  have hFirst := t.second_ge
  unfold after? Overflows
  split
  · rw [shift?_eq_none_iff, or_iff_right]
    simp only [nanoseconds, nanosPerSecond]
    omega
  · refine iff_of_true rfl ?_
    simp only [longestMove, nanosPerSecond, firstSecond, lastSecond] at *
    omega

theorem before?_eq_none_iff_underflows {t : Instant} {d : Duration} :
    t.before? d = none ↔ t.Underflows d := by
  have hLast := t.second_le
  unfold before? Underflows
  rw [shift?_eq_none_iff, or_iff_left, Int.sub_eq_add_neg]
  simp only [nanosPerSecond]
  omega

/-- No instant is further back than the longest move, leap seconds included. -/
theorem le_longestMove_of_before? {t cutoff : Instant} {d : Duration}
    (h : t.before? d = some cutoff) : d.nanoseconds ≤ longestMove := by
  have hReached : ¬ t.Underflows d := by
    rw [← before?_eq_none_iff_underflows, h]
    exact nofun
  have hLast := t.second_le
  have hNano := t.nano_lt
  simp only [Underflows, nanoseconds, longestMove, nanosPerSecond, firstSecond,
    lastSecond] at *
  omega

end Tenancy.Instant
