import Mathlib.Tactic.IntervalCases
import Tenancy.Time.Calendar

/-!
# Dates and their day numbers

The date of a day number is one of the calendar (`Date.isValid_ofDayNumber`), and the day number of
this date is the one it was made from (`Date.dayNumber_ofDayNumber`). Both follow from the parts
into which `Date.ofDayNumber` takes a day number: cycles of 400 years, centuries, leap year periods,
years that begin in March, and days (`Date.exists_parts`).
-/

namespace Tenancy.Date

/-! ## The parts of a day number -/

/-- Days after March 1 of the year 0 by cycle, century, leap year period, year, and day of the year.
Only a year that ends with a leap day has a day 365. -/
structure Parts (days cycle century quad single inYear : Int) : Prop where
  sum : days = 146097 * cycle + 36524 * century + 1461 * quad + 365 * single + inYear
  century_le : 0 ≤ century ∧ century ≤ 3
  quad_le : 0 ≤ quad ∧ quad ≤ 24
  single_le : 0 ≤ single ∧ single ≤ 3
  inYear_le : 0 ≤ inYear ∧ inYear ≤ 365
  leapDay : inYear = 365 → single = 3 ∧ (quad = 24 → century = 3)

/-- The month of a day of a year that begins in March, counted from March. -/
def monthOf (inYear : Int) : Nat := ((5 * inYear + 2) / 153).toNat

/-- The date of a day of a year that begins in March. -/
def ofMarch (year inYear : Int) : Date :=
  let month := monthOf inYear
  let day := (inYear - (153 * month + 2) / 5 + 1).toNat
  if month < 10 then ⟨year, month + 3, day⟩ else ⟨year + 1, month - 9, day⟩

theorem monthOf_eq {inYear : Int} (h : 0 ≤ inYear) :
    (monthOf inYear : Int) = (5 * inYear + 2) / 153 :=
  Int.toNat_of_nonneg (by omega)

theorem ofDayNumber_eq_ofMarch {year inYear : Int} (h : 0 ≤ inYear ∧ inYear ≤ 365) :
    (let monthsAfterMarch := (5 * inYear + 2) / 153
     let day := inYear - (153 * monthsAfterMarch + 2) / 5 + 1
     let month := if monthsAfterMarch < 10 then monthsAfterMarch + 3 else monthsAfterMarch - 9
     (⟨if month ≤ 2 then year + 1 else year, month.toNat, day.toNat⟩ : Date)) =
      ofMarch year inYear := by
  dsimp only [ofMarch]
  rw [← monthOf_eq h.1]
  have hMonths : monthOf inYear ≤ 11 := by have := monthOf_eq h.1; omega
  generalize monthOf inYear = month at hMonths
  by_cases hSpring : month < 10
  · have hLate : ¬(month : Int) + 3 ≤ 2 := by omega
    have hSpring' : (month : Int) < 10 := by omega
    have hNat : ((month : Int) + 3).toNat = month + 3 := by omega
    simp only [hSpring, hSpring', if_true, hLate, if_false, hNat]
  · have hEarly : (month : Int) - 9 ≤ 2 := by omega
    have hSpring' : ¬(month : Int) < 10 := by omega
    have hNat : ((month : Int) - 9).toNat = month - 9 := by omega
    simp only [hSpring, hSpring', if_false, hEarly, if_true, hNat]

theorem exists_parts (n : Int) : ∃ cycle century quad single inYear,
    Parts (n + 719468) cycle century quad single inYear ∧
      ofDayNumber n = ofMarch (400 * cycle + 100 * century + 4 * quad + single) inYear := by
  unfold ofDayNumber
  dsimp only
  generalize n + 719468 = days
  generalize hCycle : days / 146097 = cycle
  generalize hInCycle : days % 146097 = inCycle
  generalize hCentury : min (inCycle / 36524) 3 = century
  generalize hInCentury : inCycle - century * 36524 = inCentury
  generalize hQuad : inCentury / 1461 = quad
  generalize hInQuad : inCentury % 1461 = inQuad
  generalize hSingle : min (inQuad / 365) 3 = single
  generalize hInYear : inQuad - single * 365 = inYear
  exact ⟨cycle, century, quad, single, inYear, by constructor <;> omega,
    ofDayNumber_eq_ofMarch (by omega)⟩

/-! ## Back to the day number -/

theorem dayNumber_spring (year : Int) (day : Nat) {month : Nat} (h : month < 10) :
    dayNumber ⟨year, month + 3, day⟩ =
      365 * year + year / 4 - year / 100 + year / 400 + (153 * month + 2) / 5 +
        (day - 1) - 719468 := by
  have hAfter : (month + 3 + 9) % 12 = month := by omega
  simp only [dayNumber, hAfter]
  omega

theorem dayNumber_ofMarch {year inYear : Int} (h : 0 ≤ inYear ∧ inYear ≤ 365) :
    (ofMarch year inYear).dayNumber =
      365 * year + year / 4 - year / 100 + year / 400 + inYear - 719468 := by
  have hMonth := monthOf_eq h.1
  unfold ofMarch
  dsimp only
  split
  · rw [dayNumber_spring _ _ ‹_›]
    omega
  · rw [dayNumber]
    have hAfter : (monthOf inYear - 9 + 9) % 12 = monthOf inYear := by omega
    simp only [hAfter]
    omega

theorem dayNumber_ofDayNumber (n : Int) : (ofDayNumber n).dayNumber = n := by
  obtain ⟨cycle, century, quad, single, inYear, hParts, hDate⟩ := exists_parts n
  obtain ⟨hSum, hCentury, hQuad, hSingle, hInYear, -⟩ := hParts
  rw [hDate, dayNumber_ofMarch hInYear]
  omega

/-! ## Dates of the calendar -/

theorem daysInMonth_le (year : Int) (month : Nat) : daysInMonth year month ≤ 31 := by
  unfold daysInMonth
  split <;> first | decide | (split <;> decide)

theorem month_of_daysInMonth {year : Int} {month : Nat} (h : 0 < daysInMonth year month) :
    1 ≤ month ∧ month ≤ 12 := by
  unfold daysInMonth at h
  split at h <;> first | decide | exact absurd h (by decide)

theorem bounds_of_isValid {date : Date} (h : date.isValid) :
    (1 ≤ date.month ∧ date.month ≤ 12) ∧ 1 ≤ date.day ∧ date.day ≤ 31 := by
  rw [isValid, Bool.and_eq_true, decide_eq_true_iff, decide_eq_true_iff] at h
  exact ⟨month_of_daysInMonth (Nat.lt_of_lt_of_le h.1 h.2), h.1,
    Nat.le_trans h.2 (daysInMonth_le _ _)⟩

theorem isValid_ofMarch {year inYear : Int} (h : 0 ≤ inYear ∧ inYear ≤ 365)
    (hLeap : inYear = 365 → isLeapYear (year + 1)) : (ofMarch year inYear).isValid := by
  have hMonth := monthOf_eq h.1
  have hMonths : monthOf inYear ≤ 11 := by omega
  dsimp only [ofMarch]
  generalize monthOf inYear = month at hMonth hMonths
  interval_cases month <;> simp [isValid, daysInMonth] <;> try omega
  -- February alone has a length that depends on the year.
  by_cases hLong : isLeapYear (year + 1)
  · rw [if_pos hLong]
    omega
  · have hNotLast : inYear ≠ 365 := fun hLast => hLong (hLeap hLast)
    rw [if_neg hLong]
    omega

theorem isValid_ofDayNumber (n : Int) : (ofDayNumber n).isValid := by
  obtain ⟨cycle, century, quad, single, inYear, hParts, hDate⟩ := exists_parts n
  obtain ⟨hSum, hCentury, hQuad, hSingle, hInYear, hLeapDay⟩ := hParts
  rw [hDate]
  refine isValid_ofMarch hInYear fun hLast => ?_
  obtain ⟨hThree, hLastQuad⟩ := hLeapDay hLast
  simp only [isLeapYear, Bool.and_eq_true, Bool.or_eq_true, beq_iff_eq, bne_iff_ne]
  omega

/-! ## Years -/

theorem year_ofMarch (year inYear : Int) :
    (ofMarch year inYear).year = if monthOf inYear < 10 then year else year + 1 := by
  dsimp only [ofMarch]
  split <;> rfl

theorem year_nonneg_iff {n : Int} : 0 ≤ (ofDayNumber n).year ↔ -719528 ≤ n := by
  obtain ⟨cycle, century, quad, single, inYear, hParts, hDate⟩ := exists_parts n
  obtain ⟨hSum, hCentury, hQuad, hSingle, hInYear, -⟩ := hParts
  have hMonth := monthOf_eq hInYear.1
  rw [hDate, year_ofMarch]
  split <;> omega

end Tenancy.Date
