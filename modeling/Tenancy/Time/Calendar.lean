/-!
# Calendar dates

Dates of the Gregorian calendar, extended over all years, and their number of days after
1970-01-01. Years are counted from March here, so the leap day is the last day of its year.
-/

namespace Tenancy

/-- A date; months and days count from one. -/
structure Date where
  year : Int
  month : Nat
  day : Nat
deriving DecidableEq, Repr

namespace Date

def isLeapYear (year : Int) : Bool := year % 4 == 0 && (year % 100 != 0 || year % 400 == 0)

/-- The number of days of a month; none for a number that is no month. -/
def daysInMonth (year : Int) (month : Nat) : Nat :=
  match month with
  | 1 | 3 | 5 | 7 | 8 | 10 | 12 => 31
  | 4 | 6 | 9 | 11 => 30
  | 2 => if isLeapYear year then 29 else 28
  | _ => 0

/-- The date is one of the calendar. -/
def isValid (d : Date) : Bool := 1 ≤ d.day && d.day ≤ daysInMonth d.year d.month

/-- Days from 1970-01-01 to the date. -/
def dayNumber (d : Date) : Int :=
  let year := if d.month ≤ 2 then d.year - 1 else d.year
  let monthsAfterMarch : Int := ((d.month + 9) % 12 : Nat)
  365 * year + year / 4 - year / 100 + year / 400 + (153 * monthsAfterMarch + 2) / 5 +
    (d.day - 1) - 719468

/-- The date so many days after 1970-01-01. -/
def ofDayNumber (n : Int) : Date :=
  let z := n + 719468
  let cycle := z / 146097
  let inCycle := z % 146097
  let century := min (inCycle / 36524) 3
  let inCentury := inCycle - century * 36524
  let quad := inCentury / 1461
  let inQuad := inCentury % 1461
  let single := min (inQuad / 365) 3
  let inYear := inQuad - single * 365
  let year := 400 * cycle + 100 * century + 4 * quad + single
  let monthsAfterMarch := (5 * inYear + 2) / 153
  let day := inYear - (153 * monthsAfterMarch + 2) / 5 + 1
  let month := if monthsAfterMarch < 10 then monthsAfterMarch + 3 else monthsAfterMarch - 9
  ⟨if month ≤ 2 then year + 1 else year, month.toNat, day.toNat⟩

end Date

end Tenancy
