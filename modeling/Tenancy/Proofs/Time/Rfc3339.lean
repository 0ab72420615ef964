import Mathlib.Tactic.IntervalCases
import Mathlib.Tactic.Ring
import Tenancy.Proofs.Time.Instant
import Tenancy.Time.Rfc3339

/-!
# Timestamps read back

The text of an instant in the years 0 to 9999 names the instant it was written from
(`Rfc3339.ofText?_text`). Other years carry a sign, which the reader refuses.
-/

namespace Tenancy.Rfc3339

/-! ## Digits -/

@[simp]
theorem length_digits (width n : Nat) : (digits width n).length = width := by
  induction width generalizing n with
  | zero => rfl
  | succ width ih => rw [digits, List.length_append, ih, List.length_singleton]

theorem digitValue?_ofNat (n : Nat) : digitValue? (Char.ofNat (48 + n % 10)) = some (n % 10) := by
  have hDigit : n % 10 < 10 := Nat.mod_lt n (by decide)
  generalize n % 10 = digit at hDigit
  interval_cases digit <;> rfl

theorem isDigit_of_mem {width n : Nat} {c : Char} (h : c ∈ digits width n) : isDigit c := by
  induction width generalizing n with
  | zero => simp [digits] at h
  | succ width ih =>
    rcases List.mem_append.mp h with hInit | hLast
    · exact ih hInit
    · rw [List.mem_singleton.mp hLast, isDigit, digitValue?_ofNat]
      rfl

theorem digits_zero (width : Nat) : digits width 0 = List.replicate width '0' := by
  induction width with
  | zero => rfl
  | succ width ih =>
    rw [List.replicate_succ', ← ih]
    rfl

theorem readDigitsFrom_add (first second read : Nat) (cs : List Char) :
    readDigitsFrom read (first + second) cs =
      (readDigitsFrom read first cs).bind fun p => readDigitsFrom p.1 second p.2 := by
  induction first generalizing read cs with
  | zero => rw [Nat.zero_add]; rfl
  | succ first ih =>
    rw [Nat.succ_add]
    cases cs with
    | nil => rfl
    | cons c cs =>
      simp only [readDigitsFrom]
      cases digitValue? c with
      | none => rfl
      | some value => exact ih _ cs

theorem readDigitsFrom_digits (width read n : Nat) (rest : List Char) :
    readDigitsFrom read width (digits width n ++ rest) =
      some (read * 10 ^ width + n % 10 ^ width, rest) := by
  induction width generalizing n rest with
  | zero => simp [digits, readDigitsFrom, Nat.mod_one]
  | succ width ih =>
    have hLast : 10 * (read * 10 ^ width + n / 10 % 10 ^ width) + n % 10 =
        read * 10 ^ (width + 1) + n % 10 ^ (width + 1) := by
      rw [Nat.pow_succ', Nat.mod_mul]
      ring
    rw [digits, List.append_assoc, readDigitsFrom_add, ih]
    simp only [List.singleton_append, Option.bind_some, readDigitsFrom, digitValue?_ofNat]
    exact congrArg (fun read => some (read, rest)) hLast

theorem readDigits_digits {width n : Nat} (h : n < 10 ^ width) (rest : List Char) :
    readDigits width (digits width n ++ rest) = some (n, rest) := by
  rw [readDigits, readDigitsFrom_digits, Nat.zero_mul, Nat.zero_add, Nat.mod_eq_of_lt h]

theorem readField_digits {least greatest n : Nat} (hLeast : least ≤ n) (hGreatest : n ≤ greatest)
    (h : n < 100) (rest : List Char) :
    readField least greatest (digits 2 n ++ rest) = some (n, rest) := by
  rw [readField, readDigits_digits h]
  exact if_pos ⟨hLeast, hGreatest⟩

/-! ## Fractions -/

theorem readFraction_digits {width n : Nat} (hWidth : 0 < width ∧ width ≤ 9) (h : n < 10 ^ width)
    (rest : List Char) :
    readFraction (digits width n ++ 'Z' :: rest) =
      some (n * 10 ^ (9 - width), 'Z' :: rest) := by
  have hRun : (digits width n ++ 'Z' :: rest).takeWhile isDigit = digits width n := by
    rw [List.takeWhile_append_of_pos fun c hc => isDigit_of_mem hc]
    exact List.append_nil _
  have hRest : (digits width n ++ 'Z' :: rest).dropWhile isDigit = 'Z' :: rest := by
    rw [List.dropWhile_append_of_pos fun c hc => isDigit_of_mem hc]
    rfl
  have hTaken : (digits width n ++ List.replicate 9 '0').take 9 =
      digits width n ++ digits (9 - width) 0 := by
    have hLength : (digits width n).length ≤ 9 := (length_digits width n).trans_le hWidth.2
    rw [List.take_append, length_digits, List.take_of_length_le hLength, List.take_replicate,
      digits_zero, Nat.min_eq_left (Nat.sub_le _ _)]
  have hRead : readDigits 9 (digits width n ++ digits (9 - width) 0) =
      some (n * 10 ^ (9 - width), []) := by
    have hNine : 9 = width + (9 - width) := (Nat.add_sub_cancel' hWidth.2).symm
    have hZeros := readDigitsFrom_digits (9 - width) (0 * 10 ^ width + n % 10 ^ width) 0 []
    rw [List.append_nil, Nat.zero_mod, Nat.add_zero] at hZeros
    rw [readDigits, hNine, readDigitsFrom_add, ← hNine, readDigitsFrom_digits, Option.bind_some,
      hZeros, Nat.zero_mul, Nat.zero_add, Nat.mod_eq_of_lt h]
  have hNonempty : (digits width n).isEmpty = false := by
    rw [List.isEmpty_eq_false_iff, ← List.length_pos_iff, length_digits]
    exact hWidth.1
  unfold readFraction
  simp only [hRun, hRest, hTaken, hRead, hNonempty]
  rfl

/-- The fraction of a second as `readTime` reads it, with its point. -/
def readPoint : List Char → Option (Nat × List Char)
  | '.' :: rest => readFraction rest
  | cs => some (0, cs)

theorem readPoint_fractionChars {nano : Nat} (h : nano < nanosPerSecond) :
    readPoint (fractionChars nano ++ ['Z']) = some (nano, ['Z']) := by
  unfold fractionChars
  simp only [nanosPerSecond] at h
  split
  case isTrue hZero => rw [hZero]; rfl
  split
  case isTrue hMillis =>
    rw [List.cons_append, readPoint, readFraction_digits (by decide) (by omega)]
    exact congrArg some (congrArg (·, _) (Nat.div_mul_cancel (Nat.dvd_of_mod_eq_zero hMillis)))
  split
  case isTrue hMicros =>
    rw [List.cons_append, readPoint, readFraction_digits (by decide) (by omega)]
    exact congrArg some (congrArg (·, _) (Nat.div_mul_cancel (Nat.dvd_of_mod_eq_zero hMicros)))
  case isFalse =>
    rw [List.cons_append, readPoint, readFraction_digits (by decide) h, Nat.sub_self,
      Nat.pow_zero, Nat.mul_one]

/-! ## Dates and times -/

theorem readDate_digits {date : Date} (hYear : 0 ≤ date.year ∧ date.year ≤ 9999)
    (hValid : date.isValid) (rest : List Char) :
    readDate (digits 4 date.year.toNat ++ '-' :: (digits 2 date.month ++ '-' ::
      (digits 2 date.day ++ rest))) = some (date, rest) := by
  obtain ⟨hMonth, hDay⟩ := date.bounds_of_isValid hValid
  have hEq : (⟨date.year.toNat, date.month, date.day⟩ : Date) = date := by
    rw [Int.toNat_of_nonneg hYear.1]
  simp only [readDate, readDigits_digits (by omega : date.year.toNat < 10 ^ 4), expect, if_true,
    readField_digits hMonth.1 hMonth.2 (by omega), readField_digits hDay.1 hDay.2 (by omega),
    Option.bind_eq_bind, Option.bind_some, hEq, hValid]

theorem readTime_digits {hour minute second nano : Nat} (hHour : hour ≤ 23) (hMinute : minute ≤ 59)
    (hSecond : second ≤ 60) (hNano : nano < nanosPerSecond) :
    readTime (digits 2 hour ++ ':' :: (digits 2 minute ++ ':' ::
      (digits 2 second ++ (fractionChars nano ++ ['Z'])))) =
      some (if second = 60 then (3600 * hour + 60 * minute + 59, nanosPerSecond + nano, ['Z'])
        else (3600 * hour + 60 * minute + second, nano, ['Z'])) := by
  have hPoint := readPoint_fractionChars hNano
  simp only [readTime, expect, if_true, readField_digits (Nat.zero_le _) hHour (by omega),
    readField_digits (Nat.zero_le _) hMinute (by omega),
    readField_digits (Nat.zero_le _) hSecond (by omega), Option.bind_eq_bind, Option.bind_some]
  generalize fractionChars nano ++ ['Z'] = cs at hPoint ⊢
  cases cs using readPoint.fun_cases with
  | case1 rest =>
    rw [readPoint] at hPoint
    simp only [hPoint, Option.bind_some]
    split <;> rfl
  | case2 cs hNoPoint =>
    rw [readPoint.eq_2 _ hNoPoint, Option.some.injEq, Prod.mk.injEq] at hPoint
    obtain ⟨rfl, rfl⟩ := hPoint
    show (if second = 60 then _ else _) = _
    split <;> rfl

/-- The written time of day, its leap second included, is read back. -/
theorem readTime_inDay {inDay nano : Nat} (hDay : inDay < 86400) (hNano : nano < 2 * nanosPerSecond)
    (hLeap : nanosPerSecond ≤ nano → inDay % 60 = 59) :
    readTime (digits 2 (inDay / 3600) ++ ':' :: (digits 2 (inDay / 60 % 60) ++ ':' ::
      (digits 2 (inDay % 60 + nano / nanosPerSecond) ++
        (fractionChars (nano % nanosPerSecond) ++ ['Z'])))) = some (inDay, nano, ['Z']) := by
  simp only [nanosPerSecond] at hNano hLeap
  rw [readTime_digits (by omega) (by omega) (by simp only [nanosPerSecond]; omega)
    (Nat.mod_lt _ (by decide))]
  simp only [nanosPerSecond]
  by_cases hLate : 1000000000 ≤ nano
  · have hInDay : 3600 * (inDay / 3600) + 60 * (inDay / 60 % 60) + 59 = inDay := by omega
    have hInSecond : 1000000000 + nano % 1000000000 = nano := by omega
    rw [if_pos (by omega), hInDay, hInSecond]
  · have hInDay : 3600 * (inDay / 3600) + 60 * (inDay / 60 % 60) +
        (inDay % 60 + nano / 1000000000) = inDay := by omega
    have hInSecond : nano % 1000000000 = nano := by omega
    rw [if_neg (by omega), hInDay, hInSecond]

/-! ## Instants -/

theorem readOffset_zulu : readOffset ['Z'] = some (0, []) := rfl

/-- The text of an instant in the years 0 to 9999 names this instant. -/
theorem ofText?_text {t : Instant} (h : 0 ≤ t.year ∧ t.year ≤ 9999) :
    ofText? (text t) = some t := by
  have hValid := Date.isValid_ofDayNumber (t.second / 86400)
  have hNumber := Date.dayNumber_ofDayNumber (t.second / 86400)
  have hLeap := t.leap
  unfold Instant.year at h
  rw [ofText?, text, String.toList_ofList]
  unfold toChars ofChars?
  dsimp only
  generalize Date.ofDayNumber (t.second / 86400) = date at h hValid hNumber
  simp only [yearChars, if_pos h, List.append_assoc, List.cons_append]
  rw [readDate_digits h hValid]
  simp only [Option.bind_eq_bind, Option.bind_some, isSeparator, beq_self_eq_true, Bool.true_or,
    if_true]
  rw [readTime_inDay (by omega) t.nano_lt (by omega)]
  have hSecond : 86400 * (t.second / 86400) + ((t.second % 86400).toNat : Int) - 60 * 0 =
      t.second := by omega
  simp only [Option.bind_some, readOffset_zulu, List.isEmpty_nil, if_true, hNumber, hSecond]
  exact dif_pos ⟨t.second_ge, t.second_le, t.nano_lt, t.leap⟩

end Tenancy.Rfc3339
