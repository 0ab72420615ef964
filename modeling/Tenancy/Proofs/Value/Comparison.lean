import Tenancy.Proofs.Time.Rfc3339
import Tenancy.Proofs.Value.Conversion

/-!
# Comparison with written values

A value that is written into a row is compared there in its JSON form: an identifier or an instant
is formatted when it is written and read again for every comparison. For values that are readable in
this form the comparison comes to that of the values themselves (`Value.compareCell?_toJson`): an
instant has to lie in the years 0 to 9999, whatever its nanoseconds, and a float has to be finite.
So the conditions on a column find the value that its cell was made from (`found_of_cell`).
-/

namespace Tenancy

namespace Value

/-! ## The order of values -/

/-- Neither `null`, nor a value whose JSON form does not tell what it was. -/
def isReadable : Value → Bool
  | .null => false
  | .float x => x.isFinite
  | .timestamp t => 0 ≤ t.year && t.year ≤ 9999
  | .json j => !j.isNull
  | _ => true

/-- Values of one kind. -/
def sameKind : Value → Value → Bool
  | .null, .null | .bool _, .bool _ | .int _, .int _ | .float _, .float _ | .text _, .text _
  | .uuid _, .uuid _ | .timestamp _, .timestamp _ | .json _, .json _ => true
  | _, _ => false

/-- Where a value stands relative to another one of its kind. JSON values are equal or not, and
otherwise without order. -/
def order? : Value → Value → Option Ordering
  | .bool a, .bool b => some (compare a.toNat b.toNat)
  | .int a, .int b => some (compare a.toInt b.toInt)
  | .float a, .float b => a.compare? b
  | .text a, .text b => some (compare a b)
  | .uuid a, .uuid b => some (a.compare b)
  | .timestamp a, .timestamp b => some (a.compare b)
  | .json a, .json b => if b.same a then some .eq else none
  | _, _ => none

variable {v w : Value}

theorem order?_self (h : v.isReadable) : v.order? v = some .eq := by
  cases v with
  | null => cases h
  | bool b => simp [order?]
  | int i => simp [order?]
  | float x => exact Double.compare?_self (Json.Number.toDouble_isNaN (.float x h))
  | text s => simp [order?]
  | uuid u => exact congrArg some (Uuid.compare_eq_iff.mpr rfl)
  | timestamp t => exact congrArg some (Instant.compare_eq_iff.mpr rfl)
  | json j => exact if_pos j.same_self

/-- Readable scalars of one kind are in a total order. -/
theorem exists_order? (hv : v.isReadable) (hw : w.isReadable) (hKind : v.sameKind w)
    (hScalar : ∀ j, v ≠ .json j) : ∃ o, v.order? w = some o := by
  cases v with
  | null => cases hv
  | json j => exact absurd rfl (hScalar j)
  | float x =>
    cases w with
    | float y =>
      have hx : x.isNaN = false := Json.Number.toDouble_isNaN (.float x hv)
      have hy : y.isNaN = false := Json.Number.toDouble_isNaN (.float y hw)
      exact ⟨compare x.rank y.rank, by simp [order?, Double.compare?, hx, hy]⟩
    | _ => cases hKind
  | _ => cases w <;> first | exact ⟨_, rfl⟩ | cases hKind

theorem order?_json_eq_iff {a b : Json} :
    (Value.json a).order? (.json b) = some .eq ↔ b.same a := by
  simp [order?]

/-! ## Values in cells -/

/-- The JSON form of a value compares as the value itself. -/
theorem compareCell?_toJson (h : v.isReadable) (hKind : v.sameKind w) :
    w.compareCell? v.toJson = v.order? w := by
  cases v with
  | null => cases h
  | bool a =>
    cases w with
    | bool b => rfl
    | _ => cases hKind
  | int a =>
    cases w with
    | int b => simp [toJson, Json.ofInt64, compareCell?, Json.Number.asInt64?_ofInt64, order?]
    | _ => cases hKind
  | float a =>
    cases w with
    | float b =>
      rw [toJson, Json.ofDouble_of_finite h]
      rfl
    | _ => cases hKind
  | text a =>
    cases w with
    | text b => rfl
    | _ => cases hKind
  | uuid a =>
    cases w with
    | uuid b => simp [toJson, compareCell?, Uuid.ofText?_text, order?]
    | _ => cases hKind
  | timestamp a =>
    cases w with
    | timestamp b =>
      have hYears : 0 ≤ a.year ∧ a.year ≤ 9999 := by simpa [isReadable] using h
      simp [toJson, compareCell?, Rfc3339.ofText?_text hYears, order?]
    | _ => cases hKind
  | json a =>
    cases w with
    | json b => cases a <;> first | rfl | cases h
    | _ => cases hKind

theorem sameKind_self (v : Value) : v.sameKind v := by
  cases v <;> rfl

end Value

/-! ## Conditions on a column -/

/-- What the conditions on one column tell about a row with this value there. -/
structure Found (column : String) (v : Value) (row : Row) : Prop where
  eq : Condition.holds ⟨column, .eq v⟩ row
  le : Condition.holds ⟨column, .le v⟩ row
  ge : Condition.holds ⟨column, .ge v⟩ row
  oneOf : ∀ values, v ∈ values → Condition.holds ⟨column, .oneOf values⟩ row
  not_ne : ¬ Condition.holds ⟨column, .ne v⟩ row
  not_lt : ¬ Condition.holds ⟨column, .lt v⟩ row
  not_gt : ¬ Condition.holds ⟨column, .gt v⟩ row

/-- A cell is found under the value that was written into it. -/
theorem found_of_cell {column : String} {v : Value} {row : Row} (h : v.isReadable)
    (hCell : row.cell column = v.toJson) : Found column v row := by
  have hEqual : v.compareCell? v.toJson = some .eq :=
    (Value.compareCell?_toJson h v.sameKind_self).trans (Value.order?_self h)
  have hMatches : v.matchesCell v.toJson := beq_iff_eq.mpr hEqual
  refine ⟨?_, ?_, ?_, fun values hMem => ?_, ?_, ?_, ?_⟩
  · rw [Condition.holds, hCell]
    exact hMatches
  · simp [Condition.holds, hCell, Test.holds, hMatches]
  · simp [Condition.holds, hCell, Test.holds, hMatches]
  · rw [Condition.holds, hCell]
    exact List.any_eq_true.mpr ⟨v, hMem, hMatches⟩
  · simp [Condition.holds, hCell, Test.holds, hMatches]
  · simp [Condition.holds, hCell, Test.holds, hEqual]
  · simp [Condition.holds, hCell, Test.holds, hEqual]

end Tenancy
