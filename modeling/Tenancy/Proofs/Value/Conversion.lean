import Tenancy.Proofs.Equality
import Tenancy.Proofs.Number.Rounding
import Tenancy.Proofs.Patch
import Tenancy.Proofs.Runs

/-!
# JSON values as typed values

`Value.ofJson` takes a JSON value for a typed one, and `Value.toJson` writes a typed value as JSON.
A JSON value comes back as it was, numbers with their kind, unless it is a wide integer: one from
`2 ^ 63` on, which a typed value holds as the nearest float (`Value.toJson_ofJson_iff`). The other
way round, a typed value comes back if its kind is one that JSON tells apart
(`Value.ofJson_toJson_iff`). `Store.json_written_and_compared` says what follows for patches and
filters that are made from JSON values.
-/

namespace Tenancy

/-! ## Numbers -/

/-- Integers of 64 bits are far from the range of infinity. -/
theorem Double.ofInt_isFinite {i : Int} (h : i.natAbs ≤ 2 ^ 64) : (Double.ofInt i).isFinite := by
  have hMagnitude : (Double.ofInt i).magnitude ≤ (Double.ofInt (2 ^ 64)).magnitude :=
    Double.magnitude_ofInt_mono h
  have hBound : (Double.ofInt (2 ^ 64)).magnitude < Double.infinityBits := by decide +kernel
  exact decide_eq_true (Nat.lt_of_le_of_lt hMagnitude hBound)

namespace Json

/-- An integer that is too great for 64 bits with a sign. -/
def isWide : Json → Bool
  | .number (.integer i _ _) => 2 ^ 63 ≤ i
  | _ => false

theorem isWide_integer_iff {i : Int} {least : -2 ^ 63 ≤ i} {greatest : i < 2 ^ 64} :
    (Json.number (.integer i least greatest)).isWide ↔ 2 ^ 63 ≤ i :=
  decide_eq_true_iff

namespace Number

theorem asInt64?_ofInt64 (i : Int64) : (ofInt64 i).asInt64? = some i := by
  rw [ofInt64, asInt64?, if_pos (by have := i.toInt_lt; omega), Int64.ofInt_toInt]

theorem ofInt64_of_asInt64? {n : Number} {i : Int64} (h : n.asInt64? = some i) :
    ofInt64 i = n := by
  cases n with
  | float x hFinite => cases h
  | integer value least greatest =>
    obtain ⟨hLt, hValue⟩ : value < 2 ^ 63 ∧ Int64.ofInt value = i := by simpa [asInt64?] using h
    have hBack : (Int64.ofInt value).toInt = value := Int64.toInt_ofInt_of_le least hLt
    simp only [ofInt64, ← hValue, hBack]

end Number

theorem ofDouble_of_finite {x : Double} (h : x.isFinite) : ofDouble x = .number (.float x h) := by
  simp [ofDouble, Number.ofDouble?, h]

end Json

/-! ## There and back -/

namespace Value

theorem ofJson_of_wide {i : Int} {least : -2 ^ 63 ≤ i} {greatest : i < 2 ^ 64} (h : 2 ^ 63 ≤ i) :
    ofJson (.number (.integer i least greatest)) = .float (Double.ofInt i) := by
  have hInt : (Json.Number.integer i least greatest).asInt64? = none := if_neg (Int.not_lt.mpr h)
  simp [ofJson, hInt, Json.Number.toDouble]

/-- What is written for a wide integer is another number, of another kind. -/
theorem toJson_ofJson_of_wide {i : Int} (least : -2 ^ 63 ≤ i) (greatest : i < 2 ^ 64)
    (h : 2 ^ 63 ≤ i) : ∃ hFinite, (ofJson (.number (.integer i least greatest))).toJson =
      .number (.float (Double.ofInt i) hFinite) := by
  have hFinite : (Double.ofInt i).isFinite := Double.ofInt_isFinite (by omega)
  rw [ofJson_of_wide h]
  exact ⟨hFinite, Json.ofDouble_of_finite hFinite⟩

theorem toJson_ofJson_of_asInt64? {n : Json.Number} {i : Int64} (h : n.asInt64? = some i) :
    (ofJson (.number n)).toJson = .number n := by
  simp [ofJson, toJson, h, Json.ofInt64, Json.Number.ofInt64_of_asInt64? h]

theorem toJson_ofJson_iff (j : Json) : (ofJson j).toJson = j ↔ ¬ j.isWide := by
  cases j with
  | number n =>
    cases n with
    | float x hFinite =>
      have hBack : (ofJson (.number (.float x hFinite))).toJson = .number (.float x hFinite) :=
        Json.ofDouble_of_finite hFinite
      simp [hBack, Json.isWide]
    | integer i least greatest =>
      rw [Json.isWide_integer_iff]
      by_cases hWide : 2 ^ 63 ≤ i
      · obtain ⟨hFinite, hBack⟩ := toJson_ofJson_of_wide least greatest hWide
        rw [hBack]
        refine iff_of_false (fun hEq => ?_) (not_not.mpr hWide)
        cases Json.number.inj hEq
      · have hInt : (Json.Number.integer i least greatest).asInt64? = some (Int64.ofInt i) :=
          if_pos (Int.not_le.mp hWide)
        exact iff_of_true (toJson_ofJson_of_asInt64? hInt) hWide
  | _ => simp [ofJson, toJson, Json.isWide]

/-- The kinds of values that JSON tells apart: neither identifiers nor instants, which are written
as text, nor floats without a JSON number, nor scalars that are kept as JSON. -/
def isCanonical : Value → Bool
  | .uuid _ | .timestamp _ => false
  | .float x => x.isFinite
  | .json j => !j.isScalar
  | _ => true

theorem ofJson_toJson_iff (v : Value) : ofJson v.toJson = v ↔ v.isCanonical := by
  cases v with
  | int i => simp [toJson, Json.ofInt64, ofJson, Json.Number.asInt64?_ofInt64, isCanonical]
  | float x =>
    by_cases hFinite : x.isFinite
    · have hBack : ofJson (.number (.float x hFinite)) = .float x := rfl
      simp [toJson, Json.ofDouble_of_finite hFinite, hBack, isCanonical, hFinite]
    · simp [toJson, Json.ofDouble, Json.Number.ofDouble?, hFinite, ofJson, isCanonical]
  | json j =>
    cases j with
    | number n =>
      cases hInt : n.asInt64? <;> simp [toJson, ofJson, hInt, isCanonical, Json.isScalar]
    | _ => simp [toJson, ofJson, isCanonical, Json.isScalar]
  | _ => simp [toJson, ofJson, isCanonical]

end Value

/-! ## Comparison with a JSON value -/

/-- Where a cell stands relative to a JSON value. Numbers are compared as numbers, texts as texts,
and arrays and objects for equality only; there is no answer between different kinds, nor for
`null`. -/
def Json.relativeTo? (cell j : Json) : Option Ordering :=
  match j, cell with
  | .bool b, .bool c => some (compare c.toNat b.toNat)
  | .number n, .number k => some (compareNumbers k n)
  | .string s, .string c => some (compare c s)
  | .array _, _ | .object _, _ => if j.same cell then some .eq else none
  | _, _ => none

namespace Value

/-- A value that is made from JSON compares with cells as that JSON value does, wide or not. -/
theorem compareCell?_ofJson (j cell : Json) :
    (ofJson j).compareCell? cell = cell.relativeTo? j := by
  cases j with
  | number n =>
    cases cell with
    | number k => exact compareCell?_number n k
    | _ => cases hn : n.asInt64? <;> simp [ofJson, hn, compareCell?, Json.relativeTo?]
  | array items => cases cell <;> simp [ofJson, compareCell?, Json.relativeTo?, Json.same]
  | object fields => cases cell <;> simp [ofJson, compareCell?, Json.relativeTo?, Json.same]
  | _ => cases cell <;> simp [ofJson, compareCell?, Json.relativeTo?]

end Value

/-- A cell compares equal to itself. -/
theorem Json.relativeTo?_self {j : Json} (hNull : j ≠ .null) : j.relativeTo? j = some .eq := by
  rw [← Value.compareCell?_ofJson]
  exact beq_iff_eq.mp (Value.matchesCell_self hNull)

/-- The condition that a cell equals a JSON value, `null` included. -/
theorem Test.holds_eq_ofJson (j cell : Json) : (Test.eq (.ofJson j)).normalized.holds cell ↔
    (j = .null ∧ cell = .null) ∨ cell.relativeTo? j = some .eq := by
  by_cases hNull : j = .null
  · subst hNull
    cases cell <;> simp [Value.ofJson, normalized, holds, Json.isNull, Json.relativeTo?]
  · rw [Store.normalized_eq_ofJson hNull, holds, Value.matchesCell, Value.compareCell?_ofJson]
    simp [hNull]

namespace Store

variable {ρ : Type}

/-- **JSON values in patches and filters.** For every JSON value, and every declared field other
than that of the tenant:

1. it comes back from its typed value exactly unless it is a wide integer;
2. for a wide integer the nearest float comes back, a number of another kind;
3. a typed value comes back from its JSON form exactly if it is of a kind that JSON tells apart;
4. a patch that assigns it to the field puts it into the column of the field unless it is wide;
5. the filter for it finds the rows with this cell, and all those whose cell compares equal;
6. conditions on it compare cells with the JSON value itself, wide or not. -/
theorem json_written_and_compared (s : Store ρ) {field column : String}
    (hColumn : s.columns.column? field = some column) (hField : field ≠ s.descriptor.tenantField)
    (j : Json) :
    ((Value.ofJson j).toJson = j ↔ ¬ j.isWide) ∧
    (∀ i least greatest, j = .number (.integer i least greatest) → j.isWide →
      ∃ hFinite, (Value.ofJson j).toJson = .number (.float (Double.ofInt i) hFinite)) ∧
    (∀ v : Value, Value.ofJson v.toJson = v ↔ v.isCanonical) ∧
    (∀ patch assignments, patch.get? field = some (.ofJson j) →
      s.resolvePatch patch = .ok assignments →
      ∀ row, (Memory.assign assignments row).get? column = some j ↔ ¬ j.isWide) ∧
    (∃ conditions, s.scopeConditions (.ofEq field (.ofJson j)) = .ok conditions ∧
      (∀ row, conditions.all (·.holds row) ↔
        (j = .null ∧ row.cell column = .null) ∨ (row.cell column).relativeTo? j = some .eq) ∧
      ∀ row, row.cell column = j → conditions.all (·.holds row)) ∧
    ∀ cell, (Value.ofJson j).compareCell? cell = cell.relativeTo? j := by
  refine ⟨Value.toJson_ofJson_iff j, ?_, Value.ofJson_toJson_iff, ?_, ?_,
    Value.compareCell?_ofJson j⟩
  · rintro i least greatest rfl hWide
    exact Value.toJson_ofJson_of_wide least greatest (Json.isWide_integer_iff.mp hWide)
  · intro patch assignments hValue hPatch row
    rw [get?_assign hPatch hColumn hField row, hValue, Option.map_some, Option.some_or,
      Option.some_inj]
    exact Value.toJson_ofJson_iff j
  · have hHolds : ∀ row : Row, [(⟨column, (Test.eq (.ofJson j)).normalized⟩ : Condition)].all
        (·.holds row) ↔ (j = .null ∧ row.cell column = .null) ∨
          (row.cell column).relativeTo? j = some .eq := by
      intro row
      simpa [Condition.holds] using Test.holds_eq_ofJson j (row.cell column)
    refine ⟨_, s.scopeConditions_require hColumn hField _, hHolds, fun row hCell => ?_⟩
    rw [hHolds, hCell]
    by_cases hNull : j = .null
    · exact .inl ⟨hNull, hNull⟩
    · exact .inr (Json.relativeTo?_self hNull)

end Store

/-- An integer without an exact float goes through a patch of the attempts of a job, and the filter
for it tells it from the integer below. The first wide integer comes back as a float. -/
theorem jobs_attempts_written :
    let j := Json.ofInt64 9007199254740993
    let patch := Patch.empty.set "attempts" (.ofJson j)
    (Value.ofJson j).toJson = j ∧
    (∃ assignments, Jobs.store.resolvePatch patch = .ok assignments ∧
      (Memory.assign assignments (Jobs.waiting "a")).get? "attempts" = some j) ∧
    ∃ conditions, Jobs.store.scopeConditions (.ofEq "attempts" (.ofJson j)) = .ok conditions ∧
      conditions.all (·.holds ((Jobs.waiting "a").insert "attempts" j)) ∧
      ¬ conditions.all (·.holds ((Jobs.waiting "a").insert "attempts"
        (Json.ofInt64 9007199254740992))) ∧
      ∃ hFinite, (Value.ofJson (.number (.integer (2 ^ 63) (by decide) (by decide)))).toJson =
        .number (.float (Double.ofInt (2 ^ 63)) hFinite) := by
  have hColumn : Jobs.store.columns.column? "attempts" = some "attempts" := rfl
  obtain ⟨hBack, -, -, hPatch, ⟨conditions, hConditions, hHolds, hSame⟩, -⟩ :=
    Jobs.store.json_written_and_compared hColumn (by decide) (Json.ofInt64 9007199254740993)
  let patch := Patch.empty.set "attempts" (.ofJson (Json.ofInt64 9007199254740993))
  have hAssigned := hPatch patch [⟨"attempts", .ofJson (Json.ofInt64 9007199254740993)⟩] rfl rfl
    (Jobs.waiting "a")
  have hWide := (Jobs.store.json_written_and_compared hColumn (by decide)
    (.number (.integer (2 ^ 63) (by decide) (by decide)))).2.1
  refine ⟨hBack.mpr (by decide), ⟨_, rfl, hAssigned.mpr (by decide)⟩, conditions, hConditions,
    hSame _ rfl, ?_, hWide _ _ _ rfl (by decide)⟩
  rw [hHolds]
  rintro (⟨hNull, -⟩ | hEqual)
  · exact absurd hNull nofun
  · exact absurd hEqual (by decide)

/-- The greatest integer of 64 bits is written as a float that is greater by one. -/
theorem jobs_attempts_rounded :
    let j := Json.ofNat (2 ^ 64 - 1)
    (Value.ofJson j).toJson ≠ j ∧
      (Value.ofJson j).toJson.text = "1.8446744073709552e+19" ∧
      (Memory.assign [⟨"attempts", .ofJson j⟩] (Jobs.waiting "a")).cell "attempts" =
        Json.ofDouble (Double.ofInt (2 ^ 64)) := by
  exact ⟨nofun, by decide +kernel, rfl⟩

end Tenancy
