import Tenancy.Proofs.Kinds
import Tenancy.Proofs.Uuid

/-!
# Equality of cells

A unique key compares arrays and objects by their text, and a condition compares them as JSON
values. The two disagree on floating-point zeros: `[0.0]` and `[-0.0]` are equal values with
different texts. A `Plain` cell has no such zero inside, and then equality of values is the finer of
the two (`Value.sameCell_of_plain`). Of the scalars each is taken for the same as others of its kind
only (`Json.string_of_sameCell`, `Json.number_of_sameCell`). There the two comparisons disagree on
texts alone: two texts of one point in time are the same for a unique key and different values
(`Value.sameCell_iff`).
-/

namespace Tenancy

/-! ## Equal values -/

theorem Instant.compare_eq_iff {a b : Instant} : a.compare b = .eq ↔ a = b := by
  rw [Instant.compare, Ordering.then_eq_eq, Std.compare_eq_iff_eq, Std.compare_eq_iff_eq]
  constructor
  · rintro ⟨hSecond, hNano⟩
    cases a
    cases b
    cases hSecond
    cases hNano
    rfl
  · rintro rfl
    exact ⟨rfl, rfl⟩

theorem Double.eq_of_same {x y : Double} (hZero : x.magnitude ≠ 0) (h : x.same y) : x = y := by
  obtain ⟨p, a, ha⟩ := x
  obtain ⟨q, b, hb⟩ := y
  have hRank : (⟨p, a, ha⟩ : Double).rank = (⟨q, b, hb⟩ : Double).rank := by
    unfold same compare? at h
    split at h
    · cases h
    · simpa using h
  have hNonzero : a ≠ 0 := hZero
  cases p <;> cases q <;> simp [rank] at hRank ⊢ <;> omega

namespace Json

mutual

/-- No floating-point zero anywhere. -/
def zeroFree : Json → Bool
  | .number (.float x _) => x.magnitude != 0
  | .array items => zeroFreeItems items
  | .object fields => zeroFreeFields fields
  | _ => true

def zeroFreeItems : List Json → Bool
  | [] => true
  | j :: rest => j.zeroFree && zeroFreeItems rest

def zeroFreeFields : List (String × Json) → Bool
  | [] => true
  | (_, j) :: rest => j.zeroFree && zeroFreeFields rest

end

/-- No floating-point zero inside an array or an object. -/
def Plain (cell : Json) : Prop := cell.isScalar ∨ cell.zeroFree

instance (cell : Json) : Decidable cell.Plain :=
  inferInstanceAs (Decidable (cell.isScalar ∨ cell.zeroFree))

theorem Number.same_self (n : Number) : n.same n := by
  cases n with
  | integer i least greatest => simp [Number.same]
  | float x hFinite =>
    have hNumber : x.isNaN = false := toDouble_isNaN (.float x hFinite)
    simp [Number.same, Double.same, Double.compare?_self hNumber]

mutual

theorem same_self : ∀ cell : Json, cell.same cell
  | .null => rfl
  | .bool b => by simp [same]
  | .number n => n.same_self
  | .string s => by simp [same]
  | .array items => sameItems_self items
  | .object fields => sameFields_self fields

theorem sameItems_self : ∀ items : List Json, sameItems items items
  | [] => rfl
  | j :: rest => by simp [sameItems, same_self j, sameItems_self rest]

theorem sameFields_self : ∀ fields : List (String × Json), sameFields fields fields
  | [] => rfl
  | (k, j) :: rest => by simp [sameFields, same_self j, sameFields_self rest]

end

theorem Number.eq_of_same {n k : Number} (hZero : (Json.number n).zeroFree) (h : n.same k) :
    n = k := by
  cases n with
  | integer i least greatest =>
    cases k with
    | integer j least' greatest' =>
      have hValue : i = j := by simpa [Number.same] using h
      subst hValue
      rfl
    | float y hFinite => cases h
  | float x hFinite =>
    cases k with
    | integer j least greatest => cases h
    | float y hFinite' =>
      have hMagnitude : x.magnitude ≠ 0 := by simpa [zeroFree] using hZero
      have hValue := Double.eq_of_same hMagnitude h
      subst hValue
      rfl

mutual

/-- Only a floating-point zero is equal to anything but itself. -/
theorem eq_of_same : ∀ (a : Json) {b : Json}, a.zeroFree → a.same b → a = b
  | .null, b, _, h => by cases b <;> first | rfl | cases h
  | .bool p, b, _, h => by cases b <;> first | cases h | simpa [same] using h
  | .number n, b, hZero, h => by
    cases b with
    | number k => exact congrArg Json.number (Number.eq_of_same hZero h)
    | _ => cases h
  | .string s, b, _, h => by cases b <;> first | cases h | simpa [same] using h
  | .array as, b, hZero, h => by
    cases b with
    | array bs => exact congrArg Json.array (eq_of_sameItems as hZero h)
    | _ => cases h
  | .object as, b, hZero, h => by
    cases b with
    | object bs => exact congrArg Json.object (eq_of_sameFields as hZero h)
    | _ => cases h

theorem eq_of_sameItems : ∀ (as : List Json) {bs : List Json}, zeroFreeItems as →
    sameItems as bs → as = bs
  | [], bs, _, h => by cases bs <;> first | rfl | cases h
  | a :: as, bs, hZero, h => by
    cases bs with
    | nil => cases h
    | cons b bs =>
      simp only [zeroFreeItems, sameItems, Bool.and_eq_true] at hZero h
      rw [eq_of_same a hZero.1 h.1, eq_of_sameItems as hZero.2 h.2]

theorem eq_of_sameFields : ∀ (as : List (String × Json)) {bs : List (String × Json)},
    zeroFreeFields as → sameFields as bs → as = bs
  | [], bs, _, h => by cases bs <;> first | rfl | cases h
  | (j, a) :: as, bs, hZero, h => by
    cases bs with
    | nil => cases h
    | cons field bs =>
      obtain ⟨k, b⟩ := field
      simp only [zeroFreeFields, sameFields, Bool.and_eq_true, beq_iff_eq] at hZero h
      rw [h.1.1, eq_of_same a hZero.1 h.1.2, eq_of_sameFields as hZero.2 h.2]

end

end Json

namespace Value

theorem matchesCell_null (v : Value) : v.matchesCell .null = false := by
  cases v <;> rfl

/-- A cell other than `null` equals its own value. -/
theorem matchesCell_self {cell : Json} (hNull : cell ≠ .null) : (ofJson cell).matchesCell cell := by
  cases cell with
  | array items => simp [ofJson, matchesCell, compareCell?, Json.same_self]
  | object fields => simp [ofJson, matchesCell, compareCell?, Json.same_self]
  | _ => exact ofJson_matchesCell rfl hNull

/-- What equals the value of a plain cell counts as the same as that cell. -/
theorem sameCell_of_plain {cell other : Json} (hPlain : cell.Plain)
    (h : (ofJson cell).matchesCell other) : Json.sameCell cell other := by
  by_cases hScalar : cell.isScalar
  · rw [Json.sameCell_comm]
    exact sameCell_of_matchesCell hScalar h
  · have hZero := hPlain.resolve_left hScalar
    have hNull : cell ≠ .null := by
      rintro rfl
      exact hScalar rfl
    have hSame : cell.same other := by
      cases cell with
      | array items =>
        cases other <;> simp_all [ofJson, matchesCell, compareCell?]
      | object fields =>
        cases other <;> simp_all [ofJson, matchesCell, compareCell?]
      | _ => exact absurd rfl hScalar
    rw [← Json.eq_of_same cell hZero hSame]
    exact Json.sameCell_self hNull

end Value

namespace Json

/-! ## The kinds of equal cells -/

theorem kind_eq_of_sameCell {a b : Json} (h : sameCell a b) : a.kind = b.kind := by
  simp only [sameCell, Bool.and_eq_true, beq_iff_eq] at h
  exact kind_eq_of_compareCells h.2

/-- What counts as the same as a number is a number. -/
theorem number_of_sameCell {n : Number} {cell : Json} (h : sameCell (.number n) cell) :
    ∃ k, cell = .number k :=
  number_of_kind (kind_eq_of_sameCell h).symm

/-- What counts as the same as a truth value is one. -/
theorem bool_of_sameCell {b : Bool} {cell : Json} (h : sameCell (.bool b) cell) :
    ∃ c, cell = .bool c :=
  bool_of_kind (kind_eq_of_sameCell h).symm

/-- What counts as the same as a text is a text. -/
theorem string_of_sameCell {s : String} {cell : Json} (h : sameCell (.string s) cell) :
    ∃ t, cell = .string t :=
  string_of_kind (kind_eq_of_sameCell h).symm

/-- What counts as the same as the text of a tenant is that text. -/
theorem eq_of_sameCell_tenant {tenant : TenantId} {cell : Json}
    (h : sameCell (.string tenant.text) cell) : cell = .string tenant.text := by
  obtain ⟨t, rfl⟩ := string_of_sameCell h
  have hInstant : Rfc3339.ofText? tenant.text = none := tenant.uuid.ofText?_text_instant
  simp only [sameCell, isNull, compareCells, compareStrings, hInstant, Bool.not_false,
    Bool.true_and, beq_iff_eq, Std.compare_eq_iff_eq] at h
  rw [h]

/-! ## Two texts of one point in time -/

/-- Texts of the same point in time, which may differ as texts. -/
def SameInstant (a b : Json) : Prop :=
  ∃ s t x, a = .string s ∧ b = .string t ∧ Rfc3339.ofText? s = some x ∧ Rfc3339.ofText? t = some x

theorem compareStrings_eq_iff {s t : String} :
    compareStrings s t = .eq ↔ s = t ∨ SameInstant (.string s) (.string t) := by
  unfold compareStrings
  constructor
  · intro h
    split at h
    · rename_i x y hx hy
      cases Instant.compare_eq_iff.mp h
      exact .inr ⟨s, t, x, rfl, rfl, hx, hy⟩
    · exact .inl (Std.compare_eq_iff_eq.mp h)
  · rintro (rfl | ⟨_, _, x, ⟨⟩, ⟨⟩, hs, ht⟩)
    · exact compareCells_self (.string s)
    · rw [hs, ht]
      exact Instant.compare_eq_iff.mpr rfl

theorem sameCell_string_iff {s t : String} :
    sameCell (.string s) (.string t) ↔ s = t ∨ SameInstant (.string s) (.string t) := by
  rw [← compareStrings_eq_iff]
  simp [sameCell, isNull, compareCells]

/-! ## Numbers -/

/-- Numbers that compare equal are equal as floats. -/
theorem rank_eq_of_compareNumbers {n k : Number} (h : compareNumbers n k = .eq) :
    n.toDouble.rank = k.toDouble.rank := by
  have hDoubles : (n.toDouble.compare? k.toDouble).getD .eq = .eq →
      n.toDouble.rank = k.toDouble.rank := by
    simp [Double.compare?, n.toDouble_isNaN, k.toDouble_isNaN]
  unfold compareNumbers at h
  split at h
  · rename_i i j hi hj
    rw [Number.toDouble_of_asInt64? hi, Number.toDouble_of_asInt64? hj,
      Std.compare_eq_iff_eq.mp h]
  · exact hDoubles h

theorem compareNumbers_eq_of_rank {n k : Number} (hRank : n.toDouble.rank = k.toDouble.rank)
    (hIntegers : ∀ i j, n.asInt64? = some i → k.asInt64? = some j → i.toInt = j.toInt) :
    compareNumbers n k = .eq := by
  unfold compareNumbers
  split
  · rename_i i j hi hj
    exact Std.compare_eq_iff_eq.mpr (hIntegers i j hi hj)
  · simp [Double.compare?, n.toDouble_isNaN, k.toDouble_isNaN, hRank]

end Json

namespace Value

theorem matchesCell_number_iff {n k : Json.Number} :
    (ofJson (.number n)).matchesCell (.number k) ↔ Json.compareNumbers n k = .eq := by
  rw [matchesCell, compareCell?_number, ← Json.compareNumbers_swap n k]
  cases Json.compareNumbers n k <;> decide

/-- **Where the two equalities agree.** A scalar other than `null` is taken for the same as a cell
by a unique key exactly if its value equals the cell or both are texts of one point in time. -/
theorem sameCell_iff {key cell : Json} (hScalar : key.isScalar) (hNull : key ≠ .null) :
    Json.sameCell key cell ↔ (ofJson key).matchesCell cell ∨ key.SameInstant cell := by
  constructor
  · intro h
    cases key with
    | null => exact absurd rfl hNull
    | array items => cases hScalar
    | object fields => cases hScalar
    | bool b =>
      obtain ⟨c, rfl⟩ := Json.bool_of_sameCell h
      left
      cases b <;> cases c <;> first | rfl | cases h
    | number n =>
      obtain ⟨k, rfl⟩ := Json.number_of_sameCell h
      refine .inl (matchesCell_number_iff.mpr ?_)
      simpa [Json.sameCell, Json.isNull, Json.compareCells] using h
    | string s =>
      obtain ⟨t, rfl⟩ := Json.string_of_sameCell h
      rcases Json.sameCell_string_iff.mp h with rfl | hInstant
      · exact .inl (ofJson_matchesCell rfl hNull)
      · exact .inr hInstant
  · rintro (hMatches | ⟨s, t, x, rfl, rfl, hs, ht⟩)
    · rw [Json.sameCell_comm]
      exact sameCell_of_matchesCell hScalar hMatches
    · exact Json.sameCell_string_iff.mpr (.inr ⟨s, t, x, rfl, rfl, hs, ht⟩)

end Value

namespace Json

/-- Not a number that is compared as a float. -/
def isExact : Json → Bool
  | .number n => n.asInt64?.isSome
  | _ => true

/-- What equals the value of an exact scalar is taken for the same as all that the scalar itself is
taken for. Two integers may be equal to one float and not to each other. -/
theorem sameCell_of_matches {key a b : Json} (hScalar : key.isScalar) (hExact : key.isExact)
    (ha : (Value.ofJson key).matchesCell a) (hb : sameCell key b) : sameCell a b := by
  have hSame := Value.sameCell_of_matchesCell hScalar ha
  rw [sameCell_comm] at hSame
  cases key with
  | null => simp [sameCell, isNull] at hb
  | array items => cases hScalar
  | object fields => cases hScalar
  | bool p =>
    obtain ⟨q, rfl⟩ := bool_of_sameCell hSame
    have hEq : p = q := by
      cases p <;> cases q <;> first | rfl | cases hSame
    rwa [← hEq]
  | string s =>
    obtain ⟨t, rfl⟩ := string_of_sameCell hSame
    have hEq : t = s := by
      simpa [Value.ofJson, Value.matchesCell, Value.compareCell?] using ha
    rwa [hEq]
  | number n =>
    obtain ⟨k, rfl⟩ := number_of_sameCell hSame
    obtain ⟨l, rfl⟩ := number_of_sameCell hb
    have hFirst := Value.matchesCell_number_iff.mp ha
    have hSecond : compareNumbers n l = .eq := by
      simpa [sameCell, isNull, compareCells] using hb
    have hNumbers : compareNumbers k l = .eq := by
      refine compareNumbers_eq_of_rank ((rank_eq_of_compareNumbers hFirst).symm.trans
        (rank_eq_of_compareNumbers hSecond)) fun i j hi hj => ?_
      obtain ⟨value, hValue⟩ := Option.isSome_iff_exists.mp hExact
      have hLeft : value.toInt = i.toInt := by simpa [compareNumbers, hValue, hi] using hFirst
      have hRight : value.toInt = j.toInt := by simpa [compareNumbers, hValue, hj] using hSecond
      rw [← hLeft, hRight]
    simp [sameCell, isNull, compareCells, hNumbers]

end Json

end Tenancy
