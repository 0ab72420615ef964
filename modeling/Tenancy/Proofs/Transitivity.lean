import Tenancy.Proofs.Equality
import Tenancy.Proofs.Number.Rounding

/-!
# Where the order of cells is transitive

Comparison of cells is a total preorder up to two exceptions. A number that is no 64-bit integer is
compared as a float and may equal two integers that differ. A text that names no instant is compared
as a text and may stand between two instants whose order in time is the other one.
`Json.transOn_iff` shows that nothing else fails: cells of different kinds stand in the order of the
kinds, rounding keeps the order of integers (`Double.rank_ofInt_mono`), and so on three cells of one
kind only a mixture of the two ways to compare can go round in a circle.
-/

namespace Tenancy

theorem Instant.compare_isLE_trans {a b c : Instant} (hab : (a.compare b).isLE)
    (hbc : (b.compare c).isLE) : (a.compare c).isLE := by
  have hTrans : Std.TransCmp (compareLex (compareOn Instant.second) (compareOn Instant.nano)) :=
    inferInstance
  exact hTrans.isLE_trans hab hbc

namespace Json

variable {cells : List Json}

/-! ## Numbers -/

theorem compareNumbers_isLE_iff {n k : Number} : (compareNumbers n k).isLE ↔
    n.toDouble.rank ≤ k.toDouble.rank ∧
      ∀ i j, n.asInt64? = some i → k.asInt64? = some j → i.toInt ≤ j.toInt := by
  have hDoubles : ((n.toDouble.compare? k.toDouble).getD .eq).isLE ↔
      n.toDouble.rank ≤ k.toDouble.rank := by
    simp [Double.compare?, n.toDouble_isNaN, k.toDouble_isNaN, Int.isLE_compare]
  unfold compareNumbers
  cases hn : n.asInt64? with
  | none => simpa using hDoubles
  | some i =>
    cases hk : k.asInt64? with
    | none => simpa using hDoubles
    | some j =>
      rw [Number.toDouble_of_asInt64? hn, Number.toDouble_of_asInt64? hk]
      simpa [Int.isLE_compare] using Double.rank_ofInt_mono

/-- Two integers that equal the same number are equal, also if that number is no 64-bit integer. -/
def IntegersApart (cells : List Json) : Prop :=
  ∀ n k l i j, .number n ∈ cells → .number k ∈ cells → .number l ∈ cells →
    n.asInt64? = some i → k.asInt64? = none → l.asInt64? = some j →
      compareNumbers n k = .eq → compareNumbers k l = .eq → i = j

theorem compareNumbers_isLE_trans (h : IntegersApart cells) {n k l : Number}
    (hn : .number n ∈ cells) (hk : .number k ∈ cells) (hl : .number l ∈ cells)
    (hnk : (compareNumbers n k).isLE) (hkl : (compareNumbers k l).isLE) :
    (compareNumbers n l).isLE := by
  rw [compareNumbers_isLE_iff] at hnk hkl ⊢
  refine ⟨Int.le_trans hnk.1 hkl.1, fun i j hi hj => ?_⟩
  cases hMiddle : k.asInt64? with
  | some v => exact Int.le_trans (hnk.2 i v hi hMiddle) (hkl.2 v j hMiddle hj)
  | none =>
    refine Int.not_lt.mp fun hLt => ?_
    -- Integers out of order are still in order as floats, so here all three floats are equal.
    have hBack : l.toDouble.rank ≤ n.toDouble.rank := by
      rw [Number.toDouble_of_asInt64? hi, Number.toDouble_of_asInt64? hj]
      exact Double.rank_ofInt_mono (Int.le_of_lt hLt)
    have hLeft : compareNumbers n k = .eq :=
      compareNumbers_eq_of_rank (by omega) fun _ _ _ hSome => by simp [hMiddle] at hSome
    have hRight : compareNumbers k l = .eq :=
      compareNumbers_eq_of_rank (by omega) fun _ _ hSome _ => by simp [hMiddle] at hSome
    rw [h n k l i j hn hk hl hi hMiddle hj hLeft hRight] at hLt
    exact Int.lt_irrefl _ hLt

/-! ## Texts -/

theorem lt_of_isLE_of_ne {s t : String} (h : (compare s t).isLE) (hNe : s ≠ t) : s < t := by
  rcases Ordering.isLE_iff_eq_lt_or_eq_eq.mp h with hLt | hEq
  · exact compareOfLessAndEq_eq_lt.mp hLt
  · exact absurd (Std.compare_eq_iff_eq.mp hEq) hNe

theorem lt_of_not_isLE {s t : String} (h : ¬(compare s t).isLE) : t < s := by
  refine compareOfLessAndEq_eq_lt.mp ?_
  change compare t s = .lt
  rw [← compare_swap]
  revert h
  cases compare s t <;> decide

theorem compare_of_lt {s t : String} (h : s < t) : compare s t = .lt :=
  compareOfLessAndEq_eq_lt.mpr h

theorem compareStrings_of_some {s t : String} {x y : Instant} (hs : Rfc3339.ofText? s = some x)
    (ht : Rfc3339.ofText? t = some y) : compareStrings s t = x.compare y := by
  simp only [compareStrings, hs, ht]

theorem compareStrings_of_none {s t : String}
    (h : Rfc3339.ofText? s = none ∨ Rfc3339.ofText? t = none) :
    compareStrings s t = compare s t := by
  unfold compareStrings
  rcases h with h | h
  · rw [h]
  · rw [h]
    cases Rfc3339.ofText? s <;> rfl

/-- Where a text that names no instant stands between the texts of two instants, these are in the
same order in time. -/
def InstantsApart (cells : List Json) : Prop :=
  ∀ s p t x y, .string s ∈ cells → .string p ∈ cells → .string t ∈ cells →
    Rfc3339.ofText? s = some x → Rfc3339.ofText? p = none → Rfc3339.ofText? t = some y →
      s < p → p < t → x.compare y = .lt

theorem compareStrings_isLE_trans (h : InstantsApart cells) {s p t : String}
    (hs : .string s ∈ cells) (hp : .string p ∈ cells) (ht : .string t ∈ cells)
    (hsp : (compareStrings s p).isLE) (hpt : (compareStrings p t).isLE) :
    (compareStrings s t).isLE := by
  have hNe : ∀ {a b x}, Rfc3339.ofText? a = some x → Rfc3339.ofText? b = none → a ≠ b := by
    rintro a b x ha hb rfl
    rw [ha] at hb
    cases hb
  have hNotLate : ∀ {x y : Instant}, (x.compare y).isLE → y.compare x ≠ .lt := by
    intro x y hLE hLt
    rw [← Instant.compare_swap, hLt] at hLE
    cases hLE
  cases hReadP : Rfc3339.ofText? p with
  | none =>
    -- Both steps compare texts.
    rw [compareStrings_of_none (.inr hReadP)] at hsp
    rw [compareStrings_of_none (.inl hReadP)] at hpt
    cases hReadS : Rfc3339.ofText? s with
    | none =>
      rw [compareStrings_of_none (.inl hReadS)]
      exact Std.TransCmp.isLE_trans hsp hpt
    | some x =>
      cases hReadT : Rfc3339.ofText? t with
      | none =>
        rw [compareStrings_of_none (.inr hReadT)]
        exact Std.TransCmp.isLE_trans hsp hpt
      | some z =>
        have hLeft := lt_of_isLE_of_ne hsp (hNe hReadS hReadP)
        have hRight := lt_of_isLE_of_ne hpt (hNe hReadT hReadP).symm
        rw [compareStrings_of_some hReadS hReadT,
          h s p t x z hs hp ht hReadS hReadP hReadT hLeft hRight]
        rfl
  | some y =>
    cases hReadS : Rfc3339.ofText? s with
    | none =>
      rw [compareStrings_of_none (.inl hReadS)] at hsp ⊢
      cases hReadT : Rfc3339.ofText? t with
      | none =>
        rw [compareStrings_of_none (.inr hReadT)] at hpt
        exact Std.TransCmp.isLE_trans hsp hpt
      | some z =>
        rw [compareStrings_of_some hReadP hReadT] at hpt
        refine Decidable.byContradiction fun hBehind => hNotLate hpt ?_
        exact h t s p z y ht hs hp hReadT hReadS hReadP (lt_of_not_isLE hBehind)
          (lt_of_isLE_of_ne hsp (hNe hReadP hReadS).symm)
    | some x =>
      rw [compareStrings_of_some hReadS hReadP] at hsp
      cases hReadT : Rfc3339.ofText? t with
      | none =>
        rw [compareStrings_of_none (.inr hReadT)] at hpt ⊢
        refine Decidable.byContradiction fun hBehind => hNotLate hsp ?_
        exact h p t s y x hp ht hs hReadP hReadT hReadS
          (lt_of_isLE_of_ne hpt (hNe hReadP hReadT)) (lt_of_not_isLE hBehind)
      | some z =>
        rw [compareStrings_of_some hReadP hReadT] at hpt
        rw [compareStrings_of_some hReadS hReadT]
        exact Instant.compare_isLE_trans hsp hpt

theorem compareStrings_eq_trans {s p t : String} (hsp : compareStrings s p = .eq)
    (hpt : compareStrings p t = .eq) : compareStrings s t = .eq := by
  rw [compareStrings_eq_iff] at hsp hpt ⊢
  rcases hsp with rfl | ⟨_, _, x, ⟨⟩, ⟨⟩, hs, hp⟩
  · exact hpt
  · rcases hpt with rfl | ⟨_, _, y, ⟨⟩, ⟨⟩, hp', ht⟩
    · exact .inr ⟨s, p, x, rfl, rfl, hs, hp⟩
    · cases hp.symm.trans hp'
      exact .inr ⟨s, t, x, rfl, rfl, hs, ht⟩

/-! ## All cells -/

theorem compareCells_eq_iff {a b : Json} :
    compareCells a b = .eq ↔ (compareCells a b).isLE ∧ (compareCells b a).isLE := by
  rw [← compareCells_swap a b]
  cases compareCells a b <;> decide

theorem compareCells_isLE_trans (hIntegers : IntegersApart cells) (hInstants : InstantsApart cells)
    {a b c : Json} (ha : a ∈ cells) (hb : b ∈ cells) (hc : c ∈ cells)
    (hab : (compareCells a b).isLE) (hbc : (compareCells b c).isLE) :
    (compareCells a c).isLE := by
  have hFromLeft := kind_le_of_isLE hab
  have hToRight := kind_le_of_isLE hbc
  by_cases hLt : a.kind < c.kind
  · rw [compareCells_of_kind_lt hLt]
    rfl
  · -- All three cells are of one kind.
    have hLeft : b.kind = a.kind := by omega
    have hRight : c.kind = a.kind := by omega
    rcases cases_of_kind hLeft hRight with
      ⟨s, p, t, rfl, rfl, rfl⟩ | ⟨n, k, l, rfl, rfl, rfl⟩ | ⟨hFirst, hSecond, hBoth⟩
    · exact compareStrings_isLE_trans hInstants ha hb hc hab hbc
    · exact compareNumbers_isLE_trans hIntegers ha hb hc hab hbc
    · rw [hFirst] at hab
      rw [hSecond] at hbc
      rw [hBoth]
      exact Std.TransCmp.isLE_trans hab hbc

theorem compareCells_eq_trans (hIntegers : IntegersApart cells) {a b c : Json} (ha : a ∈ cells)
    (hb : b ∈ cells) (hc : c ∈ cells) (hab : compareCells a b = .eq)
    (hbc : compareCells b c = .eq) : compareCells a c = .eq := by
  have hLeft := (kind_eq_of_compareCells hab).symm
  have hRight := (kind_eq_of_compareCells hbc).symm.trans hLeft
  rcases cases_of_kind hLeft hRight with
    ⟨s, p, t, rfl, rfl, rfl⟩ | ⟨n, k, l, rfl, rfl, rfl⟩ | ⟨hFirst, hSecond, hBoth⟩
  · exact compareStrings_eq_trans hab hbc
  · rw [compareCells_eq_iff] at hab hbc ⊢
    exact ⟨compareNumbers_isLE_trans hIntegers ha hb hc hab.1 hbc.1,
      compareNumbers_isLE_trans hIntegers hc hb ha hbc.2 hab.2⟩
  · rw [hFirst] at hab
    rw [hSecond] at hbc
    rw [hBoth]
    exact Std.TransCmp.eq_trans hab hbc

/-! ## What transitivity needs -/

theorem IntegersApart.of_eq_trans
    (h : ∀ a ∈ cells, ∀ b ∈ cells, ∀ c ∈ cells, compareCells a b = .eq → compareCells b c = .eq →
      compareCells a c = .eq) : IntegersApart cells := by
  intro n k l i j hn hk hl hi _ hj hnk hkl
  have hEq : compareNumbers n l = .eq := h _ hn _ hk _ hl hnk hkl
  unfold compareNumbers at hEq
  rw [hi, hj] at hEq
  exact Int64.toInt_inj.mp (Std.compare_eq_iff_eq.mp hEq)

theorem TransOn.eq_trans (h : TransOn cells) : ∀ a ∈ cells, ∀ b ∈ cells, ∀ c ∈ cells,
    compareCells a b = .eq → compareCells b c = .eq → compareCells a c = .eq := by
  intro a ha b hb c hc hab hbc
  rw [compareCells_eq_iff] at hab hbc ⊢
  exact ⟨h a ha b hb c hc hab.1 hbc.1, h c hc b hb a ha hbc.2 hab.2⟩

theorem TransOn.instantsApart (h : TransOn cells) : InstantsApart cells := by
  intro s p t x y hs hp ht hReadS hReadP hReadT hsp hpt
  -- If the later text names an instant that is not later, then it comes before the text between.
  refine Decidable.byContradiction fun hLate => ?_
  have hts : (compareCells (.string t) (.string s)).isLE := by
    change (compareStrings t s).isLE
    rw [compareStrings_of_some hReadT hReadS]
    exact isLE_of_swap Instant.compare_swap hLate
  have hMiddle : compareCells (.string s) (.string p) = .lt :=
    (compareStrings_of_none (.inr hReadP)).trans (compare_of_lt hsp)
  have hBack : (compareStrings t p).isLE :=
    h _ ht _ hs _ hp hts (by rw [hMiddle]; rfl)
  rw [compareStrings_of_none (.inr hReadP), ← compare_swap, compare_of_lt hpt] at hBack
  cases hBack

/-- The order of these cells is transitive if and only if no number that is compared as a float
equals two of the integers, and no text that is compared as a text stands between two instants in
disorder. -/
theorem transOn_iff : TransOn cells ↔ IntegersApart cells ∧ InstantsApart cells :=
  ⟨fun h => ⟨.of_eq_trans h.eq_trans, h.instantsApart⟩, fun ⟨hIntegers, hInstants⟩ _ ha _ hb _ hc =>
    compareCells_isLE_trans hIntegers hInstants ha hb hc⟩

/-- **How far comparison of cells is a total preorder.**
1. Comparing the other way round gives the opposite answer.
2. A cell equals itself.
3. `null` comes after every other cell.
4. On a list of cells the order is transitive if and only if no number that is compared as a float
equals two integers of the list that differ, and no text that names no instant stands between the
texts of two instants of the list that are not in that order in time.
5. Equality is transitive on the list if and only if the first of these conditions holds. -/
theorem compareCells_order (cells : List Json) :
    (∀ a b, compareCells b a = (compareCells a b).swap) ∧ (∀ a, compareCells a a = .eq) ∧
    (∀ a, compareCells .null a = if a.isNull then .eq else .gt) ∧
    (TransOn cells ↔ IntegersApart cells ∧ InstantsApart cells) ∧
    ((∀ a ∈ cells, ∀ b ∈ cells, ∀ c ∈ cells, compareCells a b = .eq → compareCells b c = .eq →
        compareCells a c = .eq) ↔ IntegersApart cells) := by
  refine ⟨fun a b => (compareCells_swap a b).symm, compareCells_self, fun a => ?_, transOn_iff,
    .of_eq_trans, fun h _ ha _ hb _ hc => compareCells_eq_trans h ha hb hc⟩
  cases a <;> rfl

/-- Numbers and texts of both sorts that are in order. -/
theorem mixed_cells_apart :
    let cells := [ofInt64 1, ofDouble (Double.ofRatio false 3 2), ofInt64 2,
      .string "2024-01-01T00:00:00Z", .string "2024-01-01T05:00:00+02:00", .string "soon", .null]
    TransOn cells ∧ IntegersApart cells ∧ InstantsApart cells := by
  intro cells
  have hOrdered : TransOn cells := by decide +kernel
  obtain ⟨-, -, -, hTransitive, -⟩ := compareCells_order cells
  exact ⟨hOrdered, hTransitive.mp hOrdered⟩

/-- Two integers that differ and equal one float, and two instants with another text between them
that go round in a circle. -/
theorem cells_in_circles :
    let least := ofInt64 9007199254740992
    let float := ofDouble (Double.ofInt 9007199254740992)
    let greatest := ofInt64 9007199254740993
    let later : Json := .string "2024-01-01T00:00:00-10:00"
    let other : Json := .string "2024-01-01T02 soon"
    let earlier : Json := .string "2024-01-01T05:00:00Z"
    (compareCells least float = .eq ∧ compareCells float greatest = .eq ∧
      compareCells least greatest = .lt) ∧
    compareCells later other = .lt ∧ compareCells other earlier = .lt ∧
      compareCells earlier later = .lt := by
  decide +kernel

end Json

end Tenancy
