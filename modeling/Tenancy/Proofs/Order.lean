import Tenancy.Sorting
import Tenancy.Value.Compare

/-!
# The order of cells, and sorted lists

Comparing two cells the other way round gives the opposite answer (`Json.compareCells_swap`).
Comparison is not transitive on all cells: of two instants and another text each may come before the
next, and two integers that differ may both equal one float. Where it is transitive on the members
of a list, `stableSort` puts them in order, equal ones as they stood (`stableSort_stable`). A list
in strict order is what sorting gives for all its permutations (`stableSort_eq_of_perm`).
-/

namespace Tenancy

/-! ## Comparison the other way round -/

theorem compare_swap {α : Type} [Ord α] [Std.OrientedOrd α] (a b : α) :
    (compare a b).swap = compare b a :=
  Std.OrientedCmp.eq_swap.symm

theorem Instant.compare_swap (a b : Instant) : (a.compare b).swap = b.compare a := by
  rw [Instant.compare, Instant.compare, Ordering.swap_then, Tenancy.compare_swap,
    Tenancy.compare_swap]

theorem Double.compare?_swap (x y : Double) :
    (x.compare? y).map Ordering.swap = y.compare? x := by
  unfold Double.compare?
  rw [Bool.or_comm]
  split
  · rfl
  · rw [Option.map_some, Tenancy.compare_swap]

namespace Json

theorem compareNumbers_swap (a b : Number) : (compareNumbers a b).swap = compareNumbers b a := by
  have hDoubles : ((a.toDouble.compare? b.toDouble).getD .eq).swap =
      (b.toDouble.compare? a.toDouble).getD .eq := by
    rw [← Double.compare?_swap a.toDouble]
    cases a.toDouble.compare? b.toDouble <;> rfl
  unfold compareNumbers
  cases a.asInt64? with
  | none => cases b.asInt64? <;> exact hDoubles
  | some i =>
    cases b.asInt64? with
    | none => exact hDoubles
    | some j => exact compare_swap i.toInt j.toInt

theorem compareStrings_swap (a b : String) : (compareStrings a b).swap = compareStrings b a := by
  unfold compareStrings
  cases Rfc3339.ofText? a with
  | none => cases Rfc3339.ofText? b <;> exact compare_swap a b
  | some s =>
    cases Rfc3339.ofText? b with
    | none => exact compare_swap a b
    | some t => exact s.compare_swap t

theorem compareCells_swap (a b : Json) : (compareCells a b).swap = compareCells b a := by
  cases a with
  | null => cases b <;> rfl
  | bool p => cases b with
    | null => rfl
    | bool q => exact compare_swap p.toNat q.toNat
    | _ => exact compare_swap _ _
  | number p => cases b with
    | null => rfl
    | number q => exact compareNumbers_swap p q
    | _ => exact compare_swap _ _
  | string p => cases b with
    | null => rfl
    | string q => exact compareStrings_swap p q
    | _ => exact compare_swap _ _
  | array p => cases b with
    | null => rfl
    | _ => exact compare_swap _ _
  | object p => cases b with
    | null => rfl
    | _ => exact compare_swap _ _

theorem compareCells_self (a : Json) : compareCells a a = .eq := by
  have hSwap := compareCells_swap a a
  revert hSwap
  cases compareCells a a <;> decide

theorem sameCell_self {a : Json} (h : a ≠ .null) : sameCell a a := by
  have hNull : a.isNull = false := by
    cases a <;> first | rfl | exact absurd rfl h
  simp [sameCell, hNull, compareCells_self]

theorem sameCell_comm (a b : Json) : sameCell a b = sameCell b a := by
  unfold sameCell
  rw [← compareCells_swap b a, Bool.and_comm (!a.isNull)]
  cases compareCells b a <;> rfl

theorem ne_null_of_sameCell {a b : Json} (h : sameCell a b) : b ≠ .null := by
  rintro rfl
  simp [sameCell, isNull] at h

/-- Among these cells the order is transitive, and so a total preorder. -/
def TransOn (cells : List Json) : Prop :=
  ∀ a ∈ cells, ∀ b ∈ cells, ∀ c ∈ cells,
    (compareCells a b).isLE → (compareCells b c).isLE → (compareCells a c).isLE

instance (cells : List Json) : Decidable (TransOn cells) :=
  inferInstanceAs (Decidable (∀ a ∈ cells, ∀ b ∈ cells, ∀ c ∈ cells,
    (compareCells a b).isLE → (compareCells b c).isLE → (compareCells a c).isLE))

end Json

/-! ## The value of a cell -/

theorem Double.compare?_self {x : Double} (h : x.isNaN = false) : x.compare? x = some .eq := by
  simp [Double.compare?, h]

theorem Double.ofInt_isNaN (i : Int) : (Double.ofInt i).isNaN = false := by
  have hMagnitude : (Double.ofInt i).magnitude ≤ infinityBits := by
    unfold Double.ofInt Double.ofRatio
    split
    · exact Nat.zero_le _
    · exact Nat.min_le_left _ _
  rw [Double.isNaN, decide_eq_false_iff_not]
  omega

namespace Json

/-- Neither an array nor an object. -/
def isScalar : Json → Bool
  | .array _ | .object _ => false
  | _ => true

theorem Number.toDouble_isNaN (n : Number) : n.toDouble.isNaN = false := by
  cases n with
  | integer i least greatest => exact Double.ofInt_isNaN i
  | float x hFinite =>
    have hMagnitude : x.magnitude < Double.infinityBits := of_decide_eq_true hFinite
    have hNotAbove : ¬ Double.infinityBits < x.magnitude := by omega
    exact decide_eq_false hNotAbove

theorem Number.toDouble_of_asInt64? {n : Number} {i : Int64} (h : n.asInt64? = some i) :
    n.toDouble = Double.ofInt i.toInt := by
  cases n with
  | float x hFinite => cases h
  | integer value least greatest =>
    change (if value < 2 ^ 63 then some (Int64.ofInt value) else none) = some i at h
    split at h
    · rename_i hLt
      cases Option.some.inj h
      have hValue : (Int64.ofInt value).toInt = value := Int64.toInt_ofInt_of_le least hLt
      rw [hValue]
      rfl
    · cases h

end Json

namespace Value

/-- A number compares with the value of another one as the two numbers do. -/
theorem compareCell?_number (n k : Json.Number) :
    (ofJson (.number n)).compareCell? (.number k) = some (Json.compareNumbers k n) := by
  have hDoubles : k.toDouble.compare? n.toDouble =
      some ((k.toDouble.compare? n.toDouble).getD .eq) := by
    simp [Double.compare?, n.toDouble_isNaN, k.toDouble_isNaN]
  cases hn : n.asInt64? with
  | none => cases hk : k.asInt64? <;> simpa [ofJson, hn, compareCell?, Json.compareNumbers, hk]
  | some i =>
    cases hk : k.asInt64? with
    | none =>
      rw [Json.Number.toDouble_of_asInt64? hn] at hDoubles
      simpa [ofJson, hn, compareCell?, Json.compareNumbers, hk, Json.Number.toDouble_of_asInt64? hn]
    | some c => simp [ofJson, hn, compareCell?, Json.compareNumbers, hk]

/-- A cell other than `null` equals its own value. -/
theorem ofJson_matchesCell {cell : Json} (hScalar : cell.isScalar) (hNull : cell ≠ .null) :
    (ofJson cell).matchesCell cell := by
  rw [matchesCell, beq_iff_eq]
  cases cell with
  | null => exact absurd rfl hNull
  | bool b => simp [ofJson, compareCell?]
  | string s => simp [ofJson, compareCell?]
  | array items => cases hScalar
  | object fields => cases hScalar
  | number n =>
    rw [compareCell?_number]
    exact congrArg some (Json.compareCells_self (.number n))

/-- A cell that equals the value of another one counts as the same as that. -/
theorem sameCell_of_matchesCell {cell other : Json} (hScalar : cell.isScalar)
    (h : (ofJson cell).matchesCell other) : Json.sameCell other cell := by
  rw [matchesCell, beq_iff_eq] at h
  cases cell with
  | null => cases other <;> cases h
  | array items => cases hScalar
  | object fields => cases hScalar
  | bool b =>
    cases other with
    | bool c => simpa [ofJson, compareCell?, Json.sameCell, Json.isNull, Json.compareCells] using h
    | _ => cases h
  | string s =>
    cases other with
    | string t =>
      have hText : t = s := by simpa [ofJson, compareCell?] using h
      subst hText
      exact Json.sameCell_self nofun
    | _ => cases h
  | number n =>
    cases other with
    | number k =>
      rw [compareCell?_number] at h
      have hSame : Json.compareNumbers k n = .eq := Option.some.inj h
      simp [Json.sameCell, Json.isNull, Json.compareCells, hSame]
    | _ =>
      cases hInt : n.asInt64? with
      | some i => simp [ofJson, hInt, compareCell?] at h
      | none => simp [ofJson, hInt, compareCell?] at h

end Value

/-! ## Sorted lists -/

section Sorting

variable {α : Type} {cmp : α → α → Ordering} {earlier : α → α → Prop} {xs : List α}

theorem isLE_of_swap (hSwap : ∀ a b, (cmp a b).swap = cmp b a) {a b : α} (h : cmp a b ≠ .lt) :
    (cmp b a).isLE := by
  rw [← hSwap a b]
  revert h
  cases cmp a b <;> decide

theorem not_lt_of_swap (hSwap : ∀ a b, (cmp a b).swap = cmp b a) {a b : α} (h : (cmp b a).isLE) :
    cmp a b ≠ .lt := by
  rw [← hSwap a b] at h
  revert h
  cases cmp a b <;> decide

/-- Among these members the comparison is transitive. -/
def TransAmong (cmp : α → α → Ordering) (xs : List α) : Prop :=
  ∀ a ∈ xs, ∀ b ∈ xs, ∀ c ∈ xs, (cmp a b).isLE → (cmp b c).isLE → (cmp a c).isLE

theorem TransAmong.subset {ys : List α} (h : TransAmong cmp xs) (hSub : ∀ a ∈ ys, a ∈ xs) :
    TransAmong cmp ys :=
  fun a ha b hb c hc => h a (hSub a ha) b (hSub b hb) c (hSub c hc)

theorem TransAmong.of_map {β : Type} {order : β → β → Ordering} {g : α → β}
    (h : TransAmong order (xs.map g)) : TransAmong (fun a b => order (g a) (g b)) xs :=
  fun _ ha _ hb _ hc =>
    h _ (List.mem_map_of_mem ha) _ (List.mem_map_of_mem hb) _ (List.mem_map_of_mem hc)

/-- Of two comparisons, one after the other, each has to be transitive. -/
theorem TransAmong.compareThen {next : α → α → Ordering}
    (hSwap : ∀ a b, (cmp a b).swap = cmp b a) (h : TransAmong cmp xs) (hNext : TransAmong next xs) :
    TransAmong (fun a b => (cmp a b).then (next a b)) xs := by
  intro a ha b hb c hc hab hbc
  rw [Ordering.isLE_then_iff_and] at hab hbc ⊢
  obtain ⟨hab, hab'⟩ := hab
  obtain ⟨hbc, hbc'⟩ := hbc
  have hac := h a ha b hb c hc hab hbc
  refine ⟨hac, ?_⟩
  rcases Ordering.isLE_iff_eq_lt_or_eq_eq.mp hac with hLt | hEq
  · exact .inl hLt
  · -- The ends are equal, so neither of the steps between was strict.
    have hca : (cmp c a).isLE := by
      rw [← hSwap, hEq]
      rfl
    have hba := h b hb c hc a ha hbc hca
    have hcb := h c hc a ha b hb hca hab
    exact .inr (hNext a ha b hb c hc (hab'.resolve_left (not_lt_of_swap hSwap hba))
      (hbc'.resolve_left (not_lt_of_swap hSwap hcb)))

/-- A member comes before another one: it is less, or neither is less and it was the earlier. -/
def ComesBefore (cmp : α → α → Ordering) (earlier : α → α → Prop) (a b : α) : Prop :=
  cmp a b = .lt ∨ cmp a b = .eq ∧ earlier a b

theorem comesBefore_of_isLE {a b : α} (hEarlier : earlier a b) (h : (cmp a b).isLE) :
    ComesBefore cmp earlier a b :=
  (Ordering.isLE_iff_eq_lt_or_eq_eq.mp h).imp_right fun hEq => ⟨hEq, hEarlier⟩

theorem ComesBefore.isLE {a b : α} (h : ComesBefore cmp earlier a b) : (cmp a b).isLE :=
  Ordering.isLE_iff_eq_lt_or_eq_eq.mpr (h.imp_right And.left)

/-- A member that all others were earlier than goes in behind its equals. -/
theorem insertDescending_stable (hSwap : ∀ a b, (cmp a b).swap = cmp b a) {x : α} {ys : List α}
    (hTrans : TransAmong cmp (x :: ys)) (hEarlier : ∀ y ∈ ys, earlier y x)
    (h : ys.Pairwise fun a b => ComesBefore cmp earlier b a) :
    (insertDescending cmp x ys).Pairwise fun a b => ComesBefore cmp earlier b a := by
  induction ys with
  | nil => exact List.pairwise_singleton _ _
  | cons y ys ih =>
    obtain ⟨hy, hys⟩ := List.pairwise_cons.mp h
    have hTail : ∀ a ∈ x :: ys, a ∈ x :: y :: ys := by
      intro a ha
      rcases List.mem_cons.mp ha with rfl | ha
      · exact List.mem_cons_self
      · exact List.mem_cons_of_mem _ (List.mem_cons_of_mem _ ha)
    unfold insertDescending
    split
    · rename_i hBefore
      refine List.pairwise_cons.mpr ⟨fun z hz => ?_, ih (hTrans.subset hTail)
        (fun z hz => hEarlier z (List.mem_cons_of_mem _ hz)) hys⟩
      rcases List.mem_cons.mp ((insertDescending_perm cmp x ys).mem_iff.mp hz) with rfl | hz
      · exact .inl hBefore
      · exact hy z hz
    · rename_i hNotBefore
      have hFirst := isLE_of_swap hSwap hNotBefore
      refine List.pairwise_cons.mpr ⟨fun z hz => comesBefore_of_isLE (hEarlier z hz) ?_, h⟩
      rcases List.mem_cons.mp hz with rfl | hMem
      · exact hFirst
      · exact hTrans z (List.mem_cons_of_mem _ hz) y (by simp) x (by simp) (hy z hMem).isLE hFirst

/-- Where the order is transitive, the sorted list is in order, and members that are equal in it
stand as they did before. -/
theorem stableSort_stable (hSwap : ∀ a b, (cmp a b).swap = cmp b a) (hTrans : TransAmong cmp xs)
    (hEarlier : xs.Pairwise earlier) :
    (stableSort cmp xs).Pairwise (ComesBefore cmp earlier) := by
  -- Members are collected in descending order, which is turned round at the end.
  suffices hAll : ∀ sorted : List α, TransAmong cmp (sorted ++ xs) →
      (∀ y ∈ sorted, ∀ x ∈ xs, earlier y x) →
      (sorted.Pairwise fun a b => ComesBefore cmp earlier b a) →
      (xs.foldl (fun sorted x => insertDescending cmp x sorted) sorted).Pairwise
        fun a b => ComesBefore cmp earlier b a by
    exact List.pairwise_reverse.mpr (hAll [] hTrans (fun _ hy => absurd hy List.not_mem_nil) .nil)
  clear hTrans
  induction xs with
  | nil => exact fun _ _ _ h => h
  | cons x xs ih =>
    intro sorted hTrans hSorted h
    obtain ⟨hx, hxs⟩ := List.pairwise_cons.mp hEarlier
    have hPerm : (insertDescending cmp x sorted ++ xs).Perm (sorted ++ x :: xs) :=
      ((insertDescending_perm cmp x sorted).append_right xs).trans List.perm_middle.symm
    have hInsert : ∀ a ∈ x :: sorted, a ∈ sorted ++ x :: xs := by
      intro a ha
      rcases List.mem_cons.mp ha with rfl | ha
      · simp
      · exact List.mem_append_left _ ha
    rw [List.foldl_cons]
    refine ih hxs _ (hTrans.subset fun a ha => hPerm.mem_iff.mp ha) ?_
      (insertDescending_stable hSwap (hTrans.subset hInsert)
        (fun y hy => hSorted y hy x List.mem_cons_self) h)
    intro y hy z hz
    rcases List.mem_cons.mp ((insertDescending_perm cmp x sorted).mem_iff.mp hy) with rfl | hy
    · exact hx z hz
    · exact hSorted y hy z (List.mem_cons_of_mem _ hz)

/-- Where the order is transitive, the sorted list is in order. -/
theorem stableSort_sorted (hSwap : ∀ a b, (cmp a b).swap = cmp b a) (hTrans : TransAmong cmp xs) :
    (stableSort cmp xs).Pairwise fun a b => (cmp a b).isLE := by
  have hStable : (stableSort cmp xs).Pairwise (ComesBefore cmp fun _ _ => True) :=
    stableSort_stable hSwap hTrans (List.pairwise_of_forall fun _ _ => trivial)
  exact hStable.imp ComesBefore.isLE

/-- Members of a list in strict order compare as their places do. -/
theorem cmp_getElem_of_strict (hSwap : ∀ a b, (cmp a b).swap = cmp b a)
    (h : xs.Pairwise (cmp · · = .lt)) {i j : Nat} (hi : i < xs.length) (hj : j < xs.length) :
    cmp xs[i] xs[j] = compare i j := by
  have hStrict := List.pairwise_iff_getElem.mp h
  rcases Nat.lt_trichotomy i j with hLt | rfl | hLt
  · rw [hStrict i j hi hj hLt, Nat.compare_eq_lt.mpr hLt]
  · have hSelf := hSwap xs[i] xs[i]
    rw [Nat.compare_eq_eq.mpr rfl]
    revert hSelf
    cases cmp xs[i] xs[i] <;> decide
  · rw [← hSwap, hStrict j i hj hi hLt, Nat.compare_eq_gt.mpr hLt]
    rfl

/-- Sorting gives the one list in strict order that has these members. -/
theorem stableSort_eq_of_perm (hSwap : ∀ a b, (cmp a b).swap = cmp b a) {ys : List α}
    (h : ys.Pairwise (cmp · · = .lt)) (hPerm : xs.Perm ys) : stableSort cmp xs = ys := by
  have hPlaces : ∀ a ∈ xs, ∃ (i : Nat) (hi : i < ys.length), a = ys[i] := by
    intro a ha
    obtain ⟨i, hi, hEq⟩ := List.getElem_of_mem (hPerm.mem_iff.mp ha)
    exact ⟨i, hi, hEq.symm⟩
  have hSorted : (stableSort cmp xs).Pairwise fun a b => (cmp a b).isLE := by
    refine stableSort_sorted hSwap fun a ha b hb c hc hab hbc => ?_
    obtain ⟨i, hi, rfl⟩ := hPlaces a ha
    obtain ⟨j, hj, rfl⟩ := hPlaces b hb
    obtain ⟨k, hk, rfl⟩ := hPlaces c hc
    rw [cmp_getElem_of_strict hSwap h hi hj, Nat.isLE_compare] at hab
    rw [cmp_getElem_of_strict hSwap h hj hk, Nat.isLE_compare] at hbc
    rw [cmp_getElem_of_strict hSwap h hi hk, Nat.isLE_compare]
    exact Nat.le_trans hab hbc
  have hSame := (stableSort_perm cmp xs).trans hPerm
  refine hSame.eq_of_pairwise ?_ hSorted (h.imp fun hLt => by rw [hLt]; rfl)
  intro a b ha hb hab hba
  obtain ⟨i, hi, rfl⟩ := hPlaces a ((stableSort_perm cmp xs).mem_iff.mp ha)
  obtain ⟨j, hj, rfl⟩ := hPlaces b (hPerm.mem_iff.mpr hb)
  rw [cmp_getElem_of_strict hSwap h hi hj, Nat.isLE_compare] at hab
  rw [cmp_getElem_of_strict hSwap h hj hi, Nat.isLE_compare] at hba
  simp only [Nat.le_antisymm hab hba]

variable {β : Type} {g : α → β} {order : β → β → Ordering}

theorem insertDescending_map (h : ∀ a b, order (g a) (g b) = cmp a b) (x : α) (ys : List α) :
    insertDescending order (g x) (ys.map g) = (insertDescending cmp x ys).map g := by
  induction ys with
  | nil => rfl
  | cons y ys ih =>
    rw [List.map_cons, insertDescending, insertDescending, h, ih]
    split <;> rfl

/-- Sorting comes to the same before and after a map that keeps the order. -/
theorem stableSort_map (h : ∀ a b, order (g a) (g b) = cmp a b) (xs : List α) :
    stableSort order (xs.map g) = (stableSort cmp xs).map g := by
  suffices hAll : ∀ sorted : List α,
      (xs.map g).foldl (fun sorted y => insertDescending order y sorted) (sorted.map g) =
        (xs.foldl (fun sorted x => insertDescending cmp x sorted) sorted).map g by
    rw [stableSort, stableSort, List.map_reverse]
    exact congrArg List.reverse (hAll [])
  induction xs with
  | nil => exact fun _ => rfl
  | cons x xs ih =>
    intro sorted
    rw [List.map_cons, List.foldl_cons, List.foldl_cons, insertDescending_map h, ih]

end Sorting

end Tenancy
