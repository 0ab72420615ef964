import Mathlib.Data.List.Nodup
import Tenancy.Backend.Memory
import Tenancy.Proofs.Schema

/-!
# Places in a table

Updates and claims change the rows at some places of a table and leave the others where they are.
`placesOf` are the places of the rows that satisfy a predicate, and `changeAt` is the change of the
rows at some places by one function: a claim is one by definition (`claim_eq`), and so is an update
that succeeds (`updateAt_eq_ok`).
-/

namespace Tenancy.Memory

variable {p : Row → Bool} {rows rows' : List Row} {f : Row → Row} {places : List Nat}
  {table : Table} {tenant : TenantId}

/-! ## Rows put in place twice -/

theorem setRowsIn_setRowsIn (name : String) (rows rows' : List Row)
    (tables : List (String × List Row)) :
    setRowsIn name rows' (setRowsIn name rows tables) = setRowsIn name rows' tables := by
  induction tables with
  | nil => simp [setRowsIn]
  | cons entry rest ih =>
    obtain ⟨other, old⟩ := entry
    by_cases hName : other = name
    · simp [setRowsIn, hName]
    · simp [setRowsIn, hName, ih]

theorem setRows_setRows (m : Memory) (name : String) (rows rows' : List Row) :
    (m.setRows name rows).setRows name rows' = m.setRows name rows' := by
  simp only [setRows, setRowsIn_setRowsIn]

/-! ## The places of some rows -/

theorem getD_of_getElem? {row : Row} {i : Nat} (h : rows[i]? = some row) :
    rows.getD i .empty = row := by
  rw [List.getD_eq_getElem?_getD, h, Option.getD_some]

theorem mem_placesOf {i : Nat} : i ∈ placesOf p rows ↔ ∃ row, rows[i]? = some row ∧ p row := by
  rw [placesOf, List.mem_filter, List.mem_range]
  constructor
  · rintro ⟨hLength, hRow⟩
    have hSome := List.getElem?_eq_getElem hLength
    rw [getD_of_getElem? hSome] at hRow
    exact ⟨_, hSome, hRow⟩
  · rintro ⟨row, hSome, hRow⟩
    obtain ⟨hLength, -⟩ := List.getElem?_eq_some_iff.mp hSome
    refine ⟨hLength, ?_⟩
    rw [getD_of_getElem? hSome]
    exact hRow

theorem lt_of_mem_placesOf {i : Nat} (h : i ∈ placesOf p rows) : i < rows.length := by
  obtain ⟨row, hRow, -⟩ := mem_placesOf.mp h
  exact (List.getElem?_eq_some_iff.mp hRow).1

theorem placesOf_nodup (p : Row → Bool) (rows : List Row) : (placesOf p rows).Nodup :=
  List.nodup_range.filter _

/-- The rows at these places, in the order of the table. -/
theorem map_placesOf (p : Row → Bool) (rows : List Row) :
    (placesOf p rows).map (fun i => rows.getD i .empty) = rows.filter p := by
  have hRows : (List.range rows.length).map (fun i => rows.getD i .empty) = rows := by
    apply List.ext_getElem?
    intro i
    by_cases hLength : i < rows.length
    · simp [hLength]
    · simp [Nat.le_of_not_lt hLength]
  conv_rhs => rw [← hRows, List.filter_map]
  rfl

/-! ## Changes at some places -/

theorem set_eq_modify {i : Nat} {row : Row} (h : rows[i]? = some row) (f : Row → Row) :
    rows.set i (f row) = rows.modify i f := by
  rw [List.modify_eq_set_getElem?, h]
  rfl

/-- Changes the rows at some places. -/
def changeAt (f : Row → Row) (places : List Nat) (rows : List Row) : List Row :=
  places.foldl (fun rows i => rows.modify i f) rows

@[simp] theorem length_changeAt (f : Row → Row) (places : List Nat) (rows : List Row) :
    (changeAt f places rows).length = rows.length := by
  unfold changeAt
  induction places generalizing rows with
  | nil => rfl
  | cons i rest ih => rw [List.foldl_cons, ih, List.length_modify]

/-- The rows at the places are changed once each, and all other rows stay as they are. -/
theorem getElem?_changeAt (f : Row → Row) (h : places.Nodup) (rows : List Row) (j : Nat) :
    (changeAt f places rows)[j]? = if j ∈ places then rows[j]?.map f else rows[j]? := by
  unfold changeAt
  induction places generalizing rows with
  | nil => simp
  | cons i rest ih =>
    obtain ⟨hAbsent, hRest⟩ := List.nodup_cons.mp h
    rw [List.foldl_cons, ih hRest]
    by_cases hPlace : j = i
    · subst hPlace
      rw [if_neg hAbsent, if_pos List.mem_cons_self, List.getElem?_modify_eq]
      rfl
    · rw [List.getElem?_modify_ne _ _ (Ne.symm hPlace)]
      simp only [List.mem_cons, hPlace, false_or]

/-- Every row of the changed table is an old one or a changed one. -/
theorem mem_changeAt (h : places.Nodup) {row : Row} (hRow : row ∈ changeAt f places rows) :
    ∃ i old, rows[i]? = some old ∧ (i ∉ places ∧ row = old ∨ i ∈ places ∧ row = f old) := by
  obtain ⟨i, hSome⟩ := List.mem_iff_getElem?.mp hRow
  rw [getElem?_changeAt f h] at hSome
  split at hSome
  · rename_i hPlace
    obtain ⟨old, hOld, rfl⟩ := Option.map_eq_some_iff.mp hSome
    exact ⟨i, old, hOld, .inr ⟨hPlace, rfl⟩⟩
  · rename_i hPlace
    exact ⟨i, row, hSome, .inl ⟨hPlace, rfl⟩⟩

/-- A row at one of the places is there as changed, and any other row as it was. -/
theorem mem_changeAt_of_getElem? (h : places.Nodup) {i : Nat} {row : Row}
    (hRow : rows[i]? = some row) :
    (i ∈ places → f row ∈ changeAt f places rows) ∧
      (i ∉ places → row ∈ changeAt f places rows) := by
  have hAfter := getElem?_changeAt f h rows i
  refine ⟨fun hPlace => ?_, fun hPlace => ?_⟩
  · rw [if_pos hPlace, hRow] at hAfter
    exact List.mem_of_getElem? hAfter
  · rw [if_neg hPlace, hRow] at hAfter
    exact List.mem_of_getElem? hAfter

theorem map_changeAt {β : Type} {g : Row → β} (hf : ∀ row, g (f row) = g row) :
    (changeAt f places rows).map g = rows.map g := by
  have hModify : ∀ (i : Nat) (rows : List Row), (rows.modify i f).map g = rows.map g := by
    intro i rows
    induction rows generalizing i with
    | nil => simp
    | cons row rest ih =>
      cases i with
      | zero => rw [List.modify_zero_cons, List.map_cons, List.map_cons, hf]
      | succ i => rw [List.modify_succ_cons, List.map_cons, List.map_cons, ih]
  unfold changeAt
  induction places generalizing rows with
  | nil => rfl
  | cons i rest ih => rw [List.foldl_cons, ih, hModify]

theorem filter_modify {q : Row → Bool} {i : Nat} {old : Row} (hOld : rows[i]? = some old)
    (hBefore : q old = false) (hAfter : q (f old) = false) :
    (rows.modify i f).filter q = rows.filter q := by
  induction rows generalizing i with
  | nil => simp at hOld
  | cons row rest ih =>
    cases i with
    | zero =>
      cases Option.some.inj hOld
      rw [List.modify_zero_cons, List.filter_cons_of_neg (by simp [hAfter]),
        List.filter_cons_of_neg (by simp [hBefore])]
    | succ i => rw [List.modify_succ_cons, List.filter_cons, List.filter_cons, ih hOld]

/-- A change of rows that a filter drops before and after does not show behind the filter. -/
theorem filter_changeAt {q : Row → Bool} (h : places.Nodup)
    (hPlaces : ∀ i ∈ places, ∃ old, rows[i]? = some old ∧ q old = false ∧ q (f old) = false) :
    (changeAt f places rows).filter q = rows.filter q := by
  unfold changeAt
  induction places generalizing rows with
  | nil => rfl
  | cons i rest ih =>
    obtain ⟨hAbsent, hRest⟩ := List.nodup_cons.mp h
    obtain ⟨old, hOld, hBefore, hAfter⟩ := hPlaces i List.mem_cons_self
    rw [List.foldl_cons, ih hRest ?_, filter_modify hOld hBefore hAfter]
    intro j hj
    have hPlace : i ≠ j := fun hEq => hAbsent (hEq ▸ hj)
    rw [List.getElem?_modify_ne _ _ hPlace]
    exact hPlaces j (List.mem_cons_of_mem _ hj)

/-! ## Commands that change rows -/

theorem selects_owned {conditions : List Condition} (row : Row)
    (h : selects table tenant conditions row) : ownedBy table tenant row := by
  rw [selects, Bool.and_eq_true] at h
  exact h.1

theorem mem_claimedPlaces {c : Claim} {i : Nat} (h : i ∈ claimedPlaces table tenant c rows) :
    i ∈ placesOf (isEligible table tenant c) rows :=
  (stableSort_perm _ _).mem_iff.mp (List.mem_of_mem_take h)

theorem claimedPlaces_nodup (table : Table) (tenant : TenantId) (c : Claim) (rows : List Row) :
    (claimedPlaces table tenant c rows).Nodup :=
  ((stableSort_perm _ _).nodup_iff.mpr (placesOf_nodup _ _)).sublist (List.take_sublist _ _)

theorem isEligible_owned {c : Claim} (row : Row) (h : isEligible table tenant c row) :
    ownedBy table tenant row := by
  simp only [isEligible, Bool.and_eq_true] at h
  exact h.1.1.1.1

theorem claim_eq (table : Table) (tenant : TenantId) (c : Claim) (m : Memory) :
    m.claim table tenant c =
      ((claimedPlaces table tenant c (m.rows table.name)).map fun i =>
          markClaimed c ((m.rows table.name).getD i .empty),
        m.setRows table.name (changeAt (markClaimed c)
          (claimedPlaces table tenant c (m.rows table.name)) (m.rows table.name))) := rfl

theorem rows_claim (table : Table) (tenant : TenantId) (c : Claim) (m : Memory) :
    (m.claim table tenant c).2.rows table.name = changeAt (markClaimed c)
      (claimedPlaces table tenant c (m.rows table.name)) (m.rows table.name) := by
  rw [claim_eq, rows_setRows_self]

/-- An update that succeeds changes the rows at its places and answers them. -/
theorem updateAt_eq_ok {assignments : List Assignment} {updated : List Row}
    (hNodup : places.Nodup) (hPlaces : ∀ i ∈ places, i < rows.length)
    (h : updateAt table assignments places rows = .ok (updated, rows')) :
    updated = places.map (fun i => assign assignments (rows.getD i .empty)) ∧
      rows' = changeAt (assign assignments) places rows := by
  induction places generalizing rows rows' updated with
  | nil =>
    cases h
    exact ⟨rfl, rfl⟩
  | cons i rest ih =>
    obtain ⟨hAbsent, hRest⟩ := List.nodup_cons.mp hNodup
    have hLength := hPlaces i List.mem_cons_self
    have hSome := List.getElem?_eq_getElem hLength
    obtain ⟨-, -, h⟩ := Except.bind_eq_ok.mp h
    obtain ⟨⟨others, rows''⟩, hOthers, h⟩ := Except.bind_eq_ok.mp h
    cases Except.ok.inj h
    rw [getD_of_getElem? hSome, set_eq_modify hSome] at hOthers
    obtain ⟨hUpdated, hRows⟩ := ih hRest (fun j hj => by
      rw [List.length_modify]
      exact hPlaces j (List.mem_cons_of_mem _ hj)) hOthers
    refine ⟨?_, hRows⟩
    rw [List.map_cons, hUpdated]
    -- The other places still have their old rows after the change at the first one.
    refine congrArg _ (List.map_congr_left fun j hj => ?_)
    have hPlace : i ≠ j := fun hEq => hAbsent (hEq ▸ hj)
    rw [List.getD_eq_getElem?_getD, List.getElem?_modify_ne _ _ hPlace,
      ← List.getD_eq_getElem?_getD]

theorem update_eq (table : Table) (tenant : TenantId) (conditions : List Condition)
    (assignments : List Assignment) (m : Memory) :
    (∃ e, m.update table tenant conditions assignments = (.error e, m)) ∨
      m.update table tenant conditions assignments =
        ((.ok ((placesOf (selects table tenant conditions) (m.rows table.name)).map fun i =>
            assign assignments ((m.rows table.name).getD i .empty))),
          m.setRows table.name (changeAt (assign assignments)
            (placesOf (selects table tenant conditions) (m.rows table.name))
            (m.rows table.name))) := by
  unfold update
  dsimp only
  split
  · rename_i e _
    exact .inl ⟨e, rfl⟩
  · rename_i updated rows hUpdate
    obtain ⟨rfl, rfl⟩ :=
      updateAt_eq_ok (placesOf_nodup _ _) (fun _ => lt_of_mem_placesOf) hUpdate
    exact .inr rfl

theorem update_of_updateAt {conditions : List Condition} {assignments : List Assignment}
    {m : Memory} {result : List Row × List Row}
    (h : updateAt table assignments
      (placesOf (selects table tenant conditions) (m.rows table.name)) (m.rows table.name) =
        .ok result) :
    m.update table tenant conditions assignments =
      (.ok ((placesOf (selects table tenant conditions) (m.rows table.name)).map fun i =>
          assign assignments ((m.rows table.name).getD i .empty)),
        m.setRows table.name (changeAt (assign assignments)
          (placesOf (selects table tenant conditions) (m.rows table.name))
          (m.rows table.name))) := by
  rcases update_eq table tenant conditions assignments m with ⟨e, hUpdate⟩ | hUpdate
  · rw [update, h] at hUpdate
    cases hUpdate
  · exact hUpdate

/-! ## Rows written one after the other -/

/-- What the write of one row keeps, the write of several keeps, and each written row is as one
written on its own. -/
theorem stageAll_induction {one : Row → Staged → Except StoreError Row × Staged}
    {invariant : List Row → Prop} {admitted written : Row → Prop}
    (hOne : ∀ row s, invariant s.rows → admitted row →
      invariant (one row s).2.rows ∧ ∀ a, (one row s).1 = .ok a → written a)
    {s : Staged} (h : invariant s.rows) (hRows : ∀ row ∈ rows, admitted row) :
    invariant (stageAll one rows s).2.rows ∧
      ∀ all, (stageAll one rows s).1 = .ok all → ∀ row ∈ all, written row := by
  induction rows generalizing s with
  | nil =>
    refine ⟨h, ?_⟩
    intro all hOk
    cases Except.ok.inj hOk
    exact fun _ hRow => absurd hRow List.not_mem_nil
  | cons row rest ih =>
    have hFirst := hOne row s h (hRows row List.mem_cons_self)
    unfold stageAll
    generalize one row s = outcome at hFirst
    obtain ⟨e | first, s'⟩ := outcome
    · exact ⟨hFirst.1, fun _ hOk => by cases hOk⟩
    · have hRest := ih hFirst.1 fun row hRow => hRows row (List.mem_cons_of_mem _ hRow)
      dsimp only
      generalize stageAll one rest s' = outcome at hRest
      obtain ⟨e | others, s''⟩ := outcome
      · exact ⟨hRest.1, fun _ hOk => by cases hOk⟩
      · refine ⟨hRest.1, ?_⟩
        intro all hOk other hOther
        cases Except.ok.inj hOk
        rcases List.mem_cons.mp hOther with rfl | hOther
        · exact hFirst.2 _ rfl
        · exact hRest.2 _ rfl _ hOther

/-- Rows are written all together as they were staged, or none of them is. -/
theorem write_cases (one : Row → Staged → Except StoreError Row × Staged) (table : Table)
    (rows : List Row) (m : Memory) :
    (∃ e, (write one table rows m).1 = .error e ∧
        ∀ name, (write one table rows m).2.rows name = m.rows name) ∨
      ∃ written, (stageAll one rows ⟨m.rows table.name, m.nextId⟩).1 = .ok written ∧
        (write one table rows m).1 = .ok written ∧
        (write one table rows m).2.rows table.name =
          (stageAll one rows ⟨m.rows table.name, m.nextId⟩).2.rows := by
  unfold write
  generalize stageAll one rows ⟨m.rows table.name, m.nextId⟩ = outcome
  obtain ⟨e | written, s⟩ := outcome
  · exact .inl ⟨e, rfl, fun _ => rfl⟩
  · exact .inr ⟨written, rfl, rfl, rows_setRows_self m table.name s.rows⟩

end Tenancy.Memory
