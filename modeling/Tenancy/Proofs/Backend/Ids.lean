import Tenancy.Proofs.Backend.Keys

/-!
# Ids in a table

In a table with `UniqueIds` every row has a scalar id and no two ids count as the same. Insertions
keep that (`insert_grows`), and so do changes that leave the ids alone (`UniqueIds.changeAt`). A
condition on the id of a row then selects this row and no other one (`UniqueIds.placesOf_id`). For a
row with a scalar id it is enough that the table has no collisions (`KeysApart.placesOf_id`).
-/

namespace Tenancy.Memory

variable {table : Table} {tenant : TenantId} {rows rows' : List Row} {m : Memory}

/-- A condition on the id of a row of the tenant selects this row alone, if no other id counts as
the same. -/
theorem placesOf_own_id {i : Nat} {row : Row} (hRow : rows[i]? = some row)
    (hOwned : ownedBy table tenant row) (hScalar : (row.cell table.idColumn).isScalar)
    (hNull : row.cell table.idColumn ≠ .null)
    (hDistinct : ∀ (j : Nat) (other : Row), j ≠ i → rows[j]? = some other →
      Json.sameCell (other.cell table.idColumn) (row.cell table.idColumn) = false) :
    placesOf (selects table tenant
      [⟨table.idColumn, .eq (.ofJson (row.cell table.idColumn))⟩]) rows = [i] := by
  have hMem : ∀ j, j ∈ placesOf (selects table tenant
      [⟨table.idColumn, .eq (.ofJson (row.cell table.idColumn))⟩]) rows ↔ j ∈ [i] := by
    intro j
    rw [mem_placesOf, List.mem_singleton]
    constructor
    · rintro ⟨other, hOther, hSelects⟩
      by_contra hPlaces
      have hMatches : (Value.ofJson (row.cell table.idColumn)).matchesCell
          (other.cell table.idColumn) := by
        simpa [selects, Condition.holds, Test.holds] using (Bool.and_eq_true_iff.mp hSelects).2
      have hSame := Value.sameCell_of_matchesCell hScalar hMatches
      rw [hDistinct j other hPlaces hOther] at hSame
      cases hSame
    · rintro rfl
      refine ⟨row, hRow, ?_⟩
      simp [selects, hOwned, Condition.holds, Test.holds, Value.ofJson_matchesCell hScalar hNull]
  exact List.perm_singleton.mp
    ((List.perm_ext_iff_of_nodup (placesOf_nodup _ _) (List.nodup_singleton i)).mpr hMem)

structure UniqueIds (table : Table) (rows : List Row) : Prop where
  distinct : (rows.map (·.cell table.idColumn)).Pairwise (Json.sameCell · · = false)
  scalar : ∀ id ∈ rows.map (·.cell table.idColumn), id.isScalar ∧ id ≠ .null

namespace UniqueIds

theorem sameCell_eq_false (h : UniqueIds table rows) {i j : Nat} {a b : Row} (hPlaces : i ≠ j)
    (ha : rows[i]? = some a) (hb : rows[j]? = some b) :
    Json.sameCell (a.cell table.idColumn) (b.cell table.idColumn) = false := by
  have hDistinct := List.pairwise_iff_getElem.mp (List.pairwise_map.mp h.distinct)
  obtain ⟨hi, rfl⟩ := List.getElem?_eq_some_iff.mp ha
  obtain ⟨hj, rfl⟩ := List.getElem?_eq_some_iff.mp hb
  rcases Nat.lt_or_gt_of_ne hPlaces with hLt | hLt
  · exact hDistinct i j hi hj hLt
  · rw [Json.sameCell_comm]
    exact hDistinct j i hj hi hLt

theorem scalar_of_mem (h : UniqueIds table rows) {row : Row} (hRow : row ∈ rows) :
    (row.cell table.idColumn).isScalar ∧ row.cell table.idColumn ≠ .null :=
  h.scalar _ (List.mem_map_of_mem hRow)

/-- A row is told by its id. -/
theorem eq_of_id (h : UniqueIds table rows) {a b : Row} (ha : a ∈ rows) (hb : b ∈ rows)
    (hSame : a.cell table.idColumn = b.cell table.idColumn) : a = b := by
  obtain ⟨i, hi⟩ := List.mem_iff_getElem?.mp ha
  obtain ⟨j, hj⟩ := List.mem_iff_getElem?.mp hb
  by_cases hPlaces : i = j
  · subst hPlaces
    exact Option.some.inj (hi.symm.trans hj)
  · have hApart := h.sameCell_eq_false hPlaces hi hj
    rw [hSame, Json.sameCell_self (h.scalar_of_mem hb).2] at hApart
    cases hApart

theorem append (h : UniqueIds table rows) {row : Row}
    (hScalar : (row.cell table.idColumn).isScalar ∧ row.cell table.idColumn ≠ .null)
    (hNew : ∀ other ∈ rows,
      Json.sameCell (row.cell table.idColumn) (other.cell table.idColumn) = false) :
    UniqueIds table (rows ++ [row]) := by
  refine ⟨?_, ?_⟩
  · rw [List.map_append, List.pairwise_append]
    refine ⟨h.distinct, List.pairwise_singleton _ _, ?_⟩
    intro id hId id' hId'
    obtain ⟨other, hOther, rfl⟩ := List.mem_map.mp hId
    rw [List.map_singleton, List.mem_singleton] at hId'
    rw [hId', Json.sameCell_comm]
    exact hNew other hOther
  · intro id hId
    rw [List.map_append, List.mem_append, List.map_singleton, List.mem_singleton] at hId
    rcases hId with hId | rfl
    · exact h.scalar id hId
    · exact hScalar

theorem changeAt (h : UniqueIds table rows) {f : Row → Row} {places : List Nat}
    (hf : ∀ row : Row, (f row).cell table.idColumn = row.cell table.idColumn) :
    UniqueIds table (changeAt f places rows) := by
  have hIds : (Memory.changeAt f places rows).map (·.cell table.idColumn) =
      rows.map (·.cell table.idColumn) := map_changeAt hf
  exact ⟨hIds ▸ h.distinct, hIds ▸ h.scalar⟩

/-- The rows of a tenant with the id of one of its rows are that row. -/
theorem placesOf_id (h : UniqueIds table rows) {i : Nat} {row : Row} (hRow : rows[i]? = some row)
    (hOwned : ownedBy table tenant row) :
    placesOf (selects table tenant
      [⟨table.idColumn, .eq (.ofJson (row.cell table.idColumn))⟩]) rows = [i] := by
  obtain ⟨hScalar, hNull⟩ := h.scalar_of_mem (List.mem_of_getElem? hRow)
  exact placesOf_own_id hRow hOwned hScalar hNull fun _ _ hPlaces hOther =>
    h.sameCell_eq_false hPlaces hOther hRow

end UniqueIds

/-- In a table without collisions a scalar id selects one row of its tenant. -/
theorem KeysApart.placesOf_id (h : KeysApart table rows) {i : Nat} {row : Row}
    (hRow : rows[i]? = some row) (hOwned : ownedBy table tenant row)
    (hScalar : (row.cell table.idColumn).isScalar) (hNull : row.cell table.idColumn ≠ .null) :
    placesOf (selects table tenant
      [⟨table.idColumn, .eq (.ofJson (row.cell table.idColumn))⟩]) rows = [i] :=
  placesOf_own_id hRow hOwned hScalar hNull fun j other hPlaces hOther =>
    (keysApart_iff.mp h j i other row hPlaces hOther hRow).id

/-! ## Insertions -/

/-- A table that was added to: no row is gone, and the ids are unique. -/
structure Grows (table : Table) (rows rows' : List Row) : Prop where
  ids : UniqueIds table rows'
  subset : ∀ row ∈ rows, row ∈ rows'

theorem withId_scalar {row : Row} (h : (row.cell table.idColumn).isScalar) (nextId : Int64) :
    ((withId table row nextId).1.cell table.idColumn).isScalar ∧
      (withId table row nextId).1.cell table.idColumn ≠ .null := by
  unfold withId
  split
  · rw [Row.cell_insert_self]
    exact ⟨rfl, nofun⟩
  · rename_i hNotNull
    refine ⟨h, ?_⟩
    intro hNull
    rw [hNull] at hNotNull
    exact hNotNull rfl

theorem append_grows {row : Row} {s : Staged} (h : UniqueIds table s.rows)
    (hScalar : (row.cell table.idColumn).isScalar) :
    Grows table s.rows (append table row s).2.rows := by
  unfold append
  have hWithId := withId_scalar hScalar s.nextId
  generalize withId table row s.nextId = drawn at hWithId
  obtain ⟨row', nextId⟩ := drawn
  dsimp only
  split
  · exact ⟨h, fun _ hRow => hRow⟩
  · rename_i hUnique
    exact ⟨h.append hWithId fun other hOther => (checkUnique_eq_ok_iff.mp hUnique other hOther).id,
      fun _ hRow => List.mem_append_left _ hRow⟩

/-- Rows with scalar ids, or none of their own, may be inserted. -/
theorem insert_grows (h : UniqueIds table (m.rows table.name))
    (hScalar : ∀ row ∈ rows, (row.cell table.idColumn).isScalar) :
    Grows table (m.rows table.name) ((m.insert table rows).2.rows table.name) := by
  have hOne : ∀ row s, Grows table (m.rows table.name) s.rows →
      (row.cell table.idColumn).isScalar →
      Grows table (m.rows table.name) (insertOne table row s).2.rows ∧
        ∀ written, (insertOne table row s).1 = .ok written → True := by
    intro row s hGrows hRow
    refine ⟨?_, fun _ _ => trivial⟩
    unfold insertOne
    split
    · exact hGrows
    · have hAppend := append_grows hGrows.ids hRow
      exact ⟨hAppend.ids, fun old hOld => hAppend.subset old (hGrows.subset old hOld)⟩
  have hStage := (stageAll_induction hOne (s := ⟨m.rows table.name, m.nextId⟩)
    ⟨h, fun _ hRow => hRow⟩ hScalar).1
  rw [Memory.insert]
  rcases write_cases (insertOne table) table rows m with ⟨e, -, hSame⟩ | ⟨written, -, -, hRows⟩
  · rw [hSame]
    exact ⟨h, fun _ hRow => hRow⟩
  · rw [hRows]
    exact hStage

end Tenancy.Memory
