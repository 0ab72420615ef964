import Mathlib.Data.List.Induction
import Tenancy.Proofs.Backend.Keys

/-!
# Updates row by row and at once

An update changes its rows one after the other and checks each new row against a table in which
later rows still have their old cells. All rows are assigned the same values, so a new row that
collides with the old cells of a row collides with the new ones, too (`AgreeOn.assign`). Hence the
order does not show: an update goes in exactly if the table in which all rows are changed at once
has no collision, and then leaves that table (`update_at_once`).
-/

namespace Tenancy

/-! ## Cells set one after the other and at once -/

theorem Row.insertAll_concat (row : Row) (entries : List (String × Json)) (e : String × Json) :
    row.insertAll (entries ++ [e]) = (row.insertAll entries).insert e.1 e.2 := by
  rw [insertAll, insertAll, List.foldl_append]
  rfl

/-- Entries that are set one after the other go over a row as the row of these entries does, also
where several have one name. -/
theorem Row.overlay_ofEntries (row : Row) (entries : List (String × Json)) :
    row.overlay (ofEntries entries) = row.insertAll entries := by
  apply ext_get?
  intro name
  rw [get?_overlay, ofEntries]
  induction entries using List.reverseRecOn with
  | nil => rfl
  | append_singleton entries e ih =>
    rw [insertAll_concat, insertAll_concat, get?_insert, get?_insert, ← ih]
    split <;> rfl

namespace Memory

variable {table : Table} {tenant : TenantId} {conditions : List Condition}
  {assignments : List Assignment} {rows : List Row} {m : Memory} {places : List Nat}

/-- The cells that the assignments set. -/
def assigned (assignments : List Assignment) : Row :=
  .ofEntries (assignments.map fun a => (a.name, a.value.toJson))

theorem assign_eq_overlay (assignments : List Assignment) (row : Row) :
    assign assignments row = row.overlay (assigned assignments) := by
  rw [assigned, Row.overlay_ofEntries, Row.insertAll, List.foldl_map]
  rfl

/-- An assigned cell is the same in all rows, and the others are kept. -/
theorem cell_assign (assignments : List Assignment) (row : Row) (column : String) :
    (assign assignments row).cell column =
      (((assigned assignments).get? column).getD (row.cell column)) := by
  rw [assign_eq_overlay, Row.cell, Row.get?_overlay]
  cases (assigned assignments).get? column <;> rfl

/-! ## Collisions with rows that are still to be changed -/

/-- A changed row that agrees with another one on a key does so when that is changed, too. -/
theorem AgreeOn.assign {key : List String} {a b : Row}
    (h : AgreeOn key (assign assignments a) b) :
    AgreeOn key (Memory.assign assignments a) (Memory.assign assignments b) := by
  intro column hColumn
  have hCell := h column hColumn
  rw [cell_assign] at hCell
  rw [cell_assign, cell_assign]
  cases hAssigned : (assigned assignments).get? column with
  | none =>
    rw [hAssigned] at hCell
    exact hCell
  | some value =>
    rw [hAssigned, Json.sameCell_comm] at hCell
    exact Json.sameCell_self (Json.ne_null_of_sameCell hCell)

theorem not_apart_assign {a b : Row} (h : ¬ Apart table (assign assignments a) b) :
    ¬ Apart table (assign assignments a) (assign assignments b) := by
  contrapose! h
  exact fun key hKey hAgree => h key hKey hAgree.assign

/-- A row that is refused collides in the table in which all rows are changed. -/
theorem not_keysApart_changeAt {i : Nat} {row : Row} (hNodup : places.Nodup) (hPlace : i ∈ places)
    (hRow : rows[i]? = some row)
    (hRefused : checkUnique table (rows.eraseIdx i) (assign assignments row) ≠ .ok ()) :
    ¬ KeysApart table (changeAt (assign assignments) places rows) := by
  rw [ne_eq, checkUnique_eq_ok_iff] at hRefused
  push Not at hRefused
  obtain ⟨other, hOther, hCollides⟩ := hRefused
  obtain ⟨j, hPlaces, hSome⟩ := List.mem_eraseIdx_iff_getElem?.mp hOther
  have hAfter := getElem?_changeAt (assign assignments) hNodup rows
  have hi := hAfter i
  rw [if_pos hPlace, hRow, Option.map_some] at hi
  have hj := hAfter j
  rw [hSome, Option.map_some] at hj
  intro hApart
  rw [keysApart_iff] at hApart
  split at hj
  · exact not_apart_assign hCollides (hApart i j _ _ (Ne.symm hPlaces) hi hj)
  · exact hCollides (hApart i j _ _ (Ne.symm hPlaces) hi hj)

/-- In a table without collisions, rows are changed one after the other exactly if changing them
brings no two rows into a collision. -/
theorem updateAt_outcome (hApart : KeysApart table rows) (hNodup : places.Nodup)
    (hPlaces : ∀ i ∈ places, i < rows.length) :
    (KeysApart table (changeAt (assign assignments) places rows) ∧
        ∃ result, updateAt table assignments places rows = .ok result) ∨
      ¬ KeysApart table (changeAt (assign assignments) places rows) ∧
        ∃ key, updateAt table assignments places rows =
          .error (.conflict (.duplicateKey table.name key)) := by
  induction places generalizing rows with
  | nil => exact .inl ⟨hApart, _, rfl⟩
  | cons i rest ih =>
    obtain ⟨row, hRow⟩ : ∃ row, rows[i]? = some row :=
      ⟨_, List.getElem?_eq_getElem (hPlaces i List.mem_cons_self)⟩
    rw [updateAt, getD_of_getElem? hRow]
    rcases checkUnique_cases table (rows.eraseIdx i) (assign assignments row) with
      hOk | ⟨key, hConflict⟩
    · have hNext := hApart.set hOk
      rw [set_eq_modify hRow] at hNext
      have hBound : ∀ j ∈ rest, j < (rows.modify i (assign assignments)).length := by
        intro j hj
        rw [List.length_modify]
        exact hPlaces j (List.mem_cons_of_mem _ hj)
      rw [hOk, set_eq_modify hRow]
      rcases ih hNext (List.nodup_cons.mp hNodup).2 hBound with
        ⟨hAfter, ⟨updated, rows'⟩, hUpdate⟩ | ⟨hAfter, key, hUpdate⟩
      · refine .inl ⟨hAfter, (assign assignments row :: updated, rows'), ?_⟩
        simp only [hUpdate]
        rfl
      · refine .inr ⟨hAfter, key, ?_⟩
        simp only [hUpdate]
        rfl
    · refine .inr ⟨not_keysApart_changeAt hNodup List.mem_cons_self hRow ?_, key, ?_⟩
      · rw [hConflict]
        intro hOk
        cases hOk
      · rw [hConflict]
        rfl

/-! ## The table with all rows changed -/

/-- The rows of a table where all rows that an update is for are overlaid with its assignments. -/
def overlaid (table : Table) (tenant : TenantId) (conditions : List Condition)
    (assignments : List Assignment) (rows : List Row) : List Row :=
  rows.map fun row =>
    if selects table tenant conditions row then row.overlay (assigned assignments) else row

theorem changeAt_placesOf (f : Row → Row) (p : Row → Bool) (rows : List Row) :
    changeAt f (placesOf p rows) rows = rows.map fun row => if p row then f row else row := by
  apply List.ext_getElem?
  intro i
  rw [getElem?_changeAt f (placesOf_nodup p rows), List.getElem?_map]
  cases hRow : rows[i]? with
  | none => simp
  | some row =>
    have hPlace : i ∈ placesOf p rows ↔ p row := by
      rw [mem_placesOf]
      simp [hRow]
    by_cases hp : p row <;> simp [hPlace, hp]

theorem changeAt_eq_overlaid : changeAt (assign assignments)
    (placesOf (selects table tenant conditions) rows) rows =
      overlaid table tenant conditions assignments rows := by
  rw [changeAt_placesOf, overlaid]
  simp only [assign_eq_overlay]

theorem update_outcome (hApart : KeysApart table (m.rows table.name)) (tenant : TenantId)
    (conditions : List Condition) (assignments : List Assignment) :
    KeysApart table (overlaid table tenant conditions assignments (m.rows table.name)) ∧
        m.update table tenant conditions assignments =
          (.ok (((m.rows table.name).filter (selects table tenant conditions)).map
              (·.overlay (assigned assignments))),
            m.setRows table.name
              (overlaid table tenant conditions assignments (m.rows table.name))) ∨
      ¬ KeysApart table (overlaid table tenant conditions assignments (m.rows table.name)) ∧
        ∃ key, m.update table tenant conditions assignments =
          (.error (.conflict (.duplicateKey table.name key)), m) := by
  have hRows : (placesOf (selects table tenant conditions) (m.rows table.name)).map
      (fun i => assign assignments ((m.rows table.name).getD i .empty)) =
        ((m.rows table.name).filter (selects table tenant conditions)).map
          (·.overlay (assigned assignments)) := by
    rw [← map_placesOf, List.map_map]
    exact List.map_congr_left fun i _ => assign_eq_overlay _ _
  rw [← changeAt_eq_overlaid, ← hRows]
  rcases updateAt_outcome hApart (placesOf_nodup _ _) (fun _ => lt_of_mem_placesOf) with
    ⟨hAfter, result, hOk⟩ | ⟨hAfter, key, hError⟩
  · exact .inl ⟨hAfter, update_of_updateAt hOk⟩
  · refine .inr ⟨hAfter, key, ?_⟩
    rw [update, hError]

/-- **An update is as one at once.** In a table without collisions, let all rows of the tenant that
satisfy the conditions be overlaid with the assignments.
1. The update succeeds exactly if these rows and the others have no collision.
2. Then the table holds just these, and the answer are the overlaid rows in the order of the table.
3. Otherwise the update ends in a conflict and changes nothing. -/
theorem update_at_once (table : Table) (tenant : TenantId) (conditions : List Condition)
    (assignments : List Assignment) (m : Memory) (hApart : KeysApart table (m.rows table.name)) :
    let outcome := backend (.update table tenant conditions assignments) m
    let result := overlaid table tenant conditions assignments (m.rows table.name)
    ((∃ updated, outcome.1 = .ok updated) ↔ KeysApart table result) ∧
      (∀ updated, outcome.1 = .ok updated →
        updated = ((m.rows table.name).filter (selects table tenant conditions)).map
            (·.overlay (assigned assignments)) ∧
          outcome.2 = m.setRows table.name result) ∧
      ∀ e, outcome.1 = .error e →
        (∃ key, e = .conflict (.duplicateKey table.name key)) ∧ outcome.2 = m := by
  intro outcome result
  have hBackend : outcome = m.update table tenant conditions assignments := rfl
  rcases update_outcome hApart tenant conditions assignments with
    ⟨hAfter, hUpdate⟩ | ⟨hAfter, key, hUpdate⟩
  · rw [hBackend, hUpdate]
    refine ⟨⟨fun _ => hAfter, fun _ => ⟨_, rfl⟩⟩, ?_, ?_⟩
    · intro updated hOk
      cases hOk
      exact ⟨rfl, rfl⟩
    · intro e hError
      cases hError
  · rw [hBackend, hUpdate]
    refine ⟨⟨?_, fun h => absurd h hAfter⟩, ?_, ?_⟩
    · rintro ⟨updated, hOk⟩
      cases hOk
    · intro updated hOk
      cases hOk
    · intro e hError
      cases hError
      exact ⟨⟨key, rfl⟩, rfl⟩

/-- Where a tenant may have one job of each status, two jobs cannot both be taken: the first one
collides with the second, which is taken already. -/
theorem jobs_updated_at_once :
    let m : Memory := ⟨[("jobs", [Jobs.waiting "a", Jobs.taken "b"])], 1⟩
    let outcome :=
      backend (.update (Jobs.keyed "status") Jobs.tenant [] [⟨"status", .text "TAKEN"⟩]) m
    KeysApart (Jobs.keyed "status") (m.rows "jobs") ∧
      (∃ key, outcome.1 = .error (.conflict (.duplicateKey "jobs" key))) ∧ outcome.2 = m := by
  intro m outcome
  have hApart : KeysApart (Jobs.keyed "status") (m.rows "jobs") := by decide +kernel
  have hCollide : ¬ KeysApart (Jobs.keyed "status") (overlaid (Jobs.keyed "status") Jobs.tenant []
      [⟨"status", .text "TAKEN"⟩] (m.rows "jobs")) := by decide +kernel
  obtain ⟨hSucceeds, -, hFails⟩ := update_at_once (Jobs.keyed "status") Jobs.tenant []
    [⟨"status", .text "TAKEN"⟩] m hApart
  refine ⟨hApart, ?_⟩
  cases hOutcome : outcome.1 with
  | ok updated => exact absurd (hSucceeds.mp ⟨updated, hOutcome⟩) hCollide
  | error e =>
    obtain ⟨⟨key, rfl⟩, hSame⟩ := hFails e hOutcome
    exact ⟨⟨key, rfl⟩, hSame⟩

end Memory

end Tenancy
