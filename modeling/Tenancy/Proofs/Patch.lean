import Tenancy.Proofs.Confinement
import Tenancy.Proofs.Backend.Places

/-!
# Patched rows

What the assignments of a patch leave in a row: a column has the value that the patch assigns to its
field, and its old cell if the patch does not name the field (`Store.get?_assign`).
-/

namespace Tenancy

/-! ## Assignments to columns -/

namespace Memory

variable {assignments : List Assignment}

theorem get?_assign_of_ne {name : String} (h : ∀ a ∈ assignments, a.name ≠ name) (row : Row) :
    (assign assignments row).get? name = row.get? name := by
  unfold assign
  induction assignments generalizing row with
  | nil => rfl
  | cons a rest ih =>
    rw [List.foldl_cons, ih fun b hb => h b (List.mem_cons_of_mem _ hb)]
    exact Row.get?_insert_of_ne row _ (h a List.mem_cons_self).symm

theorem get?_assign_of_mem (hNames : (assignments.map (·.name)).Nodup) {a : Assignment}
    (ha : a ∈ assignments) (row : Row) :
    (assign assignments row).get? a.name = some a.value.toJson := by
  induction assignments generalizing row with
  | nil => exact absurd ha List.not_mem_nil
  | cons b rest ih =>
    obtain ⟨hAbsent, hRest⟩ := List.nodup_cons.mp hNames
    rcases List.mem_cons.mp ha with rfl | ha
    · have hOthers : ∀ c ∈ rest, c.name ≠ a.name := by
        intro c hc hEq
        exact hAbsent (List.mem_map.mpr ⟨c, hc, hEq⟩)
      have hLater := get?_assign_of_ne hOthers (row.insert a.name a.value.toJson)
      exact hLater.trans (Row.get?_insert_self _ _ _)
    · exact ih hRest ha (row.insert b.name b.value.toJson)

end Memory

/-! ## Patches -/

theorem Patch.mem_of_get? {p : Patch} {field : String} {value : Value}
    (h : p.get? field = some value) : ⟨field, value⟩ ∈ p.assignments := by
  obtain ⟨a, ha, rfl⟩ := Option.map_eq_some_iff.mp h
  have hName : a.name = field := by simpa using List.find?_some ha
  exact hName ▸ List.mem_of_find?_eq_some ha

theorem Patch.name_ne_of_get? {p : Patch} {field : String} (h : p.get? field = none) :
    ∀ a ∈ p.assignments, a.name ≠ field := by
  intro a ha
  simpa using List.find?_eq_none.mp (Option.map_eq_none_iff.mp h) a ha

theorem Patch.get?_of_mem {p : Patch} {a : Assignment} (h : a ∈ p.assignments) :
    ∃ value, p.get? a.name = some value := by
  cases hValue : p.get? a.name with
  | none => exact absurd rfl (Patch.name_ne_of_get? hValue a h)
  | some value => exact ⟨value, rfl⟩

namespace Store

variable {ρ : Type} {s : Store ρ} {patch : Patch} {assignments : List Assignment}

theorem mem_ownAssignments {field : String} {value : Value}
    (hField : field ≠ s.descriptor.tenantField) (hValue : patch.get? field = some value) :
    (⟨field, value⟩ : Assignment) ∈ patch.assignments.filter (!s.isTenantField ·.name) := by
  refine List.mem_filter.mpr ⟨Patch.mem_of_get? hValue, ?_⟩
  simpa [isTenantField] using hField

theorem resolvePatch_pairs (h : s.resolvePatch patch = .ok assignments) :
    List.Forall₂
      (fun a b : Assignment => s.columns.column? a.name = some b.name ∧ b.value = a.value)
      (patch.assignments.filter (!s.isTenantField ·.name)) assignments := by
  refine (Except.mapM_eq_ok.mp h).imp ?_
  intro a b hResolved
  obtain ⟨column, hColumn, hEq⟩ := Except.bind_eq_ok.mp hResolved
  cases Except.ok.inj hEq
  exact ⟨ColumnMap.column_eq_ok_iff.mp hColumn, rfl⟩

/-- Different fields have different columns, and a patch has each field once. -/
theorem resolvePatch_nodup (h : s.resolvePatch patch = .ok assignments) :
    (assignments.map (·.name)).Nodup :=
  ColumnMap.columns_nodup_of_fields ((resolvePatch_pairs h).imp fun _ _ hPair => hPair.1)
    (patch.nodup.sublist (List.filter_sublist.map _))

/-- A patch of declared fields is accepted, and one that assigns something other than the tenant is
not empty behind it. -/
theorem resolvePatch_ok
    (hFields : ∀ a ∈ patch.assignments, ∃ column, s.columns.column? a.name = some column)
    {field : String} {value : Value} (hField : field ≠ s.descriptor.tenantField)
    (hValue : patch.get? field = some value) :
    ∃ assignments, s.resolvePatch patch = .ok assignments ∧ assignments ≠ [] := by
  obtain ⟨assignments, h⟩ : ∃ assignments, s.resolvePatch patch = .ok assignments := by
    refine Except.exists_mapM fun a ha => ?_
    obtain ⟨column, hColumn⟩ := hFields a (List.mem_of_mem_filter ha)
    exact ⟨⟨column, a.value⟩, Except.bind_eq_ok.mpr
      ⟨column, ColumnMap.column_eq_ok_iff.mpr hColumn, rfl⟩⟩
  refine ⟨assignments, h, ?_⟩
  rintro rfl
  have hNil := List.forall₂_nil_right_iff.mp (resolvePatch_pairs h)
  have hMem := mem_ownAssignments hField hValue
  rw [hNil] at hMem
  exact absurd hMem List.not_mem_nil

/-- A column of a patched row has the value assigned to its field, if there is one. -/
theorem get?_assign (h : s.resolvePatch patch = .ok assignments) {field column : String}
    (hColumn : s.columns.column? field = some column) (hField : field ≠ s.descriptor.tenantField)
    (row : Row) : (Memory.assign assignments row).get? column =
      ((patch.get? field).map Value.toJson).or (row.get? column) := by
  have hPairs := resolvePatch_pairs h
  cases hValue : patch.get? field with
  | none =>
    refine Memory.get?_assign_of_ne ?_ row
    intro b hb
    obtain ⟨a, ha, hName, -⟩ := exists_left_of_mem hPairs hb
    exact ColumnMap.column?_ne hName hColumn
      (Patch.name_ne_of_get? hValue a (List.mem_of_mem_filter ha))
  | some value =>
    obtain ⟨b, hb, hName, hEq⟩ := exists_left_of_mem hPairs.flip (mem_ownAssignments hField hValue)
    have hColumnName : column = b.name := Option.some.inj (hColumn.symm.trans hName)
    have hCell := Memory.get?_assign_of_mem (resolvePatch_nodup h) hb row
    rw [hColumnName, hCell, hEq]
    rfl

/-- A patched row keeps its tenant. -/
theorem get?_assign_tenant (h : s.resolvePatch patch = .ok assignments) (row : Row) :
    (Memory.assign assignments row).get? s.table.tenantColumn = row.get? s.table.tenantColumn :=
  Memory.get?_assign_of_ne (resolvePatch_names h) row

end Store

end Tenancy
