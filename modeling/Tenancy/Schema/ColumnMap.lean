import Tenancy.Error
import Tenancy.Schema.Naming
import Tenancy.Text.Blank

/-!
# Fields and columns

A `ColumnMap` pairs the declared fields of a table with its columns, one to one. It renames the
cells of records to columns and those of rows back to fields.
-/

namespace Tenancy

/-- A declared field and its column. -/
structure FieldColumn where
  field : String
  column : String
deriving DecidableEq, Repr

/-- The declared fields of a table with their columns, in the order of declaration. No field and
no column occurs twice. -/
structure ColumnMap where
  table : String
  pairs : List FieldColumn
  fields_nodup : (pairs.map (·.field)).Nodup
  columns_nodup : (pairs.map (·.column)).Nodup

namespace ColumnMap

/-! ## Acceptance -/

/-- The column of a field: the first override for it, or else its name by the convention. -/
def columnFor (naming : Naming) (overrides : List FieldColumn) (field : String) : String :=
  match overrides.find? (·.field = field) with
  | some o => o.column
  | none => naming.apply field

/-- Adds the fields one by one to those that are accepted already. -/
def extend (table : String) (naming : Naming) (overrides : List FieldColumn)
    (accepted : List FieldColumn) : List String → Except StoreError (List FieldColumn)
  | [] => .ok accepted
  | field :: rest =>
    let column := columnFor naming overrides field
    if column.isEmpty then .error (.configuration (.emptyColumn field table))
    else match accepted.find? (·.column = column) with
      | some previous =>
        .error (.configuration (.sharedColumn previous.field field table column))
      | none =>
        if accepted.any (·.field = field) then
          .error (.configuration (.repeatedField field table))
        else extend table naming overrides (accepted ++ [⟨field, column⟩]) rest

theorem nodup_map_append_singleton {α β : Type} {f : α → β} {xs : List α} {x : α}
    (h : (xs.map f).Nodup) (hx : ∀ y ∈ xs, f y ≠ f x) : ((xs ++ [x]).map f).Nodup := by
  rw [List.map_append, List.map_singleton, List.nodup_append]
  refine ⟨h, by simp, ?_⟩
  intro b hb c hc
  obtain ⟨y, hy, rfl⟩ := List.mem_map.mp hb
  rw [List.mem_singleton.mp hc]
  exact hx y hy

/-- Fields that are added one by one stay distinct, and so do their columns. -/
theorem extend_nodup {table : String} {naming : Naming} {overrides : List FieldColumn}
    {fields : List String} {accepted pairs : List FieldColumn}
    (hf : (accepted.map (·.field)).Nodup) (hc : (accepted.map (·.column)).Nodup)
    (h : extend table naming overrides accepted fields = .ok pairs) :
    (pairs.map (·.field)).Nodup ∧ (pairs.map (·.column)).Nodup := by
  induction fields generalizing accepted with
  | nil =>
    cases h
    exact ⟨hf, hc⟩
  | cons field rest ih =>
    simp only [extend] at h
    split at h
    · cases h
    · split at h
      · cases h
      · rename_i hcolumn
        split at h
        · cases h
        · rename_i hfield
          refine ih (nodup_map_append_singleton hf ?_) (nodup_map_append_singleton hc ?_) h
          · intro y hy he
            exact hfield (List.any_eq_true.mpr ⟨y, hy, decide_eq_true he⟩)
          · intro y hy he
            exact List.find?_eq_none.mp hcolumn y hy (decide_eq_true he)

/-- The column map of a table; refuses a blank table name, overrides of undeclared fields, empty
column names, and two fields with one column. -/
def build (table : String) (fields : List String) (naming : Naming)
    (overrides : List FieldColumn) : Except StoreError ColumnMap :=
  if Text.isAllBlank table then .error (.configuration .blankTable)
  else match overrides.find? fun o => !fields.contains o.field with
    | some o => .error (.unknownField table o.field)
    | none => match h : extend table naming overrides [] fields with
      | .error e => .error e
      | .ok pairs =>
        have distinct := extend_nodup (by simp) (by simp) h
        .ok ⟨table, pairs, distinct.1, distinct.2⟩

/-! ## Renaming -/

def fields (m : ColumnMap) : List String := m.pairs.map (·.field)

def column? (m : ColumnMap) (field : String) : Option String :=
  (m.pairs.find? (·.field = field)).map (·.column)

/-- The column of a declared field. -/
def column (m : ColumnMap) (field : String) : Except StoreError String :=
  match m.column? field with
  | some column => .ok column
  | none => .error (.unknownField m.table field)

/-- The field of a column, if one is declared for it. -/
def field? (m : ColumnMap) (column : String) : Option String :=
  (m.pairs.find? (·.column = column)).map (·.field)

/-- Renames the cells of a record to columns; the first undeclared field is refused. -/
def toColumns (m : ColumnMap) (record : Row) : Except StoreError Row := do
  let entries ← record.entries.mapM fun (field, cell) => do pure (← m.column field, cell)
  pure (Row.ofEntries entries)

/-- Renames the cells of a row to fields; columns without a field are left out. -/
def toFields (m : ColumnMap) (row : Row) : Row :=
  Row.ofEntries (row.entries.filterMap fun (column, cell) =>
    (m.field? column).map fun field => (field, cell))

end ColumnMap

end Tenancy
