import Tenancy.Schema.ColumnMap

/-!
# Tables

A `Descriptor` declares the layout of one type of records by field names. `Descriptor.resolve`
checks it and gives the column map and the `Table`, which is what a backend sees: column names
only.
-/

namespace Tenancy

/-- The columns of a table that its backend has to know. -/
structure Table where
  name : String
  idColumn : String
  tenantColumn : String
  /-- Set on rows that count as deleted. -/
  softDeleteColumn : Option String
  uniqueKeys : List (List String)
deriving DecidableEq, Repr

/-- The declared layout of one type of records. -/
structure Descriptor where
  table : String
  fields : List String
  idField : String
  tenantField : String
  softDeleteField : Option String
  uniqueKeys : List (List String)
  naming : Naming
  overrides : List FieldColumn

namespace Descriptor

/-- A table with these fields, the id field `id` and the tenant field `tenant_id`. -/
def ofFields (table : String) (fields : List String) : Descriptor :=
  ⟨table, fields, "id", "tenant_id", none, [], .identity, []⟩

/-- The columns of one unique key. -/
def resolveKey (columns : ColumnMap) (key : List String) : Except StoreError (List String) :=
  if key.isEmpty then .error (.configuration .emptyUniqueKey) else key.mapM columns.column

/-- The column map and the table; every field that the descriptor names must be declared. -/
def resolve (d : Descriptor) : Except StoreError (ColumnMap × Table) := do
  let columns ← ColumnMap.build d.table d.fields d.naming d.overrides
  if d.idField = d.tenantField then throw (.configuration (.idIsTenant d.idField))
  let idColumn ← columns.column d.idField
  let tenantColumn ← columns.column d.tenantField
  let softDeleteColumn ← d.softDeleteField.mapM columns.column
  let uniqueKeys ← d.uniqueKeys.mapM (resolveKey columns)
  pure (columns, ⟨d.table, idColumn, tenantColumn, softDeleteColumn, uniqueKeys⟩)

end Descriptor

end Tenancy
