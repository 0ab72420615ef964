import Tenancy.Program

/-!
# The store

A `Store` keeps records of one type in one table and confines every operation to the active
tenant. Here are its type, the search for the tenant, and the way between fields and columns:
what a caller says about the tenant field is dropped, and every written row carries the active
tenant.
-/

namespace Tenancy

/-- How records of type `ρ` become JSON and back; both ways may fail with a text. -/
structure Codec (ρ : Type) where
  encode : ρ → Except String Json
  decode : Json → Except String ρ

/-- Records that are JSON values themselves. -/
def Codec.json : Codec Json := ⟨.ok, .ok⟩

/-- Where a store takes its tenant from. -/
inductive TenantContext where
  /-- One tenant for good. -/
  | pinned (tenant : TenantId)
  /-- The tenant that is active where an operation runs. -/
  | ambient

/-- The tenant that the context reports, if any. -/
def TenantContext.current {ρ : Type} : TenantContext → Program ρ (Option TenantId)
  | .pinned t => pure (some t)
  | .ambient => Program.activeTenant

/-- Records of type `ρ` in the table of a descriptor. -/
structure Store (ρ : Type) where
  codec : Codec ρ
  context : TenantContext
  descriptor : Descriptor
  columns : ColumnMap
  table : Table
  resolved : descriptor.resolve = .ok (columns, table)

namespace Store

variable {ρ : Type}

/-- The store of a descriptor, if the descriptor is accepted. -/
def ofDescriptor (codec : Codec ρ) (context : TenantContext) (descriptor : Descriptor) :
    Except StoreError (Store ρ) :=
  match h : descriptor.resolve with
  | .ok (columns, table) => .ok ⟨codec, context, descriptor, columns, table, h⟩
  | .error e => .error e

/-- The active tenant; an operation that finds none fails before it does anything else. -/
def requireTenant (s : Store ρ) (operation : String) : Program ρ TenantId := do
  match ← s.context.current with
  | some t => pure t
  | none => Program.fail (.missingTenant operation)

/-- The active tenant. -/
def tenant (s : Store ρ) : Program ρ TenantId := s.requireTenant "tenant_id"

/-! ## From fields to columns -/

def isTenantField (s : Store ρ) (field : String) : Bool := field == s.descriptor.tenantField

/-- The conditions of a filter on columns, without those on the tenant field. -/
def scopeConditions (s : Store ρ) (filter : Filter) : Except StoreError (List Condition) :=
  (filter.conditions.filter (!s.isTenantField ·.name)).mapM fun c => do
    pure ⟨← s.columns.column c.name, c.test⟩

/-- The conditions for reads: rows that count as deleted stay out. -/
def visibleConditions (s : Store ρ) (filter : Filter) : Except StoreError (List Condition) := do
  let conditions ← s.scopeConditions filter
  match s.table.softDeleteColumn with
  | some column => pure (conditions ++ [⟨column, .isNull⟩])
  | none => pure conditions

/-- The assignments of a patch on columns, without those to the tenant field. -/
def resolvePatch (s : Store ρ) (patch : Patch) : Except StoreError (List Assignment) :=
  (patch.assignments.filter (!s.isTenantField ·.name)).mapM fun a => do
    pure ⟨← s.columns.column a.name, a.value⟩

def resolveOrder (s : Store ρ) (order : List SortKey) : Except StoreError (List SortKey) :=
  order.mapM fun key => do pure ⟨← s.columns.column key.name, key.direction⟩

/-! ## Records and rows -/

/-- The cells of a record by field. -/
def recordCells (s : Store ρ) (record : ρ) : Except StoreError Row :=
  match s.codec.encode record with
  | .ok (.object fields) => .ok (Row.ofEntries fields)
  | .ok other => .error (.serialization (.recordNoObject other))
  | .error text => .error (.serialization (.reported text))

/-- The row to be written for a record: it carries the tenant, and a `null` id is left out so
that the backend draws one. -/
def encodeRow (s : Store ρ) (tenant : TenantId) (record : ρ) : Except StoreError Row := do
  let cells ← s.recordCells record
  let cells := cells.insert s.descriptor.tenantField (.string tenant.text)
  let cells :=
    if (cells.cell s.descriptor.idField).isNull then cells.erase s.descriptor.idField else cells
  s.columns.toColumns cells

/-- The record of some JSON value. -/
def decodeJson (s : Store ρ) (json : Json) : Except StoreError ρ :=
  match s.codec.decode json with
  | .ok record => .ok record
  | .error text => .error (.serialization (.reported text))

/-- The record of a stored row. -/
def decodeRow (s : Store ρ) (row : Row) : Except StoreError ρ :=
  s.decodeJson (s.columns.toFields row).toJson

def decodeRows (s : Store ρ) (rows : List Row) : Except StoreError (List ρ) :=
  rows.mapM s.decodeRow

/-- The cell of one declared field of a record, if there is one other than `null`. -/
def fieldValue (s : Store ρ) (record : ρ) (field : String) : Except StoreError (Option Json) := do
  let _ ← s.columns.column field
  let cells ← s.recordCells record
  pure ((cells.get? field).filter (!·.isNull))

/-- The id of a record; the `null` value if it has none. -/
def recordId (s : Store ρ) (record : ρ) : Except StoreError Value := do
  match ← s.fieldValue record s.descriptor.idField with
  | some cell => pure (.ofJson cell)
  | none => pure .null

/-- The records with this id. -/
def idFilter (s : Store ρ) (id : Value) : Filter := .ofEq s.descriptor.idField id

end Store

end Tenancy
