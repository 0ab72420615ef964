import Tenancy.Store.Basic

/-!
# Writing records

Creation, insertion, update and deletion of records of the active tenant. A record that is saved
under an id that the tenant holds already goes over the stored one.
-/

namespace Tenancy.Store

variable {ρ : Type}

/-- A record that is not stored yet, from some of its fields. -/
def create (s : Store ρ) (partialRecord : Json) : Program ρ ρ := do
  let tenant ← s.requireTenant "create"
  let cells ← match partialRecord with
    | .object fields => pure (Row.ofEntries fields)
    | .null => pure Row.empty
    | other => Program.fail (.serialization (.partialNoObject other))
  let cells := cells.insert s.descriptor.tenantField (.string tenant.text)
  Program.ofExcept (s.decodeJson cells.toJson)

/-- Saves records with one command, all or none; an empty list needs no command. -/
def saveAll (s : Store ρ) (records : List ρ) : Program ρ (List ρ) := do
  let tenant ← s.requireTenant "save"
  if records.isEmpty then return []
  let rows ← Program.ofExcept (records.mapM (s.encodeRow tenant))
  let saved : List Row ← Program.send (.upsert s.table rows)
  Program.ofExcept (s.decodeRows saved)

def save (s : Store ρ) (record : ρ) : Program ρ ρ := do
  match (← s.saveAll [record]).getLast? with
  | some saved => pure saved
  | none => Program.fail (.database (.savedNothing s.table.name))

/-- Inserts records with one command, all or none; an empty list needs no command. -/
def insertAll (s : Store ρ) (records : List ρ) : Program ρ (List ρ) := do
  let tenant ← s.requireTenant "insert"
  if records.isEmpty then return []
  let rows ← Program.ofExcept (records.mapM (s.encodeRow tenant))
  let inserted : List Row ← Program.send (.insert s.table rows)
  Program.ofExcept (s.decodeRows inserted)

def insert (s : Store ρ) (record : ρ) : Program ρ ρ := do
  match (← s.insertAll [record]).getLast? with
  | some inserted => pure inserted
  | none => Program.fail (.database (.insertedNothing s.table.name))

/-- Changes all records that the filter matches, deleted ones included, and counts them. A patch
without assignments needs no command. -/
def update (s : Store ρ) (filter : Filter) (patch : Patch) : Program ρ Nat := do
  let tenant ← s.requireTenant "update"
  let conditions ← Program.ofExcept (s.scopeConditions filter)
  let assignments ← Program.ofExcept (s.resolvePatch patch)
  if assignments.isEmpty then return 0
  let updated : List Row ← Program.send (.update s.table tenant conditions assignments)
  pure updated.length

/-- Whether there was a record with that id to change. -/
def updateById (s : Store ρ) (id : Value) (patch : Patch) : Program ρ Bool := do
  pure (0 < (← s.update (s.idFilter id) patch))

/-- Removes all records that the filter matches and counts them. -/
def delete (s : Store ρ) (filter : Filter) : Program ρ Nat := do
  let tenant ← s.requireTenant "delete"
  let conditions ← Program.ofExcept (s.scopeConditions filter)
  Program.send (.delete s.table tenant conditions)

/-! ## Soft deletion -/

/-- The field that marks records as deleted. -/
def softDeleteField (s : Store ρ) : Except StoreError String :=
  match s.descriptor.softDeleteField with
  | some field => .ok field
  | none => .error (.configuration (.noSoftDelete s.table.name))

/-- Marks the matching records as deleted now; those that are marked already keep their time. -/
def softDelete (s : Store ρ) (filter : Filter) : Program ρ Nat := do
  let _ ← s.requireTenant "soft_delete"
  let field ← Program.ofExcept s.softDeleteField
  let now ← Program.time
  s.update (filter.require field .isNull) (Patch.empty.set field (.timestamp now))

/-- Takes the mark off the matching records that carry it. -/
def restore (s : Store ρ) (filter : Filter) : Program ρ Nat := do
  let _ ← s.requireTenant "restore"
  let field ← Program.ofExcept s.softDeleteField
  s.update (filter.require field .isNotNull) (Patch.empty.set field .null)

end Tenancy.Store
