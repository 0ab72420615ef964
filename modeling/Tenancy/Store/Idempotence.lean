import Tenancy.Store.Query
import Tenancy.Store.Writes

/-!
# Idempotent inserts

A caller-supplied key makes an insert repeatable: the table has a unique key over the tenant and
the key field, and an insert that collides on it hands back the record that is there.
-/

namespace Tenancy

/-- Whether a record is new or was there already. -/
inductive Insertion (ρ : Type) where
  | inserted (record : ρ)
  | existing (record : ρ)

namespace Insertion

variable {ρ : Type}

def record : Insertion ρ → ρ
  | .inserted r | .existing r => r

def wasInserted : Insertion ρ → Bool
  | .inserted _ => true
  | .existing _ => false

end Insertion

/-- Inserts into a store, at most one record for each key. -/
structure IdempotentWriter (ρ : Type) where
  store : Store ρ
  keyField : String

namespace IdempotentWriter

variable {ρ : Type}

/-- The writer for a declared key field other than the tenant field. -/
def ofKey (store : Store ρ) (keyField : String) : Except StoreError (IdempotentWriter ρ) := do
  let _ ← store.columns.column keyField
  if store.isTenantField keyField then throw (.configuration .tenantAsKey)
  pure ⟨store, keyField⟩

/-- The record that holds the key, deleted or not. -/
def findByKey (w : IdempotentWriter ρ) (key : Value) : Program ρ (Option ρ) := do
  let query ← w.store.query
  ({ query with withDeleted := true }.restrict (.ofEq w.keyField key)).fetchOne

/-- Inserts a record or finds the one that holds its key. A record without a key is saved. If the
record that held the key is gone when it is looked for, the insert is tried once more. -/
def save (w : IdempotentWriter ρ) (record : ρ) : Program ρ (Insertion ρ) := do
  let _ ← w.store.requireTenant "save_with_idempotency"
  match ← Program.ofExcept (w.store.fieldValue record w.keyField) with
  | none => pure (.inserted (← w.store.save record))
  | some key =>
    match ← Program.attempt (w.store.insert record) with
    | .ok inserted => pure (.inserted inserted)
    | .error (.conflict _) =>
      match ← w.findByKey (.ofJson key) with
      | some existing => pure (.existing existing)
      | none => pure (.inserted (← w.store.insert record))
    | .error e => Program.fail e

end IdempotentWriter

end Tenancy
