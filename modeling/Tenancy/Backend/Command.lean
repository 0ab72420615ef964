import Tenancy.Error
import Tenancy.Patch
import Tenancy.Schema.Table

/-!
# Commands to a backend

The store talks to a backend in a handful of commands that name columns only. All but the writes
of whole rows carry the tenant to which they are confined; rows to be written carry it in their
tenant column.
-/

namespace Tenancy

/-- A read of the rows of one tenant. -/
structure Selection where
  conditions : List Condition
  order : List SortKey
  limit : Option Nat
  offset : Option Nat

namespace Selection

/-- All rows that satisfy the conditions, in no particular order. -/
def ofConditions (conditions : List Condition) : Selection := ⟨conditions, [], none, none⟩

end Selection

/-- The columns of a queue, with the values that mark a row as waiting and as taken. -/
structure ClaimColumns where
  status : String
  pending : Value
  inProgress : Value
  createdAt : String
  nextAttemptAt : String
  /-- A second column before whose time a row is not due. -/
  schedule : Option String
  /-- Stamped with the time of the claim. -/
  claimedAt : Option String

/-- A claim: at most `limit` rows that are due at `now`, oldest first, change from pending to in
progress. -/
structure Claim extends ClaimColumns where
  limit : Nat
  now : Instant

/-- What a store asks of its backend. -/
inductive Command where
  | select (table : Table) (tenant : TenantId) (selection : Selection)
  | count (table : Table) (tenant : TenantId) (conditions : List Condition)
  /-- Writes new rows, all or none. -/
  | insert (table : Table) (rows : List Row)
  /-- Writes rows over those of the same id and tenant, and new ones otherwise, all or none. -/
  | upsert (table : Table) (rows : List Row)
  | update (table : Table) (tenant : TenantId) (conditions : List Condition)
      (assignments : List Assignment)
  | delete (table : Table) (tenant : TenantId) (conditions : List Condition)
  | claim (table : Table) (tenant : TenantId) (claim : Claim)

namespace Command

def name : Command → String
  | .select _ _ _ => "select"
  | .count _ _ _ => "count"
  | .insert _ _ => "insert"
  | .upsert _ _ => "upsert"
  | .update _ _ _ _ => "update"
  | .delete _ _ _ => "delete"
  | .claim _ _ _ => "claim"

/-- What a command answers if it succeeds: rows, or their number. -/
def Result : Command → Type
  | .count _ _ _ | .delete _ _ _ => Nat
  | _ => List Row

end Command

/-- A backend with states `σ`: it carries out commands one at a time. -/
abbrev Backend (σ : Type) := (c : Command) → σ → Except StoreError c.Result × σ

end Tenancy
