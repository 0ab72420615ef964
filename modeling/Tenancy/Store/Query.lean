import Tenancy.Store.Basic
import Tenancy.Store.Reads

/-!
# Queries

A `Query` collects conditions, an order and a range, and is pinned to the tenant that was active
when it was made. It can be read as a list, as its first record, or as a number.
-/

namespace Tenancy

/-- A read of a store under one tenant. -/
structure Query (ρ : Type) where
  store : Store ρ
  tenant : TenantId
  filter : Filter
  order : List SortKey
  limit : Option Nat
  offset : Option Nat
  /-- Records that count as deleted are found, too. -/
  withDeleted : Bool

/-- A query for all records of the active tenant. -/
def Store.query {ρ : Type} (s : Store ρ) : Program ρ (Query ρ) := do
  let tenant ← s.requireTenant "scoped_query"
  pure ⟨s, tenant, .all, [], none, none, false⟩

namespace Query

variable {ρ : Type}

/-- Adds the conditions of a filter. -/
def restrict (q : Query ρ) (filter : Filter) : Query ρ :=
  { q with filter := q.filter.and filter }

/-- Adds one condition. -/
def require (q : Query ρ) (field : String) (test : Test) : Query ρ :=
  { q with filter := q.filter.require field test }

/-- Adds a criterion behind those there are. -/
def orderBy (q : Query ρ) (field : String) (direction : Direction) : Query ρ :=
  { q with order := q.order ++ [⟨field, direction⟩] }

def conditions (q : Query ρ) : Except StoreError (List Condition) :=
  if q.withDeleted then q.store.scopeConditions q.filter else q.store.visibleConditions q.filter

/-- The command's selection with a limit of the caller's choice. -/
def selection (q : Query ρ) (limit : Option Nat) : Except StoreError Selection := do
  let conditions ← q.conditions
  let order ← q.store.resolveOrder q.order
  pure ⟨conditions, order, limit, q.offset⟩

def fetchAll (q : Query ρ) : Program ρ (List ρ) := do
  q.store.selectRecords q.tenant (← Program.ofExcept (q.selection q.limit))

/-- The first record; the limit of the query does not matter. -/
def fetchOne (q : Query ρ) : Program ρ (Option ρ) := do
  let found ← q.store.selectRecords q.tenant (← Program.ofExcept (q.selection (some 1)))
  pure found.getLast?

/-- The number of records; order, limit and offset do not matter. -/
def count (q : Query ρ) : Program ρ Nat := do
  let conditions ← Program.ofExcept q.conditions
  Program.send (.count q.store.table q.tenant conditions)

end Query

end Tenancy
