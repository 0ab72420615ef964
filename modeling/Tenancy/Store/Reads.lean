import Tenancy.Store.Basic

/-!
# Reading records

Lookups of the records of the active tenant. Records that count as deleted are not found.
-/

namespace Tenancy.Store

variable {ρ : Type}

/-- The records of a tenant in the order and range of a selection. -/
def selectRecords (s : Store ρ) (tenant : TenantId) (selection : Selection) :
    Program ρ (List ρ) := do
  let rows : List Row ← Program.send (.select s.table tenant selection)
  Program.ofExcept (s.decodeRows rows)

def find (s : Store ρ) (filter : Filter) : Program ρ (List ρ) := do
  let tenant ← s.requireTenant "find"
  let conditions ← Program.ofExcept (s.visibleConditions filter)
  s.selectRecords tenant (.ofConditions conditions)

/-- One of the records that the filter matches. -/
def findOne (s : Store ρ) (filter : Filter) : Program ρ (Option ρ) := do
  let tenant ← s.requireTenant "find_one"
  let conditions ← Program.ofExcept (s.visibleConditions filter)
  let found ← s.selectRecords tenant { Selection.ofConditions conditions with limit := some 1 }
  pure found.getLast?

def findOneOrFail (s : Store ρ) (filter : Filter) : Program ρ ρ := do
  match ← s.findOne filter with
  | some record => pure record
  | none => Program.fail (.notFound (.matching s.table.name filter.conditions))

def findById (s : Store ρ) (id : Value) : Program ρ (Option ρ) := s.findOne (s.idFilter id)

def findByIdOrFail (s : Store ρ) (id : Value) : Program ρ ρ := do
  match ← s.findOne (s.idFilter id) with
  | some record => pure record
  | none => Program.fail (.notFound (.withId s.table.name id))

def count (s : Store ρ) (filter : Filter) : Program ρ Nat := do
  let tenant ← s.requireTenant "count"
  let conditions ← Program.ofExcept (s.visibleConditions filter)
  Program.send (.count s.table tenant conditions)

def exists? (s : Store ρ) (filter : Filter) : Program ρ Bool := do
  pure (← s.findOne filter).isSome

end Tenancy.Store
