import Tenancy.Sql.Scoped
import Tenancy.Store.Basic

/-!
# Queries in SQL on a store
-/

namespace Tenancy.Store

variable {ρ : Type}

/-- A query in SQL on the rows of the active tenant. The name stands for the row of the table in
the parts that the caller adds. -/
def sqlQuery (s : Store ρ) (name : String) : Program ρ Sql.ScopedSelect := do
  let tenant ← s.requireTenant "scoped_sql"
  Program.ofExcept (Sql.ScopedSelect.ofTable s.table name tenant)

end Tenancy.Store
