import Tenancy.Proofs.Backend.Places
import Tenancy.Proofs.Operation
import Tenancy.Proofs.Order
import Tenancy.Proofs.Uuid

/-!
# What a claim takes and what it changes

A row is `Eligible` if it belongs to the tenant, waits, is due, and does not count as deleted.
`claim_takes_oldest` says which of these rows a claim takes, how they change, and that nothing else
does. It needs an order among the eligible rows: comparison must be transitive on their creation
times and on their ids, and no two of their ids may be equal.
-/

namespace Tenancy.Memory

variable {table : Table} {tenant : TenantId} {c : Claim} {rows : List Row} {m : Memory}

/-! ## Eligible rows -/

/-- The cell is `null` or names a time that is not after `now`. -/
def Due (now : Instant) (cell : Json) : Prop :=
  cell = .null ∨ ∃ text time, cell = .string text ∧ Rfc3339.ofText? text = some time ∧
    (time.compare now).isLE

/-- The tenant may claim the row. -/
structure Eligible (table : Table) (tenant : TenantId) (c : Claim) (row : Row) : Prop where
  owned : ∃ text, row.cell table.tenantColumn = .string text ∧
    Uuid.ofText? text = some tenant.uuid
  pending : c.pending.compareCell? (row.cell c.status) = some .eq
  due : Due c.now (row.cell c.nextAttemptAt)
  scheduled : ∀ column, c.schedule = some column → Due c.now (row.cell column)
  visible : ∀ column, table.softDeleteColumn = some column → row.cell column = .null

theorem isNull_iff {cell : Json} : cell.isNull ↔ cell = .null := by
  cases cell <;> simp [Json.isNull]

theorem isDue_iff {now : Instant} {cell : Json} : isDue now cell ↔ Due now cell := by
  have hHolds : (Test.le (.timestamp now)).holds cell ↔
      ∃ text time, cell = .string text ∧ Rfc3339.ofText? text = some time ∧
        (time.compare now).isLE := by
    cases cell with
    | string text =>
      cases hRead : Rfc3339.ofText? text with
      | none => simp [Test.holds, Value.matchesCell, Value.compareCell?, hRead]
      | some time =>
        simp [Test.holds, Value.matchesCell, Value.compareCell?, hRead,
          Ordering.isLE_iff_eq_lt_or_eq_eq]
    | _ => simp [Test.holds, Value.matchesCell, Value.compareCell?]
  rw [isDue, Bool.or_eq_true, isNull_iff, hHolds, Due]

theorem ownedBy_iff {row : Row} : ownedBy table tenant row ↔
    ∃ text, row.cell table.tenantColumn = .string text ∧
      Uuid.ofText? text = some tenant.uuid := by
  unfold ownedBy
  cases row.cell table.tenantColumn with
  | string text =>
    cases hRead : Uuid.ofText? text with
    | none => simp [Value.ofTenant, Value.matchesCell, Value.compareCell?, hRead]
    | some owner =>
      simp [Value.ofTenant, Value.matchesCell, Value.compareCell?, hRead, Uuid.compare_eq_iff]
  | _ => simp [Value.ofTenant, Value.matchesCell, Value.compareCell?]

theorem isEligible_iff {row : Row} :
    isEligible table tenant c row ↔ Eligible table tenant c row := by
  have hSchedule : c.schedule.all (fun column => isDue c.now (row.cell column)) ↔
      ∀ column, c.schedule = some column → Due c.now (row.cell column) := by
    simp [Option.all_eq_true, isDue_iff]
  have hVisible : table.softDeleteColumn.all (fun column => (row.cell column).isNull) ↔
      ∀ column, table.softDeleteColumn = some column → row.cell column = .null := by
    simp [Option.all_eq_true, isNull_iff]
  have hPending : c.pending.matchesCell (row.cell c.status) ↔
      c.pending.compareCell? (row.cell c.status) = some .eq := by
    rw [Value.matchesCell, beq_iff_eq]
  simp only [isEligible, Bool.and_eq_true]
  rw [ownedBy_iff, hPending, isDue_iff, hSchedule, hVisible]
  constructor
  · rintro ⟨⟨⟨⟨hOwned, hPending⟩, hDue⟩, hScheduled⟩, hVisible⟩
    exact ⟨hOwned, hPending, hDue, hScheduled, hVisible⟩
  · rintro ⟨hOwned, hPending, hDue, hScheduled, hVisible⟩
    exact ⟨⟨⟨⟨hOwned, hPending⟩, hDue⟩, hScheduled⟩, hVisible⟩

instance (row : Row) : Decidable (Eligible table tenant c row) :=
  decidable_of_iff _ isEligible_iff

/-- The eligible rows of the table, in its order. -/
def eligibleRows (table : Table) (tenant : TenantId) (c : Claim) (m : Memory) : List Row :=
  (m.rows table.name).filter fun row => Eligible table tenant c row

theorem map_eligible (m : Memory) :
    (placesOf (isEligible table tenant c) (m.rows table.name)).map
        (fun i => (m.rows table.name).getD i .empty) = m.eligibleRows table tenant c := by
  rw [map_placesOf, eligibleRows]
  refine List.filter_congr fun row _ => ?_
  rw [Bool.eq_iff_iff, decide_eq_true_iff]
  exact isEligible_iff

/-! ## The order of the claim -/

variable {createdAt id : String}

theorem compareAge_swap (a b : Row) :
    (compareAge createdAt id a b).swap = compareAge createdAt id b a := by
  rw [compareAge, compareAge, Ordering.swap_then, Json.compareCells_swap, Json.compareCells_swap]

theorem compareAge_trans (hCreated : Json.TransOn (rows.map (·.cell createdAt)))
    (hIds : Json.TransOn (rows.map (·.cell id))) : TransAmong (compareAge createdAt id) rows :=
  TransAmong.compareThen (fun a b => Json.compareCells_swap (a.cell createdAt) (b.cell createdAt))
    (TransAmong.of_map hCreated) (TransAmong.of_map hIds)

def compareAt (table : Table) (c : Claim) (rows : List Row) (i j : Nat) : Ordering :=
  compareAge c.createdAt table.idColumn (rows.getD i .empty) (rows.getD j .empty)

/-- The places of all eligible rows in the order of the claim. -/
def oldestFirst (table : Table) (tenant : TenantId) (c : Claim) (rows : List Row) : List Nat :=
  stableSort (compareAt table c rows) (placesOf (isEligible table tenant c) rows)

theorem claimedPlaces_eq (rows : List Row) :
    claimedPlaces table tenant c rows = (oldestFirst table tenant c rows).take c.limit := rfl

theorem mem_oldestFirst {i : Nat} : i ∈ oldestFirst table tenant c rows ↔
    ∃ row, rows[i]? = some row ∧ Eligible table tenant c row := by
  rw [oldestFirst, (stableSort_perm _ _).mem_iff, mem_placesOf]
  simp only [isEligible_iff]

theorem length_oldestFirst (m : Memory) :
    (oldestFirst table tenant c (m.rows table.name)).length =
      (m.eligibleRows table tenant c).length := by
  rw [← map_eligible, List.length_map]
  exact (stableSort_perm _ _).length_eq

/-- A claim takes every eligible row if its limit allows as many. -/
theorem mem_claimedPlaces_of_limit (hLimit : (m.eligibleRows table tenant c).length ≤ c.limit)
    {i : Nat} {row : Row} (hRow : (m.rows table.name)[i]? = some row)
    (hEligible : Eligible table tenant c row) :
    i ∈ claimedPlaces table tenant c (m.rows table.name) := by
  rw [← length_oldestFirst] at hLimit
  rw [claimedPlaces_eq, List.take_of_length_le hLimit]
  exact mem_oldestFirst.mpr ⟨row, hRow, hEligible⟩

theorem oldestFirst_sorted
    (hCreated : Json.TransOn ((m.eligibleRows table tenant c).map (·.cell c.createdAt)))
    (hIds : Json.TransOn ((m.eligibleRows table tenant c).map (·.cell table.idColumn)))
    (hDistinct : ((m.eligibleRows table tenant c).map (·.cell table.idColumn)).Pairwise
      (Json.compareCells · · ≠ .eq)) :
    (oldestFirst table tenant c (m.rows table.name)).Pairwise
      (compareAt table c (m.rows table.name) · · = .lt) := by
  have hMem : ∀ i ∈ placesOf (isEligible table tenant c) (m.rows table.name),
      (m.rows table.name).getD i .empty ∈ m.eligibleRows table tenant c := by
    intro i hi
    rw [← map_eligible]
    exact List.mem_map_of_mem hi
  have hSwap : ∀ i j, (compareAt table c (m.rows table.name) i j).swap =
      compareAt table c (m.rows table.name) j i := fun i j => compareAge_swap _ _
  have hOrdered : (oldestFirst table tenant c (m.rows table.name)).Pairwise
      fun i j => (compareAt table c (m.rows table.name) i j).isLE :=
    stableSort_sorted hSwap fun i hi j hj k hk =>
      compareAge_trans hCreated hIds _ (hMem i hi) _ (hMem j hj) _ (hMem k hk)
  have hPlaces : (placesOf (isEligible table tenant c) (m.rows table.name)).Pairwise
      fun i j => compareAt table c (m.rows table.name) i j ≠ .eq := by
    rw [← map_eligible, List.map_map, List.pairwise_map] at hDistinct
    refine hDistinct.imp fun hIds hEq => hIds ?_
    exact (Ordering.then_eq_eq.mp hEq).2
  have hStrict : (oldestFirst table tenant c (m.rows table.name)).Pairwise
      fun i j => compareAt table c (m.rows table.name) i j ≠ .eq := by
    refine ((stableSort_perm _ _).pairwise_iff ?_).mpr hPlaces
    intro i j hNe hEq
    rw [← hSwap, hEq] at hNe
    exact hNe rfl
  refine (List.pairwise_and_iff.mpr ⟨hOrdered, hStrict⟩).imp ?_
  rintro i j ⟨hLE, hNe⟩
  exact (Ordering.isLE_iff_eq_lt_or_eq_eq.mp hLE).resolve_right hNe

/-! ## The effect -/

/-- The cells of a claimed row: those of the status and of the time of the claim are new. -/
theorem get?_markClaimed (c : Claim) (row : Row) (name : String) :
    (markClaimed c row).get? name =
      if c.claimedAt = some name then some (.string (Rfc3339.text c.now))
      else if name = c.status then some c.inProgress.toJson
      else row.get? name := by
  unfold markClaimed
  cases c.claimedAt with
  | none => simp [Row.get?_insert]
  | some column =>
    simp only [Row.get?_insert, Option.some.injEq, eq_comm (a := column)]
    rfl

/-- **What a claim does.** Where the eligible rows are ordered by creation time and id, a claim
takes rows at some places such that
1. there are as many as the limit allows, and all of them are eligible,
2. they come in strictly ascending order, and before all eligible rows that are left behind,
3. the answer are these rows in this order, with the status in progress and the time of the claim,
4. and the table is as before with these rows replaced; nothing else changes. -/
theorem claim_takes_oldest (table : Table) (tenant : TenantId) (c : Claim) (m : Memory)
    (hCreated : Json.TransOn ((m.eligibleRows table tenant c).map (·.cell c.createdAt)))
    (hIds : Json.TransOn ((m.eligibleRows table tenant c).map (·.cell table.idColumn)))
    (hDistinct : ((m.eligibleRows table tenant c).map (·.cell table.idColumn)).Pairwise
      (Json.compareCells · · ≠ .eq)) :
    ∃ taken : List Nat,
      (taken.length = min c.limit (m.eligibleRows table tenant c).length ∧
        ∀ i ∈ taken, ∃ row, (m.rows table.name)[i]? = some row ∧ Eligible table tenant c row) ∧
      (taken.Pairwise (fun i j => compareAge c.createdAt table.idColumn
          ((m.rows table.name).getD i .empty) ((m.rows table.name).getD j .empty) = .lt) ∧
        ∀ i ∈ taken, ∀ j row, j ∉ taken → (m.rows table.name)[j]? = some row →
          Eligible table tenant c row →
            compareAge c.createdAt table.idColumn ((m.rows table.name).getD i .empty) row = .lt) ∧
      ((m.claim table tenant c).1 =
          taken.map (fun i => markClaimed c ((m.rows table.name).getD i .empty)) ∧
        ∀ row name, (markClaimed c row).get? name =
          if c.claimedAt = some name then some (.string (Rfc3339.text c.now))
          else if name = c.status then some c.inProgress.toJson
          else row.get? name) ∧
      (((m.claim table tenant c).2.rows table.name).length = (m.rows table.name).length ∧
        (∀ i, ((m.claim table tenant c).2.rows table.name)[i]? =
          if i ∈ taken then (m.rows table.name)[i]?.map (markClaimed c)
          else (m.rows table.name)[i]?) ∧
        (∀ name, name ≠ table.name → (m.claim table tenant c).2.rows name = m.rows name) ∧
        (m.claim table tenant c).2.nextId = m.nextId) := by
  have hSorted := oldestFirst_sorted hCreated hIds hDistinct
  have hSplit := List.take_append_drop c.limit (oldestFirst table tenant c (m.rows table.name))
  rw [← hSplit, ← claimedPlaces_eq, List.pairwise_append] at hSorted
  obtain ⟨hTaken, -, hBefore⟩ := hSorted
  refine ⟨claimedPlaces table tenant c (m.rows table.name), ⟨?_, ?_⟩, ⟨hTaken, ?_⟩, ⟨rfl, ?_⟩,
    ?_, ?_, ?_, rfl⟩
  · rw [claimedPlaces_eq, List.length_take, length_oldestFirst]
  · intro i hi
    exact mem_oldestFirst.mp (List.mem_of_mem_take hi)
  · intro i hi j row hLeft hRow hEligible
    have hDrop : j ∈ (oldestFirst table tenant c (m.rows table.name)).drop c.limit := by
      have hj := mem_oldestFirst.mpr ⟨row, hRow, hEligible⟩
      rw [← hSplit, List.mem_append] at hj
      exact hj.resolve_left hLeft
    have hLt := hBefore i hi j hDrop
    rw [compareAt, getD_of_getElem? hRow] at hLt
    exact hLt
  · exact get?_markClaimed c
  · rw [rows_claim, length_changeAt]
  · intro i
    rw [rows_claim]
    exact getElem?_changeAt _ (claimedPlaces_nodup _ _ _ _) _ i
  · intro name hName
    exact rows_setRows_of_ne m _ hName

/-- Of two waiting jobs a claim of one job takes one. -/
theorem jobs_claimed :
    ∃ taken : List Nat, taken.length = 1 ∧
      (Memory.claim Jobs.store.table Jobs.tenant Jobs.claim
        ⟨[("jobs", [Jobs.waiting "b", Jobs.waiting "a"])], 1⟩).1 =
          taken.map (fun i => markClaimed Jobs.claim
            ([Jobs.waiting "b", Jobs.waiting "a"].getD i .empty)) := by
  have hEligible : eligibleRows Jobs.store.table Jobs.tenant Jobs.claim
      ⟨[("jobs", [Jobs.waiting "b", Jobs.waiting "a"])], 1⟩ =
        [Jobs.waiting "b", Jobs.waiting "a"] := rfl
  have hCells : ∀ column ∈ ["created_at", "id"],
      Json.TransOn ([Jobs.waiting "b", Jobs.waiting "a"].map (·.cell column)) := by
    decide +kernel
  have hDistinct : ([Jobs.waiting "b", Jobs.waiting "a"].map (·.cell "id")).Pairwise
      (Json.compareCells · · ≠ .eq) := by
    decide +kernel
  rw [← hEligible] at hCells hDistinct
  obtain ⟨taken, ⟨hLength, -⟩, -, ⟨hAnswer, -⟩, -⟩ := claim_takes_oldest Jobs.store.table
    Jobs.tenant Jobs.claim ⟨[("jobs", [Jobs.waiting "b", Jobs.waiting "a"])], 1⟩
    (hCells "created_at" (by simp)) (hCells "id" (by simp)) hDistinct
  rw [hEligible] at hLength
  exact ⟨taken, hLength, hAnswer⟩

end Tenancy.Memory
