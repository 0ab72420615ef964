import Tenancy.Proofs.Backend.Places
import Tenancy.Proofs.Operation

/-!
# Batches and single writes

A batch of rows is staged as a whole before it goes into its table. As each row is checked against
the rows staged before it, the outcome is that of writing the rows one at a time (`oneByOne`). The
two differ only where a row fails: the batch then leaves no row behind, but the ids stay drawn
(`batches_as_one_by_one`).
-/

namespace Tenancy.Memory

variable {table : Table} {rows : List Row} {m : Memory}

/-! ## Rows written one at a time -/

/-- Writes rows with one command each, up to the first that fails. -/
def oneByOne (write : List Row → Memory → Except StoreError (List Row) × Memory) :
    List Row → Memory → Except StoreError (List Row) × Memory
  | [], m => (.ok [], m)
  | row :: rest, m =>
    match write [row] m with
    | (.error e, m) => (.error e, m)
    | (.ok written, m) =>
      let (result, m) := oneByOne write rest m
      (result.map (written ++ ·), m)

/-- One of the rows fails in this way after all rows before it have been written. -/
def FailsFirst (write : List Row → Memory → Except StoreError (List Row) × Memory)
    (rows : List Row) (m : Memory) (e : StoreError) : Prop :=
  ∃ before row after written m', rows = before ++ row :: after ∧
    oneByOne write before m = (.ok written, m') ∧ (write [row] m').1 = .error e

theorem failsFirst_of_oneByOne
    {write : List Row → Memory → Except StoreError (List Row) × Memory} {e : StoreError}
    (h : (oneByOne write rows m).1 = .error e) : FailsFirst write rows m e := by
  induction rows generalizing m with
  | nil => cases h
  | cons row rest ih =>
    cases hFirst : write [row] m with
    | mk outcome m' =>
      rw [oneByOne, hFirst] at h
      cases outcome with
      | error cause =>
        cases h
        exact ⟨[], row, rest, [], m, rfl, rfl, congrArg Prod.fst hFirst⟩
      | ok written =>
        have hRest : (oneByOne write rest m').1 = .error e := by
          dsimp only at h
          cases hResult : (oneByOne write rest m').1 with
          | error cause => rwa [hResult] at h
          | ok others =>
            rw [hResult] at h
            cases h
        obtain ⟨before, next, after, others, m'', rfl, hBefore, hFails⟩ := ih hRest
        refine ⟨row :: before, next, after, written ++ others, m'', rfl, ?_, hFails⟩
        rw [oneByOne, hFirst]
        dsimp only
        rw [hBefore]
        rfl

/-! ## Staged rows -/

/-- The rows of a table and the next id as a write finds them. -/
def staged (m : Memory) (table : Table) : Staged := ⟨m.rows table.name, m.nextId⟩

/-- The tables with staged rows put in place. -/
def commit (m : Memory) (table : Table) (s : Staged) : Memory :=
  { m.setRows table.name s.rows with nextId := s.nextId }

@[simp] theorem staged_commit (m : Memory) (table : Table) (s : Staged) :
    (m.commit table s).staged table = s := by
  have hRows : (m.commit table s).rows table.name = s.rows := rows_setRows_self m table.name s.rows
  rw [staged, hRows]
  rfl

@[simp] theorem commit_commit (m : Memory) (table : Table) (s s' : Staged) :
    (m.commit table s).commit table s' = m.commit table s' := by
  simp only [commit, setRows, setRowsIn_setRowsIn]

variable {one : Row → Staged → Except StoreError Row × Staged}

/-- A batch takes the staged rows over, or nothing but the next id. -/
theorem write_eq (one : Row → Staged → Except StoreError Row × Staged) (table : Table)
    (rows : List Row) (m : Memory) :
    write one table rows m = match stageAll one rows (m.staged table) with
      | (.error e, s) => (.error e, { m with nextId := s.nextId })
      | (.ok written, s) => (.ok written, m.commit table s) := rfl

theorem stageAll_singleton (row : Row) (s : Staged) :
    stageAll one [row] s = ((one row s).1.map ([·]), (one row s).2) := by
  rw [stageAll]
  generalize one row s = outcome
  obtain ⟨e | written, s'⟩ := outcome <;> rfl

/-- From staged rows on, single writes go the way of the staging. -/
theorem oneByOne_commit (m : Memory) (rows : List Row) (s : Staged) :
    (∃ written s', stageAll one rows s = (.ok written, s') ∧
        oneByOne (write one table) rows (m.commit table s) = (.ok written, m.commit table s')) ∨
      ∃ e s' m', stageAll one rows s = (.error e, s') ∧
        oneByOne (write one table) rows (m.commit table s) = (.error e, m') ∧
        m'.nextId = s'.nextId := by
  induction rows generalizing s with
  | nil => exact .inl ⟨[], s, rfl, rfl⟩
  | cons row rest ih =>
    rw [stageAll, oneByOne, write_eq, staged_commit, stageAll_singleton]
    obtain ⟨outcome, s₁⟩ := one row s
    cases outcome with
    | error e => exact .inr ⟨e, s₁, _, rfl, rfl, rfl⟩
    | ok first =>
      simp only [Except.map, commit_commit]
      rcases ih s₁ with ⟨written, s', hStaged, hSingle⟩ | ⟨e, s', m', hStaged, hSingle, hNext⟩
      · exact .inl ⟨first :: written, s', by rw [hStaged], by rw [hSingle]; rfl⟩
      · exact .inr ⟨e, s', m', by rw [hStaged], by rw [hSingle], hNext⟩

/-- A batch ends as the single writes do, or it fails with the same failure and next id. -/
theorem write_cases_oneByOne (hRows : rows ≠ []) (m : Memory) :
    (∃ written m', write one table rows m = (.ok written, m') ∧
        oneByOne (write one table) rows m = (.ok written, m')) ∨
      ∃ e n m', write one table rows m = (.error e, { m with nextId := n }) ∧
        oneByOne (write one table) rows m = (.error e, m') ∧ m'.nextId = n := by
  cases rows with
  | nil => exact absurd rfl hRows
  | cons row rest =>
    -- The first row need not find the table there, and from then on the table is as staged.
    rw [write_eq, oneByOne, write_eq, stageAll_singleton, stageAll]
    obtain ⟨outcome, s⟩ := one row (m.staged table)
    cases outcome with
    | error e => exact .inr ⟨e, s.nextId, _, rfl, rfl, rfl⟩
    | ok first =>
      simp only [Except.map]
      rcases @oneByOne_commit table one m rest s with
        ⟨written, s', hStaged, hSingle⟩ | ⟨e, s', m', hStaged, hSingle, hNext⟩
      · exact .inl ⟨first :: written, m.commit table s', by rw [hStaged], by rw [hSingle]; rfl⟩
      · exact .inr ⟨e, s'.nextId, m', by rw [hStaged], by rw [hSingle], hNext⟩

/-! ## Batches -/

/-- Writing the rows as a batch has the outcome of writing them one at a time. -/
structure AsOneByOne (write : List Row → Memory → Except StoreError (List Row) × Memory)
    (rows : List Row) (m : Memory) : Prop where
  succeeds_iff : (∃ written, (write rows m).1 = .ok written) ↔
    ∃ written, (oneByOne write rows m).1 = .ok written
  /-- A batch that succeeds leaves the same tables and the same next id, with the same answer. -/
  same : ∀ written, (write rows m).1 = .ok written → write rows m = oneByOne write rows m
  fails : ∀ e, (write rows m).1 = .error e → FailsFirst write rows m e
  /-- A batch that fails leaves the rows of all tables as they were. -/
  unchanged : ∀ e, (write rows m).1 = .error e → ∀ name, (write rows m).2.rows name = m.rows name
  nextId : (write rows m).2.nextId = (oneByOne write rows m).2.nextId

theorem write_asOneByOne (one : Row → Staged → Except StoreError Row × Staged) (table : Table)
    (hRows : rows ≠ []) (m : Memory) : AsOneByOne (write one table) rows m := by
  rcases @write_cases_oneByOne table _ one hRows m with
    ⟨written, m', hBatch, hSingle⟩ | ⟨e, n, m', hBatch, hSingle, hNext⟩
  · have hSame : write one table rows m = oneByOne (write one table) rows m :=
      hBatch.trans hSingle.symm
    have hOk : ∀ e, (write one table rows m).1 ≠ .error e := by
      intro e hError
      cases (congrArg Prod.fst hBatch).symm.trans hError
    exact ⟨by rw [hSame], fun _ _ => hSame, fun e hError => absurd hError (hOk e),
      fun e hError => absurd hError (hOk e), by rw [hSame]⟩
  · have hError : ∀ written, (write one table rows m).1 ≠ .ok written := by
      intro written hOk
      cases (congrArg Prod.fst hBatch).symm.trans hOk
    have hFirst : FailsFirst (write one table) rows m e :=
      failsFirst_of_oneByOne (congrArg Prod.fst hSingle)
    refine ⟨?_, fun written hOk => absurd hOk (hError written), ?_, ?_, ?_⟩
    · rw [hBatch, hSingle]
    · intro cause hCause
      cases (congrArg Prod.fst hBatch).symm.trans hCause
      exact hFirst
    · intro cause _ name
      exact congrArg (fun outcome => outcome.2.rows name) hBatch
    · rw [hBatch, hSingle]
      exact hNext.symm

/-- **Batches are as good as single writes, and all or nothing.** An insertion of at least one row
succeeds exactly if its rows can be inserted one at a time, and then leaves the same tables and the
same next id, with the answers put together. Otherwise it fails as the first row does that fails
when the rows are inserted one at a time, and no table changes. So does an upsert. -/
theorem batches_as_one_by_one (table : Table) {rows : List Row} (hRows : rows ≠ []) (m : Memory) :
    AsOneByOne (insert table) rows m ∧ AsOneByOne (upsert table) rows m :=
  ⟨write_asOneByOne (insertOne table) table hRows m,
    write_asOneByOne (upsertOne table) table hRows m⟩

/-- Of two new jobs the second has the id that is drawn for the first. It is refused, neither is
there afterwards, and the id stays drawn. -/
theorem jobs_inserted_one_by_one :
    let unnamed : Row := .ofEntries [("tenant_id", .string Jobs.tenant.text)]
    let rows := [unnamed, unnamed.insert "id" (Json.ofInt64 1)]
    let conflict := StoreError.conflict (.duplicateKey "jobs" ["id"])
    rows ≠ [] ∧ FailsFirst (insert Jobs.store.table) rows .empty conflict ∧
      (empty.insert Jobs.store.table rows).2.rows "jobs" = [] ∧
      (oneByOne (insert Jobs.store.table) rows .empty).2.nextId = 2 := by
  intro unnamed rows conflict
  have hRows : rows ≠ [] := List.cons_ne_nil _ _
  have hError : (empty.insert Jobs.store.table rows).1 = .error conflict := rfl
  obtain ⟨hInsert, -⟩ := batches_as_one_by_one Jobs.store.table hRows .empty
  exact ⟨hRows, hInsert.fails _ hError, hInsert.unchanged _ hError "jobs", hInsert.nextId.symm⟩

end Tenancy.Memory
