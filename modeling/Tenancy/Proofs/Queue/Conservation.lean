import Tenancy.Proofs.Commands
import Tenancy.Proofs.Isolation

/-!
# Write-backs change one row, and queues keep their rows

In a table without collisions the id of a record leads back to the one row that it was read from, as
long as both spell it alike. A write-back under this id changes that row, in the columns of the
fields that it names, or it fails and changes nothing (`Queue.HitsOrConflicts`). Whatever queues and
workers do one after the other, the rows of the table stay the same ones in the same order, and so
do all of their cells that the queue does not write (`Memory.KeepsRows`). `write_backs_exact` states
both.

Unique keys are blind to how an instant or a number is spelled, but write-backs are not: under
another spelling of an id they miss the row or hit one more (`Jobs.respelled_ids_astray`).
-/

namespace Tenancy

variable {ρ ρ' α β : Type}

/-! ## Tables that keep their rows -/

/-- The column is that of none of these fields. -/
def ColumnMap.HoldsNone (columns : ColumnMap) (fields : List String) (column : String) : Prop :=
  ∀ field ∈ fields, columns.column? field ≠ some column

/-- The table has the same rows in the same order, each with its cells in the kept columns, and all
other tables are as before. -/
structure Memory.KeepsRows (table : Table) (kept : String → Prop) (m m' : Memory) : Prop where
  length : (m'.rows table.name).length = (m.rows table.name).length
  cells : ∀ (i : Nat) row, (m.rows table.name)[i]? = some row →
    ∃ row', (m'.rows table.name)[i]? = some row' ∧
      ∀ column, kept column → row'.get? column = row.get? column
  elsewhere : ∀ name, name ≠ table.name → m'.rows name = m.rows name

namespace Memory.KeepsRows

variable {table : Table} {kept : String → Prop} {m m' m'' : Memory}

theorem refl (m : Memory) : KeepsRows table kept m m :=
  ⟨rfl, fun _ row hRow => ⟨row, hRow, fun _ _ => rfl⟩, fun _ _ => rfl⟩

theorem trans (h : KeepsRows table kept m m') (h' : KeepsRows table kept m' m'') :
    KeepsRows table kept m m'' := by
  refine ⟨h'.length.trans h.length, ?_, ?_⟩
  · intro i row hRow
    obtain ⟨row', hRow', hCells⟩ := h.cells i row hRow
    obtain ⟨row'', hRow'', hCells'⟩ := h'.cells i row' hRow'
    exact ⟨row'', hRow'', fun column hColumn =>
      (hCells' column hColumn).trans (hCells column hColumn)⟩
  · intro name hName
    exact (h'.elsewhere name hName).trans (h.elsewhere name hName)

/-- Rows may be changed at some places if the change leaves the kept columns alone. -/
theorem changeAt {f : Row → Row} {places : List Nat} (hNodup : places.Nodup)
    (hf : ∀ (row : Row) column, kept column → (f row).get? column = row.get? column) :
    KeepsRows table kept m
      (m.setRows table.name (Memory.changeAt f places (m.rows table.name))) := by
  refine ⟨?_, ?_, fun name hName => rows_setRows_of_ne m _ hName⟩
  · rw [rows_setRows_self, length_changeAt]
  · intro i row hRow
    rw [rows_setRows_self, getElem?_changeAt f hNodup, hRow]
    split
    · exact ⟨f row, rfl, hf row⟩
    · exact ⟨row, rfl, fun _ _ => rfl⟩

end Memory.KeepsRows

/-! ## Commands of queues -/

/-- A claim or an update that writes to none of the kept columns of the table. -/
def Command.Spares (table : Table) (kept : String → Prop) : Command → Prop
  | .claim t _ c => t = table ∧ ∀ column ∈ c.stamped, ¬ kept column
  | .update t _ _ assignments => t = table ∧ ∀ a ∈ assignments, ¬ kept a.name
  | .select _ _ _ | .count _ _ _ | .insert _ _ | .upsert _ _ | .delete _ _ _ => False

/-- The program does nothing but claims and updates that spare the kept columns. -/
abbrev Program.Spares (table : Table) (kept : String → Prop) (p : Program ρ α) : Prop :=
  p.Sends (Command.Spares table kept)

theorem Memory.backend_keepsRows {table : Table} {kept : String → Prop} {c : Command}
    (h : c.Spares table kept) (m : Memory) :
    Memory.KeepsRows table kept m (Memory.backend c m).2 := by
  cases c with
  | claim t owner c =>
    obtain ⟨rfl, hStamped⟩ := h
    refine KeepsRows.changeAt (claimedPlaces_nodup _ _ _ _) fun row column hColumn => ?_
    exact get?_markClaimed_of_not_mem (fun hMem => hStamped column hMem hColumn) row
  | update t owner conditions assignments =>
    obtain ⟨rfl, hNames⟩ := h
    rcases update_eq t owner conditions assignments m with ⟨e, hUpdate⟩ | hUpdate
    · rw [backend, hUpdate]
      exact .refl m
    · rw [backend, hUpdate]
      refine .changeAt (placesOf_nodup _ _) fun row column hColumn => ?_
      exact get?_assign_of_ne (fun a ha hName => hNames a ha (hName ▸ hColumn)) row
  | select t owner s => exact h.elim
  | count t owner conditions => exact h.elim
  | insert t rows => exact h.elim
  | upsert t rows => exact h.elim
  | delete t owner conditions => exact h.elim

/-! ## Programs of queues -/

namespace Queue

variable {q : Queue ρ}

/-- The columns that the queue does not write. -/
abbrev Kept (q : Queue ρ) (column : String) : Prop :=
  q.store.columns.HoldsNone q.roles.written column

/-- Claims and reports write to the columns of the queue only. -/
theorem grants_spares (q : Queue ρ) : q.Grants (Command.Spares q.store.table q.Kept) := by
  refine ⟨fun tenant limit now => ⟨rfl, ?_⟩, ?_⟩
  · intro column hColumn hKept
    rcases List.mem_cons.mp hColumn with rfl | hColumn
    · exact hKept _ List.mem_cons_self q.resolution.status
    · obtain ⟨role, hRole, hName⟩ := q.resolution.exists_claimedAt (Option.mem_toList.mp hColumn)
      exact hKept role (by simp [QueueRoles.written, hRole]) hName
  · intro patch _ hFields tenant conditions assignments hAssignments
    refine ⟨rfl, fun a ha hKept => ?_⟩
    obtain ⟨b, hb, hName, -⟩ := exists_left_of_mem (Store.resolvePatch_pairs hAssignments) ha
    obtain ⟨value, hAssigned⟩ := Patch.get?_of_mem (List.mem_of_mem_filter hb)
    exact hKept _ (hFields _ value hAssigned) hName

end Queue

/-! ## Runs of queues on one table -/

namespace Queue

/-- The other queue has the same roles on the same table; its records, its context and its backoff
may differ. -/
def Shares (q : Queue ρ) (q' : Queue ρ') : Prop :=
  q'.roles = q.roles ∧ q'.store.descriptor = q.store.descriptor

/-- What a queue with these roles on this table, or a worker on such a queue, may be asked to do.
Failures are reported to the fields of the queue. -/
inductive Serves (q : Queue ρ) : {ρ' α : Type} → Program ρ' α → Prop
  | claimBatch {ρ' : Type} (q' : Queue ρ') (h : q.Shares q') (limit : Nat) :
      Serves q (q'.claimBatch limit)
  | updateStatus {ρ' : Type} (q' : Queue ρ') (h : q.Shares q') (id status : Value) :
      Serves q (q'.updateStatus id status)
  | markSuccess {ρ' : Type} (q' : Queue ρ') (h : q.Shares q') (id status : Value) :
      Serves q (q'.markSuccess id status)
  | markFailureWith {ρ' : Type} (q' : Queue ρ') (h : q.Shares q') (id : Value) (attempts : Nat)
      (backoff : Backoff) : Serves q (q'.markFailureWith id q'.roles.retryFields attempts backoff)
  | markFailure {ρ' : Type} (q' : Queue ρ') (h : q.Shares q') (id : Value) (attempts : Nat) :
      Serves q (q'.markFailure id attempts)
  | markExhausted {ρ' : Type} (q' : Queue ρ') (h : q.Shares q') (id status : Value)
      (attempts : Nat) : Serves q (q'.markExhausted id status attempts)
  | releaseStale {ρ' : Type} (q' : Queue ρ') (h : q.Shares q') (age : Duration) :
      Serves q (q'.releaseStale age)
  | runOnce {ρ' : Type} (w : Worker ρ') (h : q.Shares w.queue) : Serves q w.runOnce
  | runUntilIdle {ρ' : Type} (w : Worker ρ') (h : q.Shares w.queue) (fuel : Nat)
      (totals : WorkerTotals) : Serves q (w.runUntilIdle fuel totals)

/-- The tables to which such programs lead, one after the other, each for its own tenant and with
its own clock and handler. -/
inductive Leads (q : Queue ρ) (m : Memory) : Memory → Prop
  | start : Leads q m m
  | next {ρ' α τ : Type} {m' : Memory} (h : Leads q m m') {p : Program ρ' α} (hp : q.Serves p)
      (active : Option TenantId) (clock : τ → Instant × τ) (handler : ρ' → τ → Bool × τ) (t : τ) :
      Leads q m ((World.inMemory active clock handler).run p (m', t)).2.1

variable {q : Queue ρ} {q' : Queue ρ'} {m m' : Memory}

/-- Queues with the same roles on the same table write the same columns of it. -/
theorem Shares.kept (h : q.Shares q') : q'.store.table = q.store.table ∧ q'.Kept = q.Kept := by
  obtain ⟨hColumns, hTable⟩ := Store.layout_eq h.2
  refine ⟨hTable, ?_⟩
  funext column
  rw [Kept, Kept, h.1, hColumns]

theorem Serves.spares {p : Program ρ' α} (h : q.Serves p) : p.Spares q.store.table q.Kept := by
  have hKept : ∀ {ρ'' : Type} {q'' : Queue ρ''}, q.Shares q'' →
      q''.Grants (Command.Spares q.store.table q.Kept) := by
    intro ρ'' q'' hShares
    obtain ⟨hTable, hKept⟩ := hShares.kept
    exact hTable ▸ hKept ▸ q''.grants_spares
  cases h with
  | claimBatch q' h limit => exact (hKept h).claimBatch limit
  | updateStatus q' h id status => exact (hKept h).updateStatus id status
  | markSuccess q' h id status => exact (hKept h).updateStatus id status
  | markFailureWith q' h id attempts backoff => exact (hKept h).markFailureWith id attempts backoff
  | markFailure q' h id attempts => exact (hKept h).markFailureWith id attempts _
  | markExhausted q' h id status attempts => exact (hKept h).markExhausted id status attempts
  | releaseStale q' h age => exact (hKept h).releaseStale age
  | runOnce w h => exact w.runOnce_sends (hKept h)
  | runUntilIdle w h fuel totals => exact w.runUntilIdle_sends (hKept h) fuel totals

/-- One program keeps the rows, so a whole run does. -/
theorem Leads.keepsRows (h : q.Leads m m') : Memory.KeepsRows q.store.table q.Kept m m' := by
  induction h with
  | start => exact .refl m
  | next h hp active clock handler t ih =>
    refine hp.spares.run_inMemory ?_ active clock handler ih t
    exact fun c m' hc hm' => hm'.trans (Memory.backend_keepsRows hc m')

end Queue

/-! ## Write-backs of records -/

/-- The record has the id of the row. -/
def Store.HasIdOf (s : Store ρ) (record : ρ) (row : Row) : Prop :=
  s.fieldValue record s.descriptor.idField = .ok (some (row.cell s.table.idColumn))

namespace Store

variable {s : Store ρ} {source row : Row} {record : ρ}

/-- A record that keeps the id of its row has this id. -/
theorem KeepsCell.hasIdOf (h : s.KeepsCell s.descriptor.idField (row.cell s.table.idColumn))
    (hDecode : s.decodeRow row = .ok record) (hNull : row.cell s.table.idColumn ≠ .null) :
    s.HasIdOf record row := by
  rw [HasIdOf, h.fieldValue s.resolution.idColumn hDecode]
  cases hCell : row.cell s.table.idColumn with
  | null => exact absurd hCell hNull
  | _ => rfl

theorem HasIdOf.congr (h : s.HasIdOf record source)
    (hSame : row.cell s.table.idColumn = source.cell s.table.idColumn) : s.HasIdOf record row := by
  rw [HasIdOf, hSame]
  exact h

theorem HasIdOf.recordId (h : s.HasIdOf record row) :
    s.recordId record = .ok (.ofJson (row.cell s.table.idColumn)) := by
  rw [Store.recordId, show s.fieldValue record s.descriptor.idField = _ from h]
  rfl

theorem HasIdOf.ne_null (h : s.HasIdOf record row) : row.cell s.table.idColumn ≠ .null := by
  obtain ⟨name, -, h⟩ := Except.bind_eq_ok.mp h
  obtain ⟨cells, -, h⟩ := Except.bind_eq_ok.mp h
  have hFilter := (Option.filter_eq_some_iff.mp (Except.ok.inj h)).2
  rintro hNull
  rw [hNull] at hFilter
  cases hFilter

end Store

namespace Queue

variable {q : Queue ρ} {tenant : TenantId} {active : Option TenantId} {now : Instant} {m : Memory}
  {i : Nat} {row : Row}

/-- The new row has the values of the patch in the columns of its fields, and it is the old one in
all columns of none of these fields. -/
structure Changed (q : Queue ρ) (patch : Patch) (fields : List String) (old new : Row) : Prop where
  assigned : ∀ field value column, patch.get? field = some value →
    q.store.columns.column? field = some column → new.get? column = some value.toJson
  kept : ∀ column, q.store.columns.HoldsNone fields column → new.get? column = old.get? column

/-- The row at a place alone was changed by the patch, in the columns of these fields, and the
answer is a hit; or there is a conflict, and nothing happened. -/
def HitsOrConflicts (q : Queue ρ) (m : Memory) (i : Nat) (row : Row) (patch : Patch)
    (fields : List String) (hit : α) (outcome : Except Failure α × Memory) : Prop :=
  (∃ row', outcome = (.ok hit,
      m.setRows q.store.table.name ((m.rows q.store.table.name).set i row')) ∧
    q.Changed patch fields row row') ∨
  ∃ key, outcome = (.error (.error (.conflict (.duplicateKey q.store.table.name key))), m)

theorem IsReport.changed {patch : Patch} (h : q.IsReport patch) {fields : List String}
    (hFields : ∀ {field value}, patch.get? field = some value → field ∈ fields) (row : Row) :
    q.Changed patch fields row (q.store.patched patch row) := by
  refine ⟨?_, ?_⟩
  · intro field value column hValue hColumn
    rw [h.get?_patched (h.roles _ _ hValue) hColumn, hValue]
    rfl
  · intro column hColumn
    exact Store.get?_patched_of_ne (fun field _ hValue => hColumn field (hFields hValue)) row

/-- In a table without collisions a report to the id of a row hits this row or conflicts. -/
theorem run_report (hContext : q.store.context.reports active = some tenant)
    (hApart : Memory.KeysApart q.store.table (m.rows q.store.table.name))
    (hRow : (m.rows q.store.table.name)[i]? = some row)
    (hOwned : Memory.ownedBy q.store.table tenant row)
    (hScalar : (row.cell q.store.table.idColumn).isScalar)
    (hNull : row.cell q.store.table.idColumn ≠ .null) {patch : Patch} (hReport : q.IsReport patch)
    {fields : List String}
    (hFields : ∀ {field value}, patch.get? field = some value → field ∈ fields) :
    q.HitsOrConflicts m i row patch fields true ((World.still active now).run
      (q.store.updateById (.ofJson (row.cell q.store.table.idColumn)) patch) m) := by
  have hReached : q.store.reached tenant (.ofJson (row.cell q.store.table.idColumn))
      (m.rows q.store.table.name) = [i] := by
    rw [Store.reached, Store.idCondition, Store.normalized_eq_ofJson hNull]
    exact hApart.placesOf_id hRow hOwned hScalar hNull
  obtain ⟨assignments, hAssignments, hSome⟩ := hReport.exists_assignments
  rw [Store.run_updateById_singleton hContext hAssignments hSome hReached hRow]
  rcases Memory.checkUnique_cases q.store.table ((m.rows q.store.table.name).eraseIdx i)
    (q.store.patched patch row) with hOk | ⟨key, hError⟩
  · rw [hOk]
    refine .inl ⟨_, ?_, hReport.changed hFields row⟩
    rw [Memory.set_eq_modify hRow]
    rfl
  · rw [hError]
    exact .inr ⟨key, rfl⟩

/-- Each write-back under the id, whatever the statuses, the attempts and the backoff are, hits the
row at the place and changes it alone, or conflicts and changes nothing: a change of the status sets
the status, exhaustion sets the status and the attempts and takes off the time of the claim, and a
failure also sets the time of the next attempt. A failure whose delay leads to no instant is refused
and changes nothing. -/
structure WriteBacksHit (q : Queue ρ) (active : Option TenantId) (now : Instant) (m : Memory)
    (i : Nat) (row : Row) (id : Value) : Prop where
  updateStatus : ∀ status, q.HitsOrConflicts m i row (Patch.empty.set q.roles.status status)
    [q.roles.status] true ((World.still active now).run (q.updateStatus id status) m)
  markSuccess : ∀ status, q.HitsOrConflicts m i row (Patch.empty.set q.roles.status status)
    [q.roles.status] true ((World.still active now).run (q.markSuccess id status) m)
  markExhausted : ∀ status attempts, q.HitsOrConflicts m i row
    (q.verdictPatch now (.exhausted status attempts))
    (q.roles.status :: q.roles.attempts :: q.roles.claimedAt.toList) true
    ((World.still active now).run (q.markExhausted id status attempts) m)
  markFailure : ∀ attempts backoff,
    (now.after? (backoff.delay attempts) = none ∧
      (World.still active now).run (q.markFailureWith id q.roles.retryFields attempts backoff) m =
        (.error (.error (.configuration (.delayOutOfRange (backoff.delay attempts)))), m)) ∨
    ∃ next, now.after? (backoff.delay attempts) = some next ∧
      q.HitsOrConflicts m i row (q.retryPatch q.roles.retryFields (nextAttempt attempts) next)
        q.roles.written (some ⟨nextAttempt attempts, backoff.delay attempts, next⟩)
        ((World.still active now).run (q.markFailureWith id q.roles.retryFields attempts backoff) m)

/-- In a table without collisions the scalar id of a row leads its write-backs to the row. -/
theorem writeBacksHit (hContext : q.store.context.reports active = some tenant) (now : Instant)
    (hApart : Memory.KeysApart q.store.table (m.rows q.store.table.name))
    (hRow : (m.rows q.store.table.name)[i]? = some row)
    (hOwned : Memory.ownedBy q.store.table tenant row)
    (hScalar : (row.cell q.store.table.idColumn).isScalar)
    (hNull : row.cell q.store.table.idColumn ≠ .null) :
    q.WriteBacksHit active now m i row (.ofJson (row.cell q.store.table.idColumn)) := by
  have hReports : ∀ {patch : Patch} (_ : q.IsReport patch) {fields : List String}
      (_ : ∀ {field value}, patch.get? field = some value → field ∈ fields),
      q.HitsOrConflicts m i row patch fields true ((World.still active now).run
        (q.store.updateById (.ofJson (row.cell q.store.table.idColumn)) patch) m) :=
    fun hReport => run_report hContext hApart hRow hOwned hScalar hNull hReport
  refine ⟨?_, ?_, ?_, ?_⟩
  · intro status
    exact hReports (q.isReport_statusPatch status) mem_of_statusPatch
  · intro status
    exact hReports (q.isReport_statusPatch status) mem_of_statusPatch
  · intro status attempts
    exact hReports (q.isReport_exhaustedPatch status _) mem_of_exhaustedPatch
  · intro attempts backoff
    rw [run_markFailureWith (w := World.still active now) hContext]
    simp only [World.time_still]
    cases now.after? (backoff.delay attempts) with
    | none => exact .inl ⟨rfl, rfl⟩
    | some next =>
      refine .inr ⟨next, rfl, ?_⟩
      dsimp only
      rcases hReports (q.isReport_retryPatch (nextAttempt attempts) next)
        mem_written_of_retryPatch with ⟨row', hHit, hChanged⟩ | ⟨key, hConflict⟩
      · rw [hHit]
        exact .inl ⟨row', rfl, hChanged⟩
      · rw [hConflict]
        exact .inr ⟨key, rfl⟩

/-- **Write-backs are exact, and queues keep their rows.**
1. Every record that a claim, a read or a write gives was read from a row of the tenant, which the
backend has answered. It has the id of this row if the codec keeps the row's id, and it goes on
having it as long as the row has the same id.
2. In any table without collisions where a row has the id of the record, a scalar, each write-back
under this id hits this row and changes it alone, in the columns that it names, or it conflicts or
is refused and changes nothing (`WriteBacksHit`).
3. Whatever queues with these roles on this table and their workers do, under any tenants, clocks
and handlers, all rows stay where they are with all their cells that the queue does not write, and
so do all other tables. -/
theorem write_backs_exact {τ : Type} (q : Queue ρ) (op : Operation ρ α)
    (hStore : op.store = q.store) (hRead : ¬op.IsCreation) (origin : Option TenantId)
    (clock : τ → Instant × τ) (handler : ρ → τ → Bool × τ) (x : Memory × τ) {a : α}
    (hRun : ((World.inMemory origin clock handler).run op.program x).1 = .ok a) {record : ρ}
    (hRecord : record ∈ op.records a) :
    (∃ owner source, op.tenant? origin = some owner ∧
      source ∈ (World.inMemory origin clock handler).answeredRows op.program x ∧
      Memory.ownedBy q.store.table owner source ∧ q.store.decodeRow source = .ok record ∧
      (q.store.KeepsCell q.store.descriptor.idField (source.cell q.store.table.idColumn) →
        source.cell q.store.table.idColumn ≠ .null →
        ∀ row : Row, row.cell q.store.table.idColumn = source.cell q.store.table.idColumn →
          q.store.HasIdOf record row)) ∧
    (∀ active tenant now m i row, q.store.context.reports active = some tenant →
      Memory.KeysApart q.store.table (m.rows q.store.table.name) →
      (m.rows q.store.table.name)[i]? = some row → Memory.ownedBy q.store.table tenant row →
      q.store.HasIdOf record row → (row.cell q.store.table.idColumn).isScalar →
      ∃ id, q.store.recordId record = .ok id ∧ q.WriteBacksHit active now m i row id) ∧
    ∀ m m', q.Leads m m' →
      (m'.rows q.store.table.name).length = (m.rows q.store.table.name).length ∧
      (∀ (k : Nat) old, (m.rows q.store.table.name)[k]? = some old →
        ∃ new, (m'.rows q.store.table.name)[k]? = some new ∧
          ∀ column, q.store.columns.HoldsNone q.roles.written column →
            new.get? column = old.get? column) ∧
      ∀ name, name ≠ q.store.table.name → m'.rows name = m.rows name := by
  refine ⟨?_, ?_, fun m m' hLeads => ?_⟩
  · cases hTenant : op.tenant? origin with
    | none =>
      rw [op.run_unscoped (w := World.inMemory origin clock handler) hTenant] at hRun
      cases hRun
    | some owner =>
      obtain ⟨source, hSource, hOwner, hDecode⟩ :=
        op.exists_source hTenant hRead clock handler x hRun hRecord
      rw [hStore] at hOwner hDecode
      refine ⟨owner, source, rfl, hSource, hOwner, hDecode, ?_⟩
      exact fun hKeeps hNull row hSame => (hKeeps.hasIdOf hDecode hNull).congr hSame
  · intro active tenant now m i row hContext hApart hRow hOwned hId hScalar
    exact ⟨_, hId.recordId, writeBacksHit hContext now hApart hRow hOwned hScalar hId.ne_null⟩
  · have hKeeps := hLeads.keepsRows
    exact ⟨hKeeps.length, hKeeps.cells, hKeeps.elsewhere⟩

end Queue

/-! ## Jobs that are claimed and written back -/

namespace Jobs

/-- One waiting job in a table of its own. -/
def alone (id : Json) : Memory := ⟨[("jobs", [(waiting "").insert "id" id])], 1⟩

/-- The float 2 ^ 53, to which both of the next two integers are rounded. -/
def floatId : Json := .ofDouble (.ofInt 9007199254740992)

/-- The integer 2 ^ 53. -/
def evenId : Json := .ofInt64 9007199254740992

/-- The integer 2 ^ 53 + 1. -/
def oddId : Json := .ofInt64 9007199254740993

/-- An id that is spelled in another way than in the row leads astray.
1. A job is claimed, and saved again under an id that names the same instant. That is the same row
for the save, and the row has the new spelling. The success of the claimed record finds no row.
2. A ticket is claimed whose row has its id in upper case. The ticket has it in lower case, and its
success finds no row.
3. A job is claimed under a float, and saved again under the integer of the same value. Then a job
is inserted under the next integer, which is rounded to the same float. The success of the claimed
record hits both rows. -/
theorem respelled_ids_astray :
    (∃ record saved row m m' id,
      (World.still (some tenant) epoch).run (queue.claimBatch 1)
          (alone (.string "2020-01-01T00:00:00Z")) = (.ok ⟨[record], epoch⟩, m) ∧
      (World.still (some tenant) epoch).run
          (queue.store.save (.object [("id", .string "2020-01-01T00:00:00.000Z")])) m =
        (.ok saved, m') ∧
      m'.rows "jobs" = [row] ∧ Memory.KeysApart queue.store.table (m'.rows "jobs") ∧
      Json.sameCell (row.cell "id") (.string "2020-01-01T00:00:00Z") ∧
      queue.store.recordId record = .ok id ∧
      (World.still (some tenant) epoch).run (queue.markSuccess id (.text "DONE")) m' =
        (.ok false, m')) ∧
    (∃ ticket row m id,
      (World.still (some tenant) epoch).run (ticketQueue.claimBatch 1)
          (alone (.string "00000000-0000-0000-0000-00000000000A")) =
        (.ok ⟨[ticket], epoch⟩, m) ∧
      m.rows "jobs" = [row] ∧ Memory.KeysApart ticketQueue.store.table (m.rows "jobs") ∧
      ticketQueue.store.decodeRow row = .ok ticket ∧ ticketQueue.store.recordId ticket = .ok id ∧
      (World.still (some tenant) epoch).run (ticketQueue.markSuccess id (.text "DONE")) m =
        (.ok false, m)) ∧
    ∃ record saved added m m' m'' id,
      (World.still (some tenant) epoch).run (queue.claimBatch 1) (alone floatId) =
        (.ok ⟨[record], epoch⟩, m) ∧
      (World.still (some tenant) epoch).run (queue.store.save (.object [("id", evenId)])) m =
        (.ok saved, m') ∧
      (World.still (some tenant) epoch).run (queue.store.insert (.object [("id", oddId)])) m' =
        (.ok added, m'') ∧
      Memory.KeysApart queue.store.table (m''.rows "jobs") ∧
      queue.store.recordId record = .ok id ∧
      ((m''.rows "jobs").map (·.cell "status") = [.string "TAKEN", .null] ∧
        ∃ done, (World.still (some tenant) epoch).run (queue.markSuccess id (.text "DONE")) m'' =
            (.ok true, done) ∧
          (done.rows "jobs").map (·.cell "status") = [.string "DONE", .string "DONE"]) := by
  refine ⟨⟨_, _, _, _, _, _, rfl, rfl, rfl, ?_, ?_, rfl, rfl⟩,
    ⟨_, _, _, _, rfl, rfl, ?_, rfl, rfl, rfl⟩,
    _, _, _, _, _, _, _, rfl, rfl, rfl, ?_, rfl, rfl, _, rfl, rfl⟩
  · decide +kernel
  · decide +kernel
  · decide +kernel
  · decide +kernel

/-- The tables after the first of two waiting jobs was claimed. -/
def firstClaimed : Memory :=
  ((World.still (some tenant) epoch).run (queue.claimBatch 1)
    ⟨[("jobs", [waiting "a", waiting "b"])], 1⟩).2

/-- The job that was claimed has the id of the row it was read from, its success hits the row, and a
worker that takes the other job keeps both of them. -/
theorem claimed_written_back : ∃ record source id,
    failing.run (queue.claimBatch 1) (⟨[("jobs", [waiting "a", waiting "b"])], 1⟩, ()) =
        (.ok ⟨[record], epoch⟩, firstClaimed, ()) ∧
      queue.store.decodeRow source = .ok record ∧ queue.store.HasIdOf record source ∧
      queue.store.recordId record = .ok id ∧
      queue.HitsOrConflicts firstClaimed 0 (Memory.markClaimed claim (waiting "a"))
        (Patch.empty.set "status" (.text "DONE")) ["status"] true
        ((World.still (some tenant) epoch).run (queue.markSuccess id (.text "DONE")) firstClaimed) ∧
      ((failing.run impatient.runOnce (firstClaimed, ())).2.1.rows "jobs").length =
        (firstClaimed.rows "jobs").length := by
  have hRun : (failing.run (Operation.claimBatch queue 1).program
      (⟨[("jobs", [waiting "a", waiting "b"])], 1⟩, ())).1 =
        .ok ⟨[(Memory.markClaimed claim (waiting "a")).toJson], epoch⟩ := rfl
  obtain ⟨⟨owner, source, -, -, -, hDecode, hSource⟩, hWrites, hRuns⟩ :=
    Queue.write_backs_exact queue (.claimBatch queue 1) rfl id (some tenant) _ _ _ hRun
      List.mem_cons_self
  have hKeeps := Store.keepsCell_json (s := queue.store) rfl queue.store.resolution.idColumn
    (source.cell queue.store.table.idColumn)
  have hShown : queue.store.fieldValue (Memory.markClaimed claim (waiting "a")).toJson "id" =
      .ok (some (.string "a")) := rfl
  have hCell : source.cell queue.store.table.idColumn = .string "a" := by
    have hField := hKeeps.fieldValue queue.store.resolution.idColumn hDecode
    have hSome := Except.ok.inj (hField.symm.trans hShown)
    exact Option.some.inj (Option.filter_eq_some_iff.mp hSome).1
  have hApart : Memory.KeysApart queue.store.table (firstClaimed.rows queue.store.table.name) := by
    decide +kernel
  have hOwned : Memory.ownedBy queue.store.table tenant
      (Memory.markClaimed claim (waiting "a")) := by
    decide +kernel
  obtain ⟨id, hId, hHits⟩ := hWrites (some tenant) tenant epoch firstClaimed 0
    (Memory.markClaimed claim (waiting "a")) rfl hApart rfl hOwned rfl rfl
  have hLeads : queue.Leads firstClaimed (failing.run impatient.runOnce (firstClaimed, ())).2.1 :=
    .next .start (.runOnce impatient ⟨rfl, rfl⟩) (some tenant) _ _ ()
  exact ⟨_, source, id, rfl, hDecode, hSource hKeeps (hCell ▸ nofun) source rfl, hId,
    hHits.markSuccess _, (hRuns _ _ hLeads).1⟩

end Jobs

end Tenancy
