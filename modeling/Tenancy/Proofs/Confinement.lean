import Tenancy.Proofs.Operation
import Tenancy.Proofs.Schema
import Tenancy.Proofs.Terms

/-!
# Operations keep to their tenant

`Command.ConfinedTo` says what a command of one tenant looks like, and `confined` are the terms
under which every operation runs: the active tenant does not change, the backend answers what it
likes, and the operation sends confined commands only. `Operation.honors_confined` shows this for
every operation, and with it where the records in its result come from.

Without a tenant an operation asks for the tenant and nothing else (`Operation.honors_unscoped`).
-/

namespace Tenancy

/-! ## Terms -/

/-- The rows in an answer of the backend. -/
def Command.rowsIn : (c : Command) → c.Result → List Row
  | .select _ _ _, rows | .update _ _ _ _, rows | .claim _ _ _, rows => rows
  | .insert _ _, rows | .upsert _ _, rows => rows
  | .count _ _ _, _ | .delete _ _ _, _ => []

/-- The row has the tenant in its tenant column. -/
def Row.Carries (table : Table) (tenant : TenantId) (row : Row) : Prop :=
  row.get? table.tenantColumn = some (.string tenant.text)

/-- A command of one tenant on one table: it names the tenant or writes rows that carry it, and
it writes no other tenant into a row. -/
def Command.ConfinedTo (table : Table) (tenant : TenantId) : Command → Prop
  | .select t owner _ | .count t owner _ | .delete t owner _ => t = table ∧ owner = tenant
  | .update t owner _ assignments =>
    t = table ∧ owner = tenant ∧ ∀ a ∈ assignments, a.name ≠ table.tenantColumn
  | .claim t owner c =>
    t = table ∧ owner = tenant ∧ c.status ≠ table.tenantColumn ∧
      c.claimedAt ≠ some table.tenantColumn
  | .insert t rows | .upsert t rows => t = table ∧ ∀ row ∈ rows, row.Carries table tenant

/-- The active tenant stays the same, the rows that the backend answers satisfy `good`, and all
commands are confined to one tenant and table. -/
def confined (ρ : Type) (active : Option TenantId) (table : Table) (tenant : TenantId)
    (good : Row → Prop) : Terms (Question ρ) Question.Answer where
  answers
    | .activeTenant, answer => answer = active
    | .backend c, .ok answer => ∀ row ∈ c.rowsIn answer, good row
    | _, _ => True
  asks
    | .backend c => c.ConfinedTo table tenant
    | _ => True

/-- There is no active tenant, and nothing but the tenant is asked for. -/
def unscoped (ρ : Type) : Terms (Question ρ) Question.Answer where
  answers
    | .activeTenant, answer => answer = none
    | _, _ => True
  asks
    | .activeTenant => True
    | _ => False

/-! ## Rows and assignments of a store -/

namespace Store

variable {ρ : Type} {s : Store ρ} {tenant : TenantId}

theorem resolution (s : Store ρ) : s.descriptor.Resolved s.columns s.table :=
  Descriptor.resolved s.resolved

/-- Every row that is written carries the tenant. -/
theorem encodeRow_carries {record : ρ} {row : Row} (h : s.encodeRow tenant record = .ok row) :
    row.Carries s.table tenant := by
  obtain ⟨cells, -, h⟩ := Except.bind_eq_ok.mp h
  have hGet := ColumnMap.get?_toColumns h s.resolution.tenantColumn
  rw [Row.Carries, hGet]
  split
  · rw [Row.get?_erase, if_neg s.resolution.idField_ne_tenantField.symm]
    exact Row.get?_insert_self _ _ _
  · exact Row.get?_insert_self _ _ _

theorem encodeRows_carry {records : List ρ} {rows : List Row}
    (h : records.mapM (s.encodeRow tenant) = .ok rows) :
    ∀ row ∈ rows, row.Carries s.table tenant := by
  intro row hRow
  obtain ⟨record, -, hRecord⟩ := (Except.mem_mapM h).mp hRow
  exact encodeRow_carries hRecord

/-- No assignment of a resolved patch names the tenant column. -/
theorem resolvePatch_names {patch : Patch} {assignments : List Assignment}
    (h : s.resolvePatch patch = .ok assignments) :
    ∀ a ∈ assignments, a.name ≠ s.table.tenantColumn := by
  intro a ha
  obtain ⟨b, hb, hResolved⟩ := (Except.mem_mapM h).mp ha
  obtain ⟨column, hColumn, hEq⟩ := Except.bind_eq_ok.mp hResolved
  cases Except.ok.inj hEq
  refine ColumnMap.column?_ne (ColumnMap.column_eq_ok_iff.mp hColumn) s.resolution.tenantColumn ?_
  simpa [isTenantField] using (List.mem_filter.mp hb).2

/-- A record that is read from an object with this cell in the field has it in the field too. -/
def KeepsCell (s : Store ρ) (field : String) (cell : Json) : Prop :=
  ∀ (cells : Row) record, cells.cell field = cell → s.decodeJson cells.toJson = .ok record →
    s.fieldValue record field = .ok ((some cell).filter (!·.isNull))

/-- JSON values keep all of their cells. -/
theorem keepsCell_json {s : Store Json} (hCodec : s.codec = .json) {field column : String}
    (hColumn : s.columns.column? field = some column) (cell : Json) : s.KeepsCell field cell := by
  intro cells record hCell hDecode
  have hRecord : record = cells.toJson := by
    rw [decodeJson, hCodec] at hDecode
    exact (Except.ok.inj hDecode).symm
  have hCells : s.recordCells record = .ok cells := by
    rw [recordCells, hCodec, hRecord]
    exact congrArg Except.ok (Row.ofEntries_entries cells)
  have hValue : s.fieldValue record field = .ok ((cells.get? field).filter (!·.isNull)) := by
    rw [Store.fieldValue, ColumnMap.column_eq_ok_iff.mpr hColumn, hCells]
    rfl
  rw [hValue, ← hCell, Row.cell]
  cases cells.get? field <;> rfl

/-- The cell of a row in the column of a field that its record keeps. -/
theorem KeepsCell.fieldValue {field column : String} {row : Row} {record : ρ}
    (h : s.KeepsCell field (row.cell column)) (hColumn : s.columns.column? field = some column)
    (hDecode : s.decodeRow row = .ok record) :
    s.fieldValue record field = .ok ((some (row.cell column)).filter (!·.isNull)) := by
  refine h (s.columns.toFields row) record ?_ hDecode
  rw [Row.cell, ColumnMap.get?_toFields row hColumn, Row.cell]

/-- Where the record of a row keeps the id, its id is the one in the row. -/
theorem KeepsCell.recordId {row : Row} {record : ρ}
    (h : s.KeepsCell s.descriptor.idField (row.cell s.table.idColumn))
    (hDecode : s.decodeRow row = .ok record) :
    s.recordId record = .ok (.ofJson (row.cell s.table.idColumn)) := by
  rw [Store.recordId, h.fieldValue s.resolution.idColumn hDecode]
  cases row.cell s.table.idColumn <;> rfl

/-- What is decoded from a good row is fine. -/
def Yields (s : Store ρ) (good : Row → Prop) (fine : ρ → Prop) : Prop :=
  ∀ row record, good row → s.decodeRow row = .ok record → fine record

/-- What is decoded from an object that names the tenant in its tenant field is fine. -/
def Makes (s : Store ρ) (tenant : TenantId) (fine : ρ → Prop) : Prop :=
  ∀ (cells : Row) record, cells.get? s.descriptor.tenantField = some (.string tenant.text) →
    s.decodeJson cells.toJson = .ok record → fine record

theorem Yields.decodeRows {good : Row → Prop} {fine : ρ → Prop} (h : s.Yields good fine)
    {rows : List Row} {records : List ρ} (hRows : ∀ row ∈ rows, good row)
    (hDecode : s.decodeRows rows = .ok records) : ∀ r ∈ records, fine r := by
  intro r hr
  obtain ⟨row, hMem, hRow⟩ := (Except.mem_mapM hDecode).mp hr
  exact h row r (hRows row hMem) hRow

/-! ## Operations of a store -/

variable {active : Option TenantId} {good : Row → Prop} {fine : ρ → Prop} {α : Type}

/-- The program keeps to the tenant in the table of the store, and each of its results satisfies
`results`. -/
abbrev Confines (s : Store ρ) (active : Option TenantId) (tenant : TenantId) (good : Row → Prop)
    (p : Program ρ α) (results : α → Prop) : Prop :=
  Honors (confined ρ active s.table tenant good) p results fun _ => True

theorem send_confined {c : Command} (h : c.ConfinedTo s.table tenant) :
    s.Confines active tenant good (Program.send c)
      fun answer => ∀ row ∈ c.rowsIn answer, good row :=
  Honors.send h (fun _ hRows => hRows) fun _ _ => trivial

/-- A write of one record fails if it gives back nothing. -/
theorem single_confined {p : Program ρ (List ρ)} {e : StoreError}
    (h : s.Confines active tenant good p fun records => ∀ r ∈ records, fine r) :
    s.Confines active tenant good
      (p >>= fun records => match records.getLast? with
        | some record => pure record
        | none => Program.fail e) fine := by
  refine Honors.bind h ?_
  intro records hRecords
  split
  · rename_i record hLast
    exact Honors.pure (hRecords record (List.mem_of_getLast? hLast))
  · exact Honors.fail trivial

section Scoped

variable (hContext : s.context.reports active = some tenant)
include hContext

theorem requireTenant_confined (operation : String) :
    s.Confines active tenant good (s.requireTenant operation) (· = tenant) := by
  unfold requireTenant
  have hCurrent : s.Confines active tenant good s.context.current (· = some tenant) := by
    cases hCase : s.context with
    | pinned t =>
      rw [hCase] at hContext
      exact Honors.pure hContext
    | ambient =>
      rw [hCase] at hContext
      exact Honors.ask trivial fun answer hAnswer => hAnswer.trans hContext
  refine Honors.bind hCurrent ?_
  rintro _ rfl
  exact Honors.pure rfl

/-- What an operation does once it has found its tenant. -/
theorem scope_confined {f : TenantId → Program ρ α} {results : α → Prop} (operation : String)
    (h : s.Confines active tenant good (f tenant) results) :
    s.Confines active tenant good (s.requireTenant operation >>= f) results := by
  refine Honors.bind (requireTenant_confined hContext operation) ?_
  rintro _ rfl
  exact h

/-! ### Programs that decode no rows -/

theorem count_confined (filter : Filter) :
    s.Confines active tenant good (s.count filter) fun _ => True := by
  refine scope_confined hContext _ (Honors.check fun conditions _ => ?_)
  refine Honors.weaken (send_confined ?_) fun _ _ => trivial
  exact ⟨rfl, rfl⟩

theorem update_confined (filter : Filter) (patch : Patch) :
    s.Confines active tenant good (s.update filter patch) fun _ => True := by
  refine scope_confined hContext _ (Honors.check fun conditions _ => ?_)
  refine Honors.check fun assignments hAssignments => ?_
  split
  · exact Honors.pure trivial
  · refine Honors.bind (send_confined ⟨rfl, rfl, resolvePatch_names hAssignments⟩) ?_
    exact fun _ _ => Honors.pure trivial

theorem updateById_confined (id : Value) (patch : Patch) :
    s.Confines active tenant good (s.updateById id patch) fun _ => True :=
  Honors.bind (update_confined hContext _ _) fun _ _ => Honors.pure trivial

theorem delete_confined (filter : Filter) :
    s.Confines active tenant good (s.delete filter) fun _ => True := by
  refine scope_confined hContext _ (Honors.check fun conditions _ => ?_)
  refine Honors.weaken (send_confined ?_) fun _ _ => trivial
  exact ⟨rfl, rfl⟩

theorem softDelete_confined (filter : Filter) :
    s.Confines active tenant good (s.softDelete filter) fun _ => True := by
  refine scope_confined hContext _ (Honors.check fun field _ => ?_)
  exact Honors.bind (Honors.ask trivial fun _ _ => trivial) fun now _ =>
    update_confined hContext _ _

theorem restore_confined (filter : Filter) :
    s.Confines active tenant good (s.restore filter) fun _ => True :=
  scope_confined hContext _ (Honors.check fun _ _ => update_confined hContext _ _)

theorem query_confined :
    s.Confines active tenant good s.query fun q => q.tenant = tenant ∧ q.store = s :=
  scope_confined hContext _ (Honors.pure ⟨rfl, rfl⟩)

theorem sqlQuery_confined (name : String) :
    s.Confines active tenant good (s.sqlQuery name) fun _ => True :=
  scope_confined hContext _ (Honors.ofExcept (fun _ _ => trivial) fun _ _ => trivial)

theorem create_confined (hMakes : s.Makes tenant fine) (partialRecord : Json) :
    s.Confines active tenant good (s.create partialRecord) fine := by
  refine scope_confined hContext _ ?_
  have hDecode : ∀ cells : Row, s.Confines active tenant good (Program.ofExcept (s.decodeJson
      (cells.insert s.descriptor.tenantField (.string tenant.text)).toJson)) fine := fun cells =>
    Honors.ofExcept (fun record h => hMakes _ record (Row.get?_insert_self _ _ _) h)
      fun _ _ => trivial
  cases partialRecord with
  | null => exact hDecode _
  | object fields => exact hDecode _
  | _ => exact Honors.fail trivial

end Scoped

/-! ### Programs that decode rows -/

section Yielding

variable (hYields : s.Yields good fine)
include hYields

theorem decode_confined {rows : List Row} (hRows : ∀ row ∈ rows, good row) :
    s.Confines active tenant good (Program.ofExcept (s.decodeRows rows))
      fun records => ∀ r ∈ records, fine r :=
  Honors.ofExcept (fun _ h => hYields.decodeRows hRows h) fun _ _ => trivial

theorem selectRecords_confined (selection : Selection) :
    s.Confines active tenant good (s.selectRecords tenant selection)
      fun records => ∀ r ∈ records, fine r :=
  Honors.bind (send_confined ⟨rfl, rfl⟩) fun _ hRows => decode_confined hYields hRows

variable (hContext : s.context.reports active = some tenant)
include hContext

theorem find_confined (filter : Filter) :
    s.Confines active tenant good (s.find filter) fun records => ∀ r ∈ records, fine r :=
  scope_confined hContext _ (Honors.check fun _ _ => selectRecords_confined hYields _)

theorem findOne_confined (filter : Filter) :
    s.Confines active tenant good (s.findOne filter) fun found => ∀ r ∈ found, fine r := by
  refine scope_confined hContext _ (Honors.check fun conditions _ => ?_)
  refine Honors.bind (selectRecords_confined hYields _) ?_
  intro found hFound
  exact Honors.pure fun r hr => hFound r (List.mem_of_getLast? hr)

theorem saveAll_confined (records : List ρ) :
    s.Confines active tenant good (s.saveAll records) fun saved => ∀ r ∈ saved, fine r := by
  refine scope_confined hContext _ ?_
  split
  · exact Honors.pure (by simp)
  · refine Honors.check fun rows hRows => ?_
    exact Honors.bind (send_confined ⟨rfl, encodeRows_carry hRows⟩) fun _ hSaved =>
      decode_confined hYields hSaved

theorem insertAll_confined (records : List ρ) :
    s.Confines active tenant good (s.insertAll records) fun inserted => ∀ r ∈ inserted, fine r := by
  refine scope_confined hContext _ ?_
  split
  · exact Honors.pure (by simp)
  · refine Honors.check fun rows hRows => ?_
    exact Honors.bind (send_confined ⟨rfl, encodeRows_carry hRows⟩) fun _ hInserted =>
      decode_confined hYields hInserted

theorem save_confined (record : ρ) : s.Confines active tenant good (s.save record) fine :=
  single_confined (saveAll_confined hYields hContext [record])

theorem insert_confined (record : ρ) : s.Confines active tenant good (s.insert record) fine :=
  single_confined (insertAll_confined hYields hContext [record])

end Yielding

end Store

/-! ## Operations of queries, writers, queues and workers -/

section Scoped

variable {ρ α : Type} {active : Option TenantId} {tenant : TenantId} {good : Row → Prop}
  {fine : ρ → Prop}

namespace Query

variable {q : Query ρ}

/-- A query reads under its own tenant, whatever the active one is. -/
theorem fetchAll_confined (hYields : q.store.Yields good fine) :
    q.store.Confines active q.tenant good q.fetchAll fun records => ∀ r ∈ records, fine r :=
  Honors.check fun _ _ => Store.selectRecords_confined hYields _

theorem fetchOne_confined (hYields : q.store.Yields good fine) :
    q.store.Confines active q.tenant good q.fetchOne fun found => ∀ r ∈ found, fine r := by
  refine Honors.check fun _ _ => Honors.bind (Store.selectRecords_confined hYields _) ?_
  intro found hFound
  exact Honors.pure fun r hr => hFound r (List.mem_of_getLast? hr)

theorem count_confined : q.store.Confines active q.tenant good q.count fun _ => True := by
  refine Honors.check fun conditions _ => Honors.weaken (Store.send_confined ?_) fun _ _ =>
    trivial
  exact ⟨rfl, rfl⟩

end Query

namespace IdempotentWriter

variable {w : IdempotentWriter ρ}

theorem findByKey_confined (hYields : w.store.Yields good fine)
    (hContext : w.store.context.reports active = some tenant) (key : Value) :
    w.store.Confines active tenant good (w.findByKey key) fun found => ∀ r ∈ found, fine r := by
  refine Honors.bind (Store.query_confined hContext) ?_
  rintro q ⟨rfl, hStore⟩
  rw [← hStore] at hYields ⊢
  exact Query.fetchOne_confined
    (q := Query.restrict { q with withDeleted := true } (.ofEq w.keyField key)) hYields

theorem save_confined (hYields : w.store.Yields good fine)
    (hContext : w.store.context.reports active = some tenant) (record : ρ) :
    w.store.Confines active tenant good (w.save record) fun insertion => fine insertion.record := by
  refine Store.scope_confined hContext _ (Honors.check fun key _ => ?_)
  cases key with
  | none =>
    exact Honors.bind (Store.save_confined hYields hContext record) fun _ hSaved =>
      Honors.pure hSaved
  | some key =>
    have hInsert := Store.insert_confined hYields hContext record
    refine Honors.bind (Honors.attempt hInsert) ?_
    intro result hResult
    rcases result with e | inserted
    · cases e with
      | conflict cause =>
        refine Honors.bind (findByKey_confined hYields hContext _) ?_
        intro found hFound
        cases found with
        | none => exact Honors.bind hInsert fun _ hInserted => Honors.pure hInserted
        | some existing => exact Honors.pure (hFound existing rfl)
      | _ => exact Honors.fail trivial
    · exact Honors.pure hResult

end IdempotentWriter

namespace Queue

variable {q : Queue ρ}

theorem resolution (q : Queue ρ) :
    q.roles.Resolved q.store.descriptor q.store.columns q.columns :=
  QueueRoles.resolved q.resolved

theorem claimBatch_confined (hYields : q.store.Yields good fine)
    (hContext : q.store.context.reports active = some tenant) (limit : Nat) :
    q.store.Confines active tenant good (q.claimBatch limit)
      fun batch => ∀ r ∈ batch.records, fine r := by
  refine Store.scope_confined hContext _ (Honors.bind (Honors.ask trivial fun _ _ => trivial) ?_)
  intro now _
  split
  · exact Honors.pure (by simp)
  · obtain ⟨hStatus, hClaimedAt⟩ :=
      q.resolution.columns_ne q.store.resolution.tenantColumn (Or.inl rfl)
    refine Honors.bind (Store.send_confined ⟨rfl, rfl, hStatus, hClaimedAt⟩) ?_
    intro rows hRows
    exact Honors.bind (Store.decode_confined hYields hRows) fun _ hRecords => Honors.pure hRecords

variable (hContext : q.store.context.reports active = some tenant)
include hContext

theorem updateStatus_confined (id status : Value) :
    q.store.Confines active tenant good (q.updateStatus id status) fun _ => True :=
  Store.updateById_confined hContext _ _

theorem markFailureWith_confined (id : Value) (fields : RetryFields) (attempts : Nat)
    (backoff : Backoff) :
    q.store.Confines active tenant good (q.markFailureWith id fields attempts backoff)
      fun _ => True := by
  refine Store.scope_confined hContext _ (Honors.bind (Honors.ask trivial fun _ _ => trivial) ?_)
  intro now _
  split
  · exact Honors.fail trivial
  · exact Honors.bind (Store.updateById_confined hContext _ _) fun _ _ => Honors.pure trivial

theorem markExhausted_confined (id status : Value) (attempts : Nat) :
    q.store.Confines active tenant good (q.markExhausted id status attempts) fun _ => True :=
  Store.updateById_confined hContext _ _

theorem releaseStale_confined (age : Duration) :
    q.store.Confines active tenant good (q.releaseStale age) fun _ => True := by
  refine Store.scope_confined hContext _ ?_
  split
  · exact Honors.fail trivial
  · split
    · exact Honors.fail trivial
    · refine Honors.bind (Honors.ask trivial fun _ _ => trivial) fun now _ => ?_
      split
      · exact Honors.abort trivial
      · exact Store.update_confined hContext _ _

end Queue

namespace Worker

variable {w : Worker ρ} (hContext : w.queue.store.context.reports active = some tenant)
include hContext

theorem finalize_confined (record : ρ) :
    w.queue.store.Confines active tenant good (w.finalize record) fun _ => True := by
  refine Honors.check fun id _ => Honors.check fun cell _ => ?_
  refine Honors.bind (Honors.ask trivial fun _ _ => trivial) fun verdict _ => ?_
  split
  · exact Honors.bind (Queue.updateStatus_confined hContext _ _) fun _ _ => Honors.pure trivial
  · split
    · exact Honors.bind (Queue.markExhausted_confined hContext _ _ _) fun _ _ =>
        Honors.pure trivial
    · exact Honors.bind (Queue.markFailureWith_confined hContext _ _ _ _) fun _ _ =>
        Honors.pure trivial

theorem finalizeAll_confined (report : CycleReport) (records : List ρ) :
    w.queue.store.Confines active tenant good (w.finalizeAll report records) fun _ => True := by
  induction records generalizing report with
  | nil => exact Honors.pure trivial
  | cons record rest ih =>
    exact Honors.bind (Honors.attempt (finalize_confined hContext record)) fun _ _ => ih _

theorem runOnce_confined :
    w.queue.store.Confines active tenant good w.runOnce fun _ => True := by
  have hYields : w.queue.store.Yields good fun _ => True := fun _ _ _ _ => trivial
  have hCycle : ∀ released, w.queue.store.Confines active tenant good
      (do
        let batch ← w.queue.claimBatch w.settings.batchSize
        w.finalizeAll ⟨batch.records.length, 0, 0, 0, released, 0⟩ batch.records)
      fun _ => True := fun released =>
    Honors.bind (Queue.claimBatch_confined hYields hContext _) fun _ _ =>
      finalizeAll_confined hContext _ _
  unfold runOnce
  split
  · exact Honors.bind (Queue.releaseStale_confined hContext _) fun released _ => hCycle released
  · exact hCycle 0

theorem runUntilIdle_confined (fuel : Nat) (totals : WorkerTotals) :
    w.queue.store.Confines active tenant good (w.runUntilIdle fuel totals) fun _ => True := by
  induction fuel generalizing totals with
  | zero => exact Honors.pure trivial
  | succ fuel ih =>
    refine Honors.bind (Honors.settle (runOnce_confined hContext)) ?_
    intro outcome _
    rcases outcome with (e | _) | report
    · exact Honors.pure trivial
    · exact Honors.pure trivial
    · dsimp only
      split
      · exact Honors.pure trivial
      · exact ih _

end Worker

end Scoped

/-! ## Operations without a tenant -/

/-- The program asks for the tenant only, finds none, and fails under this name. -/
abbrev Refuses {ρ α : Type} (p : Program ρ α) (operation : String) : Prop :=
  Honors (unscoped ρ) p (fun _ => False) (· = .error (.missingTenant operation))

section Unscoped

variable {ρ α β : Type}

theorem Refuses.bind {p : Program ρ α} {operation : String} (h : Refuses p operation)
    {f : α → Program ρ β} : Refuses (p >>= f) operation :=
  Honors.bind h fun _ hFalse => hFalse.elim

theorem Store.requireTenant_refuses {s : Store ρ} (hContext : s.context.reports none = none)
    (operation : String) : Refuses (s.requireTenant operation) operation := by
  have hCurrent : Honors (unscoped ρ) s.context.current (· = none)
      (· = .error (.missingTenant operation)) := by
    cases hCase : s.context with
    | pinned t =>
      rw [hCase] at hContext
      cases hContext
    | ambient => exact Honors.ask trivial fun answer hAnswer => hAnswer
  refine Honors.bind hCurrent ?_
  rintro _ rfl
  exact Honors.fail rfl

theorem Worker.runOnce_refuses {w : Worker ρ}
    (hContext : w.queue.store.context.reports none = none) :
    Refuses w.runOnce
      (if w.settings.staleAfter.isSome then "release_stale_claims" else "claim_batch") := by
  have hStart := Store.requireTenant_refuses hContext
  unfold runOnce
  cases w.settings.staleAfter with
  | none => exact (hStart _).bind.bind
  | some age => exact (hStart _).bind.bind

/-- Cycles without a tenant ask for the tenant and nothing else. -/
theorem Worker.runUntilIdle_unscoped {w : Worker ρ}
    (hContext : w.queue.store.context.reports none = none) (fuel : Nat) (totals : WorkerTotals) :
    Honors (unscoped ρ) (w.runUntilIdle fuel totals) (fun _ => True) fun _ => True := by
  cases fuel with
  | zero => exact Honors.pure trivial
  | succ fuel =>
    refine Honors.bind (Honors.settle (runOnce_refuses hContext)) ?_
    intro outcome hOutcome
    rcases outcome with e | report
    · cases hOutcome
      exact Honors.pure trivial
    · exact hOutcome.elim

end Unscoped

/-! ## All operations -/

namespace Operation

variable {ρ α : Type} {active : Option TenantId} {tenant : TenantId} {good : Row → Prop}
  {fine : ρ → Prop}

/-- The operation makes a record without a row. -/
def IsCreation : Operation ρ α → Prop
  | .create _ _ => True
  | _ => False

/-- Every operation keeps to its tenant, and the records in its result come out of the rows that
the backend answers or are made for the tenant. -/
theorem honors_confined (op : Operation ρ α) (hTenant : op.tenant? active = some tenant)
    (hYields : op.store.Yields good fine)
    (hMakes : op.IsCreation → op.store.Makes tenant fine) :
    op.store.Confines active tenant good op.program fun a => ∀ r ∈ op.records a, fine r := by
  have hNone : ∀ r ∈ ([] : List ρ), fine r := by simp
  have hOption : ∀ found : Option ρ, (∀ r ∈ found, fine r) → ∀ r ∈ found.toList, fine r :=
    fun found h r hr => h r (Option.mem_toList.mp hr)
  have hSingle : ∀ record : ρ, fine record → ∀ r ∈ [record], fine r :=
    fun record h r hr => List.mem_singleton.mp hr ▸ h
  cases op with
  | tenant s => exact (Store.requireTenant_confined hTenant _).weaken fun _ _ => hNone
  | find s filter => exact Store.find_confined hYields hTenant filter
  | findOne s filter => exact (Store.findOne_confined hYields hTenant filter).weaken hOption
  | findOneOrFail s filter =>
    exact (Honors.orFail (Store.findOne_confined hYields hTenant filter) trivial).weaken hSingle
  | findById s id => exact (Store.findOne_confined hYields hTenant _).weaken hOption
  | findByIdOrFail s id =>
    exact (Honors.orFail (Store.findOne_confined hYields hTenant _) trivial).weaken hSingle
  | count s filter => exact (Store.count_confined hTenant filter).weaken fun _ _ => hNone
  | exists? s filter =>
    exact Honors.bind (Store.findOne_confined hYields hTenant filter) fun _ _ => Honors.pure hNone
  | create s partialRecord =>
    exact (Store.create_confined hTenant (hMakes trivial) partialRecord).weaken hSingle
  | saveAll s records => exact Store.saveAll_confined hYields hTenant records
  | save s record => exact (Store.save_confined hYields hTenant record).weaken hSingle
  | insertAll s records => exact Store.insertAll_confined hYields hTenant records
  | insert s record => exact (Store.insert_confined hYields hTenant record).weaken hSingle
  | update s filter patch =>
    exact (Store.update_confined hTenant filter patch).weaken fun _ _ => hNone
  | updateById s id patch =>
    exact (Store.updateById_confined hTenant id patch).weaken fun _ _ => hNone
  | delete s filter => exact (Store.delete_confined hTenant filter).weaken fun _ _ => hNone
  | softDelete s filter => exact (Store.softDelete_confined hTenant filter).weaken fun _ _ => hNone
  | restore s filter => exact (Store.restore_confined hTenant filter).weaken fun _ _ => hNone
  | query s => exact (Store.query_confined hTenant).weaken fun _ _ => hNone
  | sqlQuery s name => exact (Store.sqlQuery_confined hTenant name).weaken fun _ _ => hNone
  | fetchAll q =>
    cases hTenant
    exact Query.fetchAll_confined hYields
  | fetchOne q =>
    cases hTenant
    exact (Query.fetchOne_confined hYields).weaken hOption
  | countAll q =>
    cases hTenant
    exact Query.count_confined.weaken fun _ _ => hNone
  | saveOnce w record =>
    exact (IdempotentWriter.save_confined hYields hTenant record).weaken fun _ => hSingle _
  | claimBatch q limit => exact Queue.claimBatch_confined hYields hTenant limit
  | updateStatus q id status =>
    exact (Queue.updateStatus_confined hTenant id status).weaken fun _ _ => hNone
  | markSuccess q id status =>
    exact (Queue.updateStatus_confined hTenant id status).weaken fun _ _ => hNone
  | markFailureWith q id fields attempts backoff =>
    exact (Queue.markFailureWith_confined hTenant id fields attempts backoff).weaken
      fun _ _ => hNone
  | markFailure q id attempts =>
    exact (Queue.markFailureWith_confined hTenant id _ attempts _).weaken fun _ _ => hNone
  | markExhausted q id status attempts =>
    exact (Queue.markExhausted_confined hTenant id status attempts).weaken fun _ _ => hNone
  | releaseStale q age => exact (Queue.releaseStale_confined hTenant age).weaken fun _ _ => hNone
  | runOnce w => exact (Worker.runOnce_confined hTenant).weaken fun _ _ => hNone

/-- Without a tenant every operation fails before it does anything else. -/
theorem refuses_unscoped (op : Operation ρ α) (hTenant : op.tenant? none = none) :
    Refuses op.program op.entry := by
  cases op with
  | fetchAll q | fetchOne q | countAll q => cases hTenant
  | runOnce w => exact Worker.runOnce_refuses hTenant
  | tenant s => exact Store.requireTenant_refuses hTenant _
  | find s _ | findOne s _ | findById s _ | count s _ | create s _ | saveAll s _ | insertAll s _
  | update s _ _ | delete s _ | softDelete s _ | restore s _ | query s | sqlQuery s _ =>
    exact (Store.requireTenant_refuses hTenant _).bind
  | findOneOrFail s _ | findByIdOrFail s _ | exists? s _ | save s _ | insert s _
  | updateById s _ _ => exact (Store.requireTenant_refuses hTenant _).bind.bind
  | saveOnce w _ => exact (Store.requireTenant_refuses hTenant _).bind
  | claimBatch q _ | markFailureWith q _ _ _ _ | markFailure q _ _ | releaseStale q _ =>
    exact (Store.requireTenant_refuses hTenant _).bind
  | updateStatus q _ _ | markSuccess q _ _ | markExhausted q _ _ _ =>
    exact (Store.requireTenant_refuses hTenant _).bind.bind

end Operation

end Tenancy
