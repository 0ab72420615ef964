import Tenancy.Proofs.Queue.Effects

/-!
# Rows handed over by a claim

Who claims a row can rely on it: no other claim takes it, a lookup by its id still finds it, and a
failure that is reported goes into the row as reported. That takes more than acceptance of the
roles, which looks at their names one by one: the fields that a queue writes must be distinct, the
time of a claim must not mark the row as deleted, and a row in progress must not wait
(`Queue.claimed_rows_usable`).
-/

namespace Tenancy

variable {ρ : Type}

/-! ## Lookups by id -/

namespace Store

variable {s : Store ρ} {tenant : TenantId} {active : Option TenantId} {now : Instant} {m : Memory}

/-- The row does not count as deleted. -/
def Visible (s : Store ρ) (row : Row) : Prop :=
  ∀ column, s.table.softDeleteColumn = some column → row.cell column = .null

/-- The condition that a row does not count as deleted. -/
def visibility (s : Store ρ) : List Condition :=
  (s.table.softDeleteColumn.map fun column => ⟨column, .isNull⟩).toList

theorem Visible.holds {row : Row} (h : s.Visible row) : s.visibility.all (·.holds row) := by
  unfold visibility
  cases hColumn : s.table.softDeleteColumn with
  | none => rfl
  | some column => simp [Condition.holds, Test.holds, h column hColumn, Json.isNull]

theorem visibleConditions_idFilter (s : Store ρ) (id : Value) :
    s.visibleConditions (s.idFilter id) = .ok (s.idCondition id :: s.visibility) := by
  rw [visibleConditions, scopeConditions_idFilter, visibility]
  cases s.table.softDeleteColumn <;> rfl

/-- The visible rows of the tenant with this id. -/
def found (s : Store ρ) (tenant : TenantId) (id : Value) (rows : List Row) : List Row :=
  rows.filter (Memory.selects s.table tenant (s.idCondition id :: s.visibility))

theorem found_eq (s : Store ρ) (tenant : TenantId) (id : Value) (rows : List Row) :
    s.found tenant id rows = ((s.reached tenant id rows).map (rows.getD · .empty)).filter
      fun row => s.visibility.all (·.holds row) := by
  rw [reached, Memory.map_placesOf, List.filter_filter, found]
  refine List.filter_congr fun row _ => ?_
  simp only [Memory.selects, List.all_cons, List.all_nil, Bool.and_true]
  ac_rfl

theorem run_selectRecords (tenant : TenantId) (selection : Selection) (m : Memory) :
    (World.still active now).run (s.selectRecords tenant selection) m =
      ((s.decodeRows (m.select s.table tenant selection)).mapError .error, m) :=
  (World.run_send_bind _ (.select s.table tenant selection) _ m).trans (World.run_ofExcept _ _ _)

/-- A lookup by id decodes the first visible row of the tenant with this id. -/
theorem run_findById (hContext : s.context.reports active = some tenant) (id : Value) (m : Memory) :
    (World.still active now).run (s.findById id) m =
      (((s.decodeRows ((s.found tenant id (m.rows s.table.name)).take 1)).map
        List.getLast?).mapError .error, m) := by
  rw [findById, findOne, Store.run_scope (w := World.still active now) hContext,
    visibleConditions_idFilter, World.run_bind, World.run_ofExcept]
  dsimp only [Except.mapError]
  rw [World.run_bind, run_selectRecords]
  have hSelect : m.select s.table tenant { Selection.ofConditions (s.idCondition id :: s.visibility)
      with limit := some 1 } = (s.found tenant id (m.rows s.table.name)).take 1 := rfl
  rw [hSelect]
  cases s.decodeRows ((s.found tenant id (m.rows s.table.name)).take 1) <;> rfl

/-- A visible row of the tenant is found by its own id, or another one of this id is. -/
theorem findById_ne_none (hContext : s.context.reports active = some tenant) {i : Nat} {row : Row}
    (hRow : (m.rows s.table.name)[i]? = some row) (hOwned : Memory.ownedBy s.table tenant row)
    (hVisible : s.Visible row) :
    ((World.still active now).run (s.findById (.ofJson (row.cell s.table.idColumn))) m).1 ≠
      .ok none := by
  rw [run_findById hContext]
  have hMem : row ∈ s.found tenant (.ofJson (row.cell s.table.idColumn)) (m.rows s.table.name) := by
    rw [found_eq]
    refine List.mem_filter.mpr ⟨?_, hVisible.holds⟩
    exact List.mem_map.mpr ⟨i, mem_reached_self hRow hOwned, Memory.getD_of_getElem? hRow⟩
  cases hFound : s.found tenant (.ofJson (row.cell s.table.idColumn)) (m.rows s.table.name) with
  | nil =>
    rw [hFound] at hMem
    exact absurd hMem List.not_mem_nil
  | cons first rest =>
    rw [List.take_succ_cons, List.take_zero, decodeRows, List.mapM_cons, List.mapM_nil]
    cases s.decodeRow first with
    | error e => nofun
    | ok record => nofun

/-- A visible row of the tenant is found by its own id if no other row has this id. -/
theorem run_findById_self (hContext : s.context.reports active = some tenant) {i : Nat} {row : Row}
    {record : ρ} (hRow : (m.rows s.table.name)[i]? = some row) (hVisible : s.Visible row)
    (hReached : s.reached tenant (.ofJson (row.cell s.table.idColumn)) (m.rows s.table.name) = [i])
    (hRecord : s.decodeRow row = .ok record) :
    (World.still active now).run (s.findById (.ofJson (row.cell s.table.idColumn))) m =
      (.ok (some record), m) := by
  have hFound : s.found tenant (.ofJson (row.cell s.table.idColumn)) (m.rows s.table.name) =
      [row] := by
    rw [found_eq, hReached, List.map_singleton, Memory.getD_of_getElem? hRow]
    simp only [List.filter_cons, hVisible.holds, if_true, List.filter_nil]
  rw [run_findById hContext, hFound, List.take_succ_cons, List.take_nil, decodeRows, List.mapM_cons,
    List.mapM_nil, hRecord]
  rfl

end Store

/-! ## Claimed rows -/

/-- The fields that a queue writes. -/
def QueueRoles.written (r : QueueRoles) : List String :=
  r.status :: r.nextAttemptAt :: r.attempts :: r.claimedAt.toList

namespace Queue

variable {q : Queue ρ} {tenant : TenantId} {active : Option TenantId} {now : Instant} {limit : Nat}
  {m m' : Memory} {rows : List Row}

/-- The fields that the queue writes are distinct, the time of a claim does not mark a row as
deleted, and a row in progress does not wait. -/
structure Consistent (q : Queue ρ) : Prop where
  distinct : (q.roles.status :: q.roles.nextAttemptAt :: q.roles.attempts ::
    q.roles.claimedAt.toList).Nodup
  undeleted : ∀ field, q.roles.claimedAt = some field →
    q.store.descriptor.softDeleteField ≠ some field
  apart : q.roles.pending.matchesCell q.roles.inProgress.toJson = false

/-- The row stores a retry as it was reported. -/
structure Stores (q : Queue ρ) (retry : ScheduledRetry) (row : Row) : Prop where
  attempts : ∀ column, q.store.columns.column? q.roles.attempts = some column →
    row.cell column = (Value.ofNat retry.attempts).toJson
  nextAttemptAt : row.cell q.columns.nextAttemptAt = (Value.timestamp retry.nextAttemptAt).toJson
  status : row.cell q.columns.status = q.roles.pending.toJson

/-- The column of the time of a claim is the one of its field. -/
theorem claimedAt_column_ne (q : Queue ρ) {field column : String}
    (hField : q.roles.claimedAt ≠ some field)
    (hColumn : q.store.columns.column? field = some column) :
    q.columns.claimedAt ≠ some column := by
  intro hClaimedAt
  obtain ⟨f, hRole, hName⟩ := q.resolution.exists_claimedAt hClaimedAt
  exact hField (ColumnMap.column?_inj hName hColumn ▸ hRole)

/-! ## Retries that are stored -/

/-- The time of a claim is kept in none of the other fields that the queue writes. -/
theorem claimedAt_ne (hDistinct : q.roles.written.Nodup) {field : String}
    (hField : field ∈ [q.roles.status, q.roles.nextAttemptAt, q.roles.attempts]) :
    q.roles.claimedAt ≠ some field := by
  intro hClaimedAt
  simp only [QueueRoles.written, hClaimedAt, Option.toList_some, List.nodup_cons, List.mem_cons,
    List.not_mem_nil, or_false, not_or] at hDistinct hField
  rcases hField with rfl | rfl | rfl
  · exact hDistinct.1.2.2 rfl
  · exact hDistinct.2.1.2 rfl
  · exact hDistinct.2.2.1 rfl

/-- The retry of a failed row assigns the count, the time and the pending status to their fields. -/
theorem get?_retryPatch_of_nodup (hDistinct : q.roles.written.Nodup) (attempts : Nat)
    (next : Instant) :
    (q.retryPatch q.roles.retryFields attempts next).get? q.roles.attempts =
        some (.ofNat attempts) ∧
      (q.retryPatch q.roles.retryFields attempts next).get? q.roles.nextAttemptAt =
        some (.timestamp next) ∧
      (q.retryPatch q.roles.retryFields attempts next).get? q.roles.status =
        some q.roles.pending := by
  have hClaimedAt : ∀ {field}, field ∈ [q.roles.status, q.roles.nextAttemptAt, q.roles.attempts] →
      q.roles.claimedAt ≠ some field := claimedAt_ne hDistinct
  simp only [QueueRoles.written, List.nodup_cons, List.mem_cons, not_or] at hDistinct
  obtain ⟨⟨hNextStatus, hAttemptsStatus, -⟩, ⟨hAttemptsNext, -⟩, -⟩ := hDistinct
  refine ⟨?_, ?_, ?_⟩
  · rw [get?_retryPatch, if_neg (hClaimedAt (by simp)), if_neg (Ne.symm hAttemptsStatus),
      if_neg (Ne.symm hAttemptsNext), if_pos rfl]
  · rw [get?_retryPatch, if_neg (hClaimedAt (by simp)), if_neg (Ne.symm hNextStatus), if_pos rfl]
  · rw [get?_retryPatch, if_neg (hClaimedAt (by simp)), if_pos rfl]

theorem stores_patched (hDistinct : q.roles.written.Nodup) (retry : ScheduledRetry) (row : Row) :
    q.Stores retry (q.store.patched
      (q.retryPatch q.roles.retryFields retry.attempts retry.nextAttemptAt) row) := by
  obtain ⟨hRoleStatus, hRoleNext, hRoleAttempts⟩ := mem_fields q.roles
  have hReport := q.isReport_retryPatch retry.attempts retry.nextAttemptAt
  obtain ⟨hAttempts, hNext, hStatus⟩ :=
    get?_retryPatch_of_nodup hDistinct retry.attempts retry.nextAttemptAt
  exact ⟨fun column hColumn => hReport.cell_patched hRoleAttempts hColumn hAttempts row,
    hReport.cell_patched hRoleNext q.resolution.nextAttemptAt hNext row,
    hReport.cell_patched hRoleStatus q.resolution.status hStatus row⟩

/-! ## Rows of consistent queues -/

namespace Consistent

theorem claimedAt_ne_softDelete (h : q.Consistent) {column : String}
    (hColumn : q.store.table.softDeleteColumn = some column) :
    q.columns.claimedAt ≠ some column := by
  obtain ⟨field, hField, hOk⟩ :=
    Except.some_of_mapM (hColumn ▸ q.store.resolution.softDeleteColumn)
  refine claimedAt_column_ne q ?_ (ColumnMap.column_eq_ok_iff.mp hOk)
  intro hClaimedAt
  exact h.undeleted field hClaimedAt hField

/-- What a claim makes of a row that it takes: a visible row of the tenant that does not wait. -/
theorem claimed (h : q.Consistent) {i : Nat}
    (hi : i ∈ Memory.claimedPlaces q.store.table tenant { q.columns with limit, now } rows) :
    ∃ old, rows[i]? = some old ∧
      Memory.ownedBy q.store.table tenant
        (Memory.markClaimed { q.columns with limit, now } old) ∧
      q.store.Visible (Memory.markClaimed { q.columns with limit, now } old) ∧
      q.columns.pending.matchesCell ((Memory.markClaimed { q.columns with limit, now } old).cell
        q.columns.status) = false := by
  obtain ⟨old, hOld, hEligible⟩ := Memory.mem_placesOf.mp (Memory.mem_claimedPlaces hi)
  have hEligible' := Memory.isEligible_iff.mp hEligible
  have hTenant := q.resolution.columns_ne q.store.resolution.tenantColumn (.inl rfl)
  have hStatus : q.columns.claimedAt ≠ some q.columns.status :=
    claimedAt_column_ne q (claimedAt_ne h.distinct (by simp)) q.resolution.status
  refine ⟨old, hOld, ?_, ?_, ?_⟩
  · rw [Memory.ownedBy, Row.cell, Memory.get?_markClaimed, if_neg hTenant.2, if_neg hTenant.1.symm]
    exact Memory.isEligible_owned old hEligible
  · intro column hColumn
    have hNull := hEligible'.visible column hColumn
    have hNotStatus : column ≠ q.columns.status := by
      rintro rfl
      have hPending := hEligible'.pending
      dsimp only at hPending
      rw [hNull] at hPending
      have hNone := q.columns.pending.matchesCell_null
      rw [Value.matchesCell, hPending] at hNone
      cases hNone
    rw [Row.cell, Memory.get?_markClaimed, if_neg (h.claimedAt_ne_softDelete hColumn),
      if_neg hNotStatus]
    exact hNull
  · rw [Row.cell, Memory.get?_markClaimed, if_neg hStatus, if_pos rfl, q.resolution.pending]
    exact q.resolution.inProgress ▸ h.apart

/-- A failure that is reported went into every row that its id reaches as reported. -/
theorem failure_stored (h : q.Consistent) (hContext : q.store.context.reports active = some tenant)
    {id : Value} {attempts : Nat} {retry : ScheduledRetry}
    (hRun : (World.still active now).run (q.markFailure id attempts) m = (.ok (some retry), m'))
    {i : Nat} (hReached : i ∈ q.store.reached tenant id (m.rows q.store.table.name)) :
    ∃ row, (m'.rows q.store.table.name)[i]? = some row ∧ q.Stores retry row := by
  rcases run_markFailure_cases hContext id attempts m with
    ⟨-, hFails⟩ | ⟨next, -, ⟨e, hFails⟩ | hWritten⟩
  · rw [hFails] at hRun
    cases hRun
  · rw [hFails] at hRun
    cases hRun
  · rw [hWritten, if_pos (List.length_pos_of_mem hReached)] at hRun
    cases hRun
    obtain ⟨old, hOld, -⟩ := Memory.mem_placesOf.mp hReached
    refine ⟨_, ?_, stores_patched h.distinct ⟨_, _, next⟩ old⟩
    rw [Store.rows_rewriteAt, Memory.getElem?_changeAt _ (q.store.reached_nodup _ _ _),
      if_pos hReached, hOld]
    rfl

end Consistent

/-- **Claimed rows are usable.** If the fields that the queue writes are distinct, the time of a
claim does not mark a row as deleted, and a row in progress does not wait, then the row of every
record of a batch
1. is not taken by a claim that follows at once, whatever its time and limit,
2. is found by its id, or another row of the tenant with this id is,
3. and takes a failure as reported: if that succeeds with a retry, the row stores its attempts, its
time and the pending status. -/
theorem claimed_rows_usable (hContext : q.store.context.reports active = some tenant)
    (hRoles : q.Consistent) {batch : ClaimedBatch ρ}
    (hRun : (World.still active now).run (q.claimBatch limit) m = (.ok batch, m')) :
    ∀ record ∈ batch.records, ∃ i row,
      i ∈ Memory.claimedPlaces q.store.table tenant { q.columns with limit, now }
        (m.rows q.store.table.name) ∧
      (m'.rows q.store.table.name)[i]? = some row ∧ q.store.decodeRow row = .ok record ∧
      (∀ limit' now', i ∉ Memory.claimedPlaces q.store.table tenant
        { q.columns with limit := limit', now := now' } (m'.rows q.store.table.name)) ∧
      (∀ now',
        ((World.still active now').run
          (q.store.findById (.ofJson (row.cell q.store.table.idColumn))) m').1 ≠ .ok none ∧
        (q.store.reached tenant (.ofJson (row.cell q.store.table.idColumn))
            (m'.rows q.store.table.name) = [i] →
          (World.still active now').run
            (q.store.findById (.ofJson (row.cell q.store.table.idColumn))) m' =
              (.ok (some record), m'))) ∧
      ∀ attempts now' retry m'',
        (World.still active now').run
            (q.markFailure (.ofJson (row.cell q.store.table.idColumn)) attempts) m' =
          (.ok (some retry), m'') →
        ∃ row', (m''.rows q.store.table.name)[i]? = some row' ∧ q.Stores retry row' := by
  intro record hRecord
  rw [run_claimBatch hContext] at hRun
  split at hRun
  · cases hRun
    exact absurd hRecord List.not_mem_nil
  · cases hDecoded : q.store.decodeRows (m.claim q.store.table tenant
      { q.columns with limit, now }).1 with
    | error e =>
      rw [hDecoded] at hRun
      cases hRun
    | ok records =>
      rw [hDecoded] at hRun
      cases hRun
      obtain ⟨row, hRow, hDecode⟩ := (Except.mem_mapM hDecoded).mp hRecord
      obtain ⟨i, hi, rfl⟩ := List.mem_map.mp hRow
      obtain ⟨old, hOld, hOwned, hVisible, hNotPending⟩ := hRoles.claimed hi
      rw [Memory.getD_of_getElem? hOld] at hDecode
      have hAfter : ((m.claim q.store.table tenant { q.columns with limit, now }).2.rows
          q.store.table.name)[i]? =
          some (Memory.markClaimed { q.columns with limit, now } old) := by
        rw [Memory.rows_claim, Memory.getElem?_changeAt _ (Memory.claimedPlaces_nodup _ _ _ _),
          if_pos hi, hOld]
        rfl
      refine ⟨i, _, hi, hAfter, hDecode, ?_, ?_, ?_⟩
      · intro limit' now'
        exact not_mem_claimedPlaces hAfter hNotPending
      · intro now'
        exact ⟨Store.findById_ne_none hContext hAfter hOwned hVisible, fun hReached =>
          Store.run_findById_self hContext hAfter hVisible hReached hDecode⟩
      · intro attempts now' retry m'' hFailure
        exact hRoles.failure_stored hContext hFailure (Store.mem_reached_self hAfter hOwned)

end Queue

/-! ## Jobs with roles that fit and that do not -/

namespace Jobs

theorem consistent : queue.Consistent := ⟨by decide, fun _ _ => nofun, by decide⟩

def oneWaitingRow : Memory := ⟨[("jobs", [waiting "a"])], 1⟩

/-- The job that was claimed is found by its id. -/
theorem claimed_found :
    ((World.still (some tenant) epoch).run (queue.store.findById (.text "a"))
      ((World.still (some tenant) epoch).run (queue.claimBatch 1) oneWaitingRow).2).1 ≠
        .ok none := by
  have hContext : queue.store.context.reports (some tenant) = some tenant := rfl
  have hRun : (World.still (some tenant) epoch).run (queue.claimBatch 1) oneWaitingRow =
      (.ok ⟨[(Memory.markClaimed claim (waiting "a")).toJson], epoch⟩,
        ⟨[("jobs", [Memory.markClaimed claim (waiting "a")])], 1⟩) := rfl
  obtain ⟨i, row, -, hRow, -, -, hFound, -⟩ :=
    Queue.claimed_rows_usable hContext consistent hRun _ List.mem_cons_self
  cases i with
  | zero =>
    cases Option.some.inj hRow
    exact (hFound epoch).1
  | succ i => cases hRow

/-- The status of waiting jobs is the integer one, that of taken jobs the float one. -/
def numbered : Queue Json where
  store := store
  roles := { roles with pending := .int 1, inProgress := .float (.ofInt 1) }
  columns := { queue.columns with pending := .int 1, inProgress := .float (.ofInt 1) }
  backoff := .standard
  resolved := rfl

/-- A job that was claimed counts as deleted. -/
def discarding : Queue Json where
  store :=
    { store with
      descriptor := { descriptor with softDeleteField := some "claimed_at" }
      table := { store.table with softDeleteColumn := some "claimed_at" }
      resolved := rfl }
  roles := roles
  columns := queue.columns
  backoff := .standard
  resolved := rfl

/-- The time of a claim is kept where that of the next attempt is. -/
def mixed : Queue Json where
  store := store
  roles := { roles with claimedAt := some "due_at" }
  columns := { queue.columns with claimedAt := some "due_at" }
  backoff := .standard
  resolved := rfl

/-- Three queues that are accepted. Of the first one a claimed job is claimed once more, of the
second one it is not found by its id, and of the third one the time of the next attempt is lost. -/
theorem accepted_unusable :
    (Queue.ofRoles store numbered.roles .standard).toOption.isSome ∧
    (Queue.ofRoles discarding.store roles .standard).toOption.isSome ∧
    (Queue.ofRoles store mixed.roles .standard).toOption.isSome ∧
    (let waitingOne := (waiting "a").insert "status" (Value.int 1).toJson
     let claimed := ((World.still (some tenant) epoch).run (numbered.claimBatch 1)
      ⟨[("jobs", [waitingOne])], 1⟩).2
     Memory.claimedPlaces store.table tenant { numbered.columns with limit := 1, now := epoch }
      (claimed.rows "jobs") = [0]) ∧
    ((World.still (some tenant) epoch).run (discarding.store.findById (.text "a"))
      ((World.still (some tenant) epoch).run (discarding.claimBatch 1)
        oneWaitingRow).2).1.toOption = some none ∧
    (let failed := (World.still (some tenant) epoch).run (mixed.markFailure (.text "a") 0)
      ((World.still (some tenant) epoch).run (mixed.claimBatch 1) oneWaitingRow).2
     failed.1.toOption.join.isSome ∧
      (failed.2.rows "jobs").map (·.cell "due_at") = [.null]) := by
  refine ⟨rfl, rfl, rfl, ?_, rfl, rfl, rfl⟩
  decide +kernel

end Jobs

end Tenancy
