import Tenancy.Proofs.Backend.Claim
import Tenancy.Proofs.Equality
import Tenancy.Proofs.Queue.WriteBack

/-!
# Effects of a queue on any table

A write-back changes all rows of the tenant with the id that it names (`Store.rewrite`), and a sweep
changes the stale rows in progress (`Queue.stalePlaces`). Each of them takes effect as a whole or
fails and changes nothing, whatever the ids in the table are and whoever claimed the rows
(`Queue.run_finalize_cases`, `Queue.run_releaseStale_cases`). A row with a settled status is left
alone by claims and sweeps (`ClaimColumns.Settled`).
-/

namespace Tenancy

variable {ρ σ : Type}

/-! ## Worlds on tables -/

/-- Commands are carried out on tables in memory. The clock and the handlers may do anything. -/
structure World.OnTables (w : World σ ρ) (memory : σ → Memory) : Prop where
  answer : ∀ c x, (w.backend c x).1 = (Memory.backend c (memory x)).1
  state : ∀ c x, memory (w.backend c x).2 = (Memory.backend c (memory x)).2

theorem World.still_onTables (active : Option TenantId) (now : Instant) :
    (World.still active now : World Memory ρ).OnTables id := ⟨fun _ _ => rfl, fun _ _ => rfl⟩

namespace Store

variable {s : Store ρ} {tenant : TenantId}

/-! ## Rows reached by an id -/

theorem scopeConditions_ok {filter : Filter} {conditions : List Condition}
    (h : List.Forall₂ (fun c d : Condition => c.name ≠ s.descriptor.tenantField ∧
      s.columns.column? c.name = some d.name ∧ d.test = c.test) filter.conditions conditions) :
    s.scopeConditions filter = .ok conditions := by
  have hOwn : filter.conditions.filter (!s.isTenantField ·.name) = filter.conditions := by
    refine List.filter_eq_self.mpr fun c hc => ?_
    obtain ⟨d, -, hName, -⟩ := exists_left_of_mem h.flip hc
    simpa [isTenantField] using hName
  rw [scopeConditions, hOwn]
  refine Except.mapM_eq_ok.mpr (h.imp ?_)
  rintro c ⟨name, test⟩ ⟨-, hColumn, rfl⟩
  rw [ColumnMap.column_eq_ok_iff.mpr hColumn]
  rfl

/-- The condition that a row has this id. -/
def idCondition (s : Store ρ) (id : Value) : Condition :=
  ⟨s.table.idColumn, (Test.eq id).normalized⟩

/-- The places of the tenant's rows with this id. -/
def reached (s : Store ρ) (tenant : TenantId) (id : Value) (rows : List Row) : List Nat :=
  Memory.placesOf (Memory.selects s.table tenant [s.idCondition id]) rows

theorem reached_nodup (s : Store ρ) (tenant : TenantId) (id : Value) (rows : List Row) :
    (s.reached tenant id rows).Nodup := Memory.placesOf_nodup _ _

theorem scopeConditions_idFilter (s : Store ρ) (id : Value) :
    s.scopeConditions (s.idFilter id) = .ok [s.idCondition id] :=
  scopeConditions_ok (.cons ⟨s.resolution.idField_ne_tenantField, s.resolution.idColumn, rfl⟩ .nil)

/-- A condition on an id holds for the rows that have it, as other than `null` or as `null`. -/
theorem idCondition_self (s : Store ρ) (row : Row) :
    (s.idCondition (.ofJson (row.cell s.table.idColumn))).holds row := by
  rw [Condition.holds, idCondition]
  by_cases hNull : row.cell s.table.idColumn = .null
  · rw [hNull]
    rfl
  · rw [normalized_eq_ofJson hNull]
    exact Value.matchesCell_self hNull

/-- An id reaches the rows of the tenant whose cells it matches. -/
theorem mem_reached_iff {rows : List Row} {i : Nat} {row : Row} (hRow : rows[i]? = some row)
    (hNull : row.cell s.table.idColumn ≠ .null) (id : Value) :
    i ∈ s.reached tenant id rows ↔
      Memory.ownedBy s.table tenant row ∧ id.matchesCell (row.cell s.table.idColumn) := by
  have hHolds : (s.idCondition id).holds row = id.matchesCell (row.cell s.table.idColumn) := by
    cases id with
    | null =>
      change (row.cell s.table.idColumn).isNull = _
      cases hCell : row.cell s.table.idColumn with
      | null => exact absurd hCell hNull
      | _ => rfl
    | _ => rfl
  rw [reached, Memory.mem_placesOf]
  simp [hRow, Memory.selects, hHolds]

/-- Every row of the tenant is reached by its own id. -/
theorem mem_reached_self {rows : List Row} {i : Nat} {row : Row} (hRow : rows[i]? = some row)
    (hOwned : Memory.ownedBy s.table tenant row) :
    i ∈ s.reached tenant (.ofJson (row.cell s.table.idColumn)) rows := by
  refine Memory.mem_placesOf.mpr ⟨row, hRow, ?_⟩
  simp [Memory.selects, hOwned, s.idCondition_self row]

/-- Under unique ids a row of the tenant is all that its id reaches. -/
theorem reached_eq_singleton {rows : List Row} {i : Nat} {row : Row}
    (hIds : Memory.UniqueIds s.table rows) (hRow : rows[i]? = some row)
    (hOwned : Memory.ownedBy s.table tenant row) :
    s.reached tenant (.ofJson (row.cell s.table.idColumn)) rows = [i] := by
  obtain ⟨-, hNull⟩ := hIds.scalar_of_mem (List.mem_of_getElem? hRow)
  rw [reached, idCondition, normalized_eq_ofJson hNull]
  exact hIds.placesOf_id hRow hOwned

/-! ## Patched rows -/

/-- The row as an accepted patch leaves it. -/
def patched (s : Store ρ) (patch : Patch) (row : Row) : Row :=
  match s.resolvePatch patch with
  | .ok assignments => Memory.assign assignments row
  | .error _ => row

theorem patched_eq {patch : Patch} {assignments : List Assignment}
    (h : s.resolvePatch patch = .ok assignments) :
    s.patched patch = Memory.assign assignments := by
  funext row
  rw [patched, h]

/-- Columns of fields that the patch does not name keep their cells. -/
theorem get?_patched_of_ne {patch : Patch} {column : String}
    (h : ∀ field value, patch.get? field = some value → s.columns.column? field ≠ some column)
    (row : Row) : (s.patched patch row).get? column = row.get? column := by
  cases hAssignments : s.resolvePatch patch with
  | error e => rw [patched, hAssignments]
  | ok assignments =>
    rw [patched_eq hAssignments]
    refine Memory.get?_assign_of_ne ?_ row
    rintro b hb rfl
    obtain ⟨a, ha, hName, -⟩ := exists_left_of_mem (resolvePatch_pairs hAssignments) hb
    obtain ⟨value, hAssigned⟩ := Patch.get?_of_mem (List.mem_of_mem_filter ha)
    exact h _ value hAssigned hName

/-- The tables after a patch of the rows at some places. -/
def rewriteAt (s : Store ρ) (patch : Patch) (places : List Nat) (m : Memory) : Memory :=
  m.setRows s.table.name (Memory.changeAt (s.patched patch) places (m.rows s.table.name))

theorem rows_rewriteAt (s : Store ρ) (patch : Patch) (places : List Nat) (m : Memory) :
    (s.rewriteAt patch places m).rows s.table.name =
      Memory.changeAt (s.patched patch) places (m.rows s.table.name) :=
  Memory.rows_setRows_self _ _ _

/-- Of the rows that an id reaches after a patch of the rows that it reached, all are patched. -/
theorem exists_patched {patch : Patch} {id : Value} {m : Memory} {k : Nat} {row : Row}
    (hReached : k ∈ s.reached tenant id ((s.rewriteAt patch
      (s.reached tenant id (m.rows s.table.name)) m).rows s.table.name))
    (hRow : ((s.rewriteAt patch (s.reached tenant id (m.rows s.table.name)) m).rows
      s.table.name)[k]? = some row) :
    ∃ old, (m.rows s.table.name)[k]? = some old ∧ row = s.patched patch old := by
  obtain ⟨row', hRow', hSelects⟩ := Memory.mem_placesOf.mp hReached
  cases Option.some.inj (hRow.symm.trans hRow')
  rw [rows_rewriteAt, Memory.getElem?_changeAt _ (s.reached_nodup _ _ _)] at hRow
  split at hRow
  · obtain ⟨old, hOld, rfl⟩ := Option.map_eq_some_iff.mp hRow
    exact ⟨old, hOld, rfl⟩
  · rename_i hNotReached
    exact absurd (Memory.mem_placesOf.mpr ⟨row, hRow, hSelects⟩) hNotReached

/-- An update that is accepted patches the selected rows, or it fails and changes nothing. -/
theorem run_update_cases {w : World σ ρ} {memory : σ → Memory} (hTables : w.OnTables memory)
    (hContext : s.context.reports w.tenant = some tenant) {filter : Filter} {patch : Patch}
    {conditions : List Condition} {assignments : List Assignment}
    (hConditions : s.scopeConditions filter = .ok conditions)
    (hAssignments : s.resolvePatch patch = .ok assignments) (hSome : assignments ≠ []) (x : σ) :
    (∃ e y, w.run (s.update filter patch) x = (.error (.error e), y) ∧ memory y = memory x) ∨
      ∃ y, w.run (s.update filter patch) x =
          (.ok (Memory.placesOf (Memory.selects s.table tenant conditions)
            ((memory x).rows s.table.name)).length, y) ∧
        memory y = s.rewriteAt patch (Memory.placesOf (Memory.selects s.table tenant conditions)
          ((memory x).rows s.table.name)) (memory x) := by
  have hState := hTables.state (.update s.table tenant conditions assignments) x
  rw [run_update hContext hConditions hAssignments hSome, hTables.answer]
  generalize (w.backend (.update s.table tenant conditions assignments) x).2 = y at hState
  simp only [Memory.backend] at hState ⊢
  rcases Memory.update_eq s.table tenant conditions assignments (memory x) with
    ⟨e, hUpdate⟩ | hUpdate
  · rw [hUpdate] at hState ⊢
    exact .inl ⟨e, y, rfl, hState⟩
  · rw [hUpdate] at hState ⊢
    refine .inr ⟨y, ?_, ?_⟩
    · simp only [Except.map, Except.mapError, List.length_map]
    · rw [hState, rewriteAt, patched_eq hAssignments]

/-- A patch of an id goes to all rows that the id reaches, or it fails and changes nothing. -/
theorem run_updateById_cases {w : World σ ρ} {memory : σ → Memory} (hTables : w.OnTables memory)
    (hContext : s.context.reports w.tenant = some tenant) {patch : Patch}
    {assignments : List Assignment} (hAssignments : s.resolvePatch patch = .ok assignments)
    (hSome : assignments ≠ []) (id : Value) (x : σ) :
    (∃ e y, w.run (s.updateById id patch) x = (.error (.error e), y) ∧ memory y = memory x) ∨
      ∃ y, w.run (s.updateById id patch) x =
          (.ok (decide (0 < (s.reached tenant id ((memory x).rows s.table.name)).length)), y) ∧
        memory y = s.rewriteAt patch (s.reached tenant id ((memory x).rows s.table.name))
          (memory x) := by
  rw [updateById, World.run_bind]
  rcases run_update_cases hTables hContext (s.scopeConditions_idFilter id) hAssignments hSome x with
    ⟨e, y, hRun, hSame⟩ | ⟨y, hRun, hMemory⟩
  · rw [hRun]
    exact .inl ⟨e, y, rfl, hSame⟩
  · rw [hRun]
    exact .inr ⟨y, rfl, hMemory⟩

/-- A patch of an id that reaches one row goes in if the new row collides with none of the
others. -/
theorem run_updateById_singleton {active : Option TenantId} {now : Instant} {m : Memory}
    (hContext : s.context.reports active = some tenant) {patch : Patch}
    {assignments : List Assignment} (hAssignments : s.resolvePatch patch = .ok assignments)
    (hSome : assignments ≠ []) {id : Value} {i : Nat} {row : Row}
    (hReached : s.reached tenant id (m.rows s.table.name) = [i])
    (hRow : (m.rows s.table.name)[i]? = some row) :
    (World.still active now).run (s.updateById id patch) m =
      match Memory.checkUnique s.table ((m.rows s.table.name).eraseIdx i) (s.patched patch row) with
      | .error e => (.error (.error e), m)
      | .ok _ => (.ok true, s.rewriteAt patch [i] m) := by
  rw [run_updateById (w := World.still active now) hContext (s.scopeConditions_idFilter id)
    hAssignments hSome]
  simp only [World.still, Memory.backend]
  rw [Memory.update_singleton hReached hRow, rewriteAt, patched_eq hAssignments]
  cases Memory.checkUnique s.table ((m.rows s.table.name).eraseIdx i)
    (Memory.assign assignments row) <;> rfl

end Store

namespace Queue

variable {q : Queue ρ} {tenant : TenantId} {active : Option TenantId} {now : Instant} {m : Memory}

/-! ## Reports -/

/-- The patch assigns to the status, and to nothing but roles. -/
structure IsReport (q : Queue ρ) (patch : Patch) : Prop where
  roles : q.OnRoles patch
  status : ∃ value, patch.get? q.roles.status = some value

namespace IsReport

variable {patch : Patch}

theorem exists_assignments (h : q.IsReport patch) :
    ∃ assignments, q.store.resolvePatch patch = .ok assignments ∧ assignments ≠ [] := by
  obtain ⟨value, hStatus⟩ := h.status
  refine q.store.resolvePatch_ok (fun a ha => ?_)
    (q.resolution.reserved _ (mem_fields q.roles).1).1 hStatus
  obtain ⟨value, hAssigned⟩ := Patch.get?_of_mem ha
  exact q.resolution.column_of_mem (h.roles _ _ hAssigned)

/-- A column of a role has the value assigned to the role, if there is one. -/
theorem get?_patched (h : q.IsReport patch) {role column : String} (hRole : role ∈ q.roles.fields)
    (hColumn : q.store.columns.column? role = some column) (row : Row) :
    (q.store.patched patch row).get? column =
      ((patch.get? role).map Value.toJson).or (row.get? column) := by
  obtain ⟨assignments, hAssignments, -⟩ := h.exists_assignments
  rw [Store.patched_eq hAssignments]
  exact Store.get?_assign hAssignments hColumn (q.resolution.reserved _ hRole).1 row

/-- Columns of no role keep their cells. -/
theorem get?_patched_of_ne (h : q.IsReport patch) {column : String}
    (hColumn : ∀ role ∈ q.roles.fields, q.store.columns.column? role ≠ some column) (row : Row) :
    (q.store.patched patch row).get? column = row.get? column :=
  Store.get?_patched_of_ne (fun role _ hAssigned => hColumn role (h.roles _ _ hAssigned)) row

theorem cell_patched (h : q.IsReport patch) {role column : String} (hRole : role ∈ q.roles.fields)
    (hColumn : q.store.columns.column? role = some column) {value : Value}
    (hValue : patch.get? role = some value) (row : Row) :
    (q.store.patched patch row).cell column = value.toJson := by
  rw [Row.cell, h.get?_patched hRole hColumn, hValue]
  rfl

theorem keepsIdentity (h : q.IsReport patch) :
    KeepsIdentity q.store.table (q.store.patched patch) := by
  have hKeeps : ∀ {field column : String}, q.store.columns.column? field = some column →
      (field = q.store.descriptor.tenantField ∨ field = q.store.descriptor.idField) →
      ∀ row, (q.store.patched patch row).cell column = row.cell column := by
    intro field column hColumn hField row
    rw [Row.cell, h.get?_patched_of_ne ?_, Row.cell]
    intro role hRole hSame
    obtain rfl := ColumnMap.column?_inj hSame hColumn
    obtain ⟨hTenant, hId⟩ := q.resolution.reserved _ hRole
    exact hField.elim hTenant hId
  exact ⟨hKeeps q.store.resolution.idColumn (.inr rfl),
    hKeeps q.store.resolution.tenantColumn (.inl rfl)⟩

end IsReport

/-! ## Write-backs -/

/-- What a verdict assigns; a failed row waits until `next`. -/
def verdictPatch (q : Queue ρ) (next : Instant) : Verdict → Patch
  | .failure attempts => q.retryPatch q.roles.retryFields (nextAttempt attempts) next
  | .success status => Patch.empty.set q.roles.status status
  | .exhausted status attempts =>
    q.clearClaim ((Patch.empty.set q.roles.status status).set q.roles.attempts
      (.ofNat (nextAttempt attempts)))

theorem get?_retryPatch (q : Queue ρ) (attempts : Nat) (next : Instant) (field : String) :
    (q.retryPatch q.roles.retryFields attempts next).get? field =
      if q.roles.claimedAt = some field then some .null
      else if field = q.roles.status then some q.roles.pending
      else if field = q.roles.nextAttemptAt then some (.timestamp next)
      else if field = q.roles.attempts then some (.ofNat attempts)
      else none := by
  rw [retryPatch, get?_clearClaim, Patch.get?_set, Patch.get?_set, Patch.get?_set,
    Patch.get?_empty]
  rfl

theorem get?_exhaustedPatch_status (hClaimedAt : q.roles.claimedAt ≠ some q.roles.status)
    (hAttempts : q.roles.attempts ≠ q.roles.status) (status : Value) (attempts : Nat) :
    (q.clearClaim ((Patch.empty.set q.roles.status status).set q.roles.attempts
      (.ofNat attempts))).get? q.roles.status = some status := by
  rw [get?_clearClaim, if_neg hClaimedAt, Patch.get?_set, if_neg hAttempts.symm, Patch.get?_set,
    if_pos rfl]

/-- The status that a verdict leaves, where no other role falls on the status. -/
theorem get?_verdictPatch_status (hClaimedAt : q.roles.claimedAt ≠ some q.roles.status)
    (hAttempts : q.roles.attempts ≠ q.roles.status) (next : Instant) (verdict : Verdict) :
    (q.verdictPatch next verdict).get? q.roles.status =
      some (verdict.status?.getD q.roles.pending) := by
  cases verdict with
  | failure attempts =>
    rw [verdictPatch, get?_retryPatch, if_neg hClaimedAt, if_pos rfl]
    rfl
  | success status =>
    rw [verdictPatch, Patch.get?_set, if_pos rfl]
    rfl
  | exhausted status attempts =>
    exact get?_exhaustedPatch_status hClaimedAt hAttempts status _

theorem isReport_retryPatch (q : Queue ρ) (attempts : Nat) (next : Instant) :
    q.IsReport (q.retryPatch q.roles.retryFields attempts next) := by
  obtain ⟨hStatus, hNextAttemptAt, hAttempts⟩ := mem_fields q.roles
  refine ⟨((((OnRoles.empty q).set hAttempts _).set hNextAttemptAt _).set hStatus _).clearClaim, ?_⟩
  rw [get?_retryPatch]
  split
  · exact ⟨_, rfl⟩
  · exact ⟨_, if_pos rfl⟩

theorem isReport_statusPatch (q : Queue ρ) (status : Value) :
    q.IsReport (Patch.empty.set q.roles.status status) :=
  ⟨(OnRoles.empty q).set (mem_fields q.roles).1 _, status,
    (Patch.get?_set _ _ _ _).trans (if_pos rfl)⟩

theorem isReport_exhaustedPatch (q : Queue ρ) (status : Value) (attempts : Nat) :
    q.IsReport (q.clearClaim ((Patch.empty.set q.roles.status status).set q.roles.attempts
      (.ofNat attempts))) := by
  obtain ⟨hStatus, -, hAttempts⟩ := mem_fields q.roles
  refine ⟨(((OnRoles.empty q).set hStatus _).set hAttempts _).clearClaim, ?_⟩
  rw [get?_clearClaim, Patch.get?_set, Patch.get?_set]
  split
  · exact ⟨_, rfl⟩
  · split
    · exact ⟨_, rfl⟩
    · exact ⟨status, if_pos rfl⟩

theorem isReport_verdictPatch (q : Queue ρ) (next : Instant) (verdict : Verdict) :
    q.IsReport (q.verdictPatch next verdict) := by
  cases verdict with
  | failure attempts => exact q.isReport_retryPatch (nextAttempt attempts) next
  | success status => exact q.isReport_statusPatch status
  | exhausted status attempts => exact q.isReport_exhaustedPatch status _

/-- A final verdict is written to all rows that the id reaches, or it fails and changes nothing. -/
theorem run_final_cases {w : World σ ρ} {memory : σ → Memory} (hTables : w.OnTables memory)
    (hContext : q.store.context.reports w.tenant = some tenant) (id : Value) {verdict : Verdict}
    (hFinal : verdict.status?.isSome) (next : Instant) (x : σ) :
    (∃ e y, w.run (q.finalize id verdict) x = (.error (.error e), y) ∧ memory y = memory x) ∨
      ∃ y, w.run (q.finalize id verdict) x =
          (.ok (decide (0 < (q.store.reached tenant id
            ((memory x).rows q.store.table.name)).length)), y) ∧
        memory y = q.store.rewriteAt (q.verdictPatch next verdict)
          (q.store.reached tenant id ((memory x).rows q.store.table.name)) (memory x) := by
  obtain ⟨assignments, hAssignments, hSome⟩ :=
    (q.isReport_verdictPatch next verdict).exists_assignments
  cases verdict with
  | failure attempts => cases hFinal
  | success status =>
    exact Store.run_updateById_cases hTables hContext hAssignments hSome id x
  | exhausted status attempts =>
    exact Store.run_updateById_cases hTables hContext hAssignments hSome id x

/-- A verdict is written to all rows that the id reaches, or it fails and changes nothing. -/
theorem run_finalize_cases (now : Instant)
    (hContext : q.store.context.reports (some tenant) = some tenant) (id : Value)
    (verdict : Verdict) (m : Memory) :
    (∃ e, (World.still (some tenant) now).run (q.finalize id verdict) m =
        (.error (.error e), m)) ∨
      ∃ next, (World.still (some tenant) now).run (q.finalize id verdict) m =
        (.ok (decide (0 < (q.store.reached tenant id (m.rows q.store.table.name)).length)),
          q.store.rewriteAt (q.verdictPatch next verdict)
            (q.store.reached tenant id (m.rows q.store.table.name)) m) := by
  by_cases hFinal : verdict.status?.isSome
  · rcases run_final_cases (World.still_onTables (some tenant) now) hContext id hFinal now m with
      ⟨e, _, hRun, rfl⟩ | ⟨_, hRun, rfl⟩
    · exact .inl ⟨e, hRun⟩
    · exact .inr ⟨now, hRun⟩
  · cases verdict with
    | success status => exact absurd rfl hFinal
    | exhausted status attempts => exact absurd rfl hFinal
    | failure attempts =>
      rw [run_finalize_failure hContext]
      split
      · exact .inl ⟨_, rfl⟩
      · rename_i next hNext
        obtain ⟨assignments, hAssignments, hSome⟩ :=
          (q.isReport_verdictPatch next (.failure attempts)).exists_assignments
        rcases Store.run_updateById_cases (World.still_onTables (some tenant) now) hContext
          hAssignments hSome id m with ⟨e, _, hRun, rfl⟩ | ⟨_, hRun, rfl⟩
        · exact .inl ⟨e, hRun⟩
        · exact .inr ⟨next, hRun⟩

/-- A failed row waits until the delay is over. The instant may be out of range, and the update may
fail; neither changes anything. -/
theorem run_markFailure_cases (hContext : q.store.context.reports active = some tenant) (id : Value)
    (attempts : Nat) (m : Memory) :
    (now.after? (q.backoff.delay attempts) = none ∧
      (World.still active now).run (q.markFailure id attempts) m =
        (.error (.error (.configuration (.delayOutOfRange (q.backoff.delay attempts)))), m)) ∨
    ∃ next, now.after? (q.backoff.delay attempts) = some next ∧
      ((∃ e, (World.still active now).run (q.markFailure id attempts) m = (.error (.error e), m)) ∨
        (World.still active now).run (q.markFailure id attempts) m =
          (.ok (if 0 < (q.store.reached tenant id (m.rows q.store.table.name)).length then
              some ⟨nextAttempt attempts, q.backoff.delay attempts, next⟩ else none),
            q.store.rewriteAt (q.retryPatch q.roles.retryFields (nextAttempt attempts) next)
              (q.store.reached tenant id (m.rows q.store.table.name)) m)) := by
  rw [run_markFailure hContext]
  cases now.after? (q.backoff.delay attempts) with
  | none => exact .inl ⟨rfl, rfl⟩
  | some next =>
    obtain ⟨assignments, hAssignments, hSome⟩ :=
      (q.isReport_retryPatch (nextAttempt attempts) next).exists_assignments
    refine .inr ⟨next, rfl, ?_⟩
    dsimp only
    rcases Store.run_updateById_cases (World.still_onTables active now) hContext hAssignments
      hSome id m with ⟨e, y, hRun, hSame⟩ | ⟨y, hRun, hMemory⟩
    · rw [hRun]
      exact .inl ⟨e, Prod.ext rfl hSame⟩
    · rw [hRun]
      refine .inr (Prod.ext ?_ hMemory)
      simp only [decide_eq_true_eq]
      rfl

/-! ## Sweeps -/

/-- The places of the tenant's rows in progress that were claimed before `now` by more than
`age`. -/
def stalePlaces (q : Queue ρ) (tenant : TenantId) (age : Duration) (now : Instant)
    (rows : List Row) : List Nat :=
  match q.columns.claimedAt, now.before? age with
  | some claimedAt, some cutoff => Memory.placesOf (Memory.selects q.store.table tenant
      [⟨q.columns.status, .eq q.columns.inProgress⟩, ⟨claimedAt, .lt (.timestamp cutoff)⟩]) rows
  | _, _ => []

theorem inProgress_normalized (q : Queue ρ) :
    (Test.eq q.roles.inProgress).normalized = .eq q.columns.inProgress := by
  have hNotNull := (QueueRoles.statuses_of_resolve q.resolved).2.1
  rw [q.resolution.inProgress]
  cases hCase : q.roles.inProgress with
  | null =>
    rw [hCase] at hNotNull
    cases hNotNull
  | _ => rfl

/-- What a sweep assigns to the rows that it releases. -/
def releasePatch (q : Queue ρ) : Patch :=
  q.clearClaim (Patch.empty.set q.roles.status q.roles.pending)

theorem mem_stalePlaces {age : Duration} {rows : List Row} {i : Nat}
    (h : i ∈ q.stalePlaces tenant age now rows) :
    ∃ row, rows[i]? = some row ∧ q.columns.inProgress.matchesCell (row.cell q.columns.status) := by
  unfold stalePlaces at h
  split at h
  · obtain ⟨row, hRow, hSelects⟩ := Memory.mem_placesOf.mp h
    simp only [Memory.selects, List.all_cons, Bool.and_eq_true] at hSelects
    exact ⟨row, hRow, hSelects.2.1⟩
  · exact absurd h List.not_mem_nil

theorem stalePlaces_nodup (q : Queue ρ) (tenant : TenantId) (age : Duration) (now : Instant)
    (rows : List Row) : (q.stalePlaces tenant age now rows).Nodup := by
  unfold stalePlaces
  split
  · exact Memory.placesOf_nodup _ _
  · exact List.nodup_nil

theorem isReport_releasePatch (q : Queue ρ) : q.IsReport q.releasePatch := by
  have hStatus := (mem_fields q.roles).1
  refine ⟨((OnRoles.empty q).set hStatus _).clearClaim, ?_⟩
  rw [releasePatch, get?_clearClaim]
  split
  · exact ⟨_, rfl⟩
  · exact ⟨_, (Patch.get?_set _ _ _ _).trans (if_pos rfl)⟩

theorem get?_releasePatch (q : Queue ρ) (field : String) :
    q.releasePatch.get? field =
      if q.roles.claimedAt = some field then some .null
      else if field = q.roles.status then some q.roles.pending
      else none := by
  rw [releasePatch, get?_clearClaim, Patch.get?_set, Patch.get?_empty]

/-- A sweep to an instant that can be reached is one update. -/
theorem run_releaseStale_eq (hContext : q.store.context.reports active = some tenant)
    {column : String} (hColumn : q.columns.claimedAt = some column) {age : Duration}
    (hMove : age.nanoseconds ≤ Instant.longestMove) {cutoff : Instant}
    (hCutoff : now.before? age = some cutoff) (m : Memory) :
    ∃ assignments, q.store.resolvePatch q.releasePatch = .ok assignments ∧
      q.stalePlaces tenant age now = Memory.placesOf (Memory.selects q.store.table tenant
        [⟨q.columns.status, .eq q.columns.inProgress⟩, ⟨column, .lt (.timestamp cutoff)⟩]) ∧
      (World.still active now).run (q.releaseStale age) m =
        (((m.update q.store.table tenant [⟨q.columns.status, .eq q.columns.inProgress⟩,
            ⟨column, .lt (.timestamp cutoff)⟩] assignments).1.map List.length).mapError .error,
          (m.update q.store.table tenant [⟨q.columns.status, .eq q.columns.inProgress⟩,
            ⟨column, .lt (.timestamp cutoff)⟩] assignments).2) := by
  obtain ⟨claimedAt, hClaimedAt, hName⟩ := q.resolution.exists_claimedAt hColumn
  have hReserved := fun {role} hRole => (q.resolution.reserved role hRole).1
  have hConditions : q.store.scopeConditions ((Filter.ofEq q.roles.status
      q.roles.inProgress).require claimedAt (.lt (.timestamp cutoff))) =
      .ok [⟨q.columns.status, .eq q.columns.inProgress⟩, ⟨column, .lt (.timestamp cutoff)⟩] := by
    refine Store.scopeConditions_ok (.cons ?_ (.cons ?_ .nil))
    · exact ⟨hReserved (mem_fields q.roles).1, q.resolution.status, q.inProgress_normalized.symm⟩
    · exact ⟨hReserved (by simp [QueueRoles.fields, hClaimedAt]), hName, rfl⟩
  have hPatch : (Patch.empty.set q.roles.status q.roles.pending).set claimedAt .null =
      q.releasePatch := by
    rw [releasePatch, clearClaim, hClaimedAt]
  obtain ⟨assignments, hAssignments, hSome⟩ := q.isReport_releasePatch.exists_assignments
  refine ⟨assignments, hAssignments, ?_, ?_⟩
  · funext rows
    rw [stalePlaces, hColumn, hCutoff]
  · rw [releaseStale, Store.run_scope (w := World.still active now) hContext, hClaimedAt]
    dsimp only
    rw [if_neg (Nat.not_lt.mpr hMove), World.run_bind, World.run_time]
    simp only [World.time_still, hCutoff, hPatch]
    exact Store.run_update (w := World.still active now) hContext hConditions hAssignments hSome m

/-- A sweep puts back the stale rows, or it fails and changes nothing. -/
theorem run_releaseStale_cases (now : Instant)
    (hContext : q.store.context.reports active = some tenant) (age : Duration) (m : Memory) :
    (∃ e, (World.still active now).run (q.releaseStale age) m = (.error e, m)) ∨
      (World.still active now).run (q.releaseStale age) m =
        (.ok (q.stalePlaces tenant age now (m.rows q.store.table.name)).length,
          q.store.rewriteAt q.releasePatch
            (q.stalePlaces tenant age now (m.rows q.store.table.name)) m) := by
  cases hClaimedAt : q.roles.claimedAt with
  | none =>
    rw [releaseStale, Store.run_scope (w := World.still active now) hContext, hClaimedAt]
    exact .inl ⟨_, rfl⟩
  | some claimedAt =>
    by_cases hMove : Instant.longestMove < age.nanoseconds
    · rw [releaseStale, Store.run_scope (w := World.still active now) hContext, hClaimedAt]
      dsimp only
      rw [if_pos hMove]
      exact .inl ⟨_, rfl⟩
    · cases hCutoff : now.before? age with
      | none =>
        rw [releaseStale, Store.run_scope (w := World.still active now) hContext, hClaimedAt]
        dsimp only
        rw [if_neg hMove, World.run_bind, World.run_time]
        simp only [World.time_still, hCutoff]
        exact .inl ⟨_, rfl⟩
      | some cutoff =>
        obtain ⟨column, hColumn, -⟩ := Except.mapM_some (hClaimedAt ▸ q.resolution.claimedAt)
        obtain ⟨assignments, hAssignments, hPlaces, hRun⟩ := q.run_releaseStale_eq hContext hColumn
          (Nat.not_lt.mp hMove) hCutoff m
        rw [hRun, hPlaces, Store.rewriteAt, Store.patched_eq hAssignments]
        rcases Memory.update_eq q.store.table tenant [⟨q.columns.status, .eq q.columns.inProgress⟩,
          ⟨column, .lt (.timestamp cutoff)⟩] assignments m with ⟨e, hUpdate⟩ | hUpdate
        · rw [hUpdate]
          exact .inl ⟨_, rfl⟩
        · rw [hUpdate]
          simp only [Except.map, Except.mapError, List.length_map]
          exact .inr trivial

/-! ## Settled rows -/

end Queue

/-- The status of the row is neither that of waiting rows nor that of rows in progress. -/
def ClaimColumns.Settled (c : ClaimColumns) (row : Row) : Prop :=
  c.pending.matchesCell (row.cell c.status) = false ∧
    c.inProgress.matchesCell (row.cell c.status) = false

namespace Queue

variable {q : Queue ρ} {tenant : TenantId} {active : Option TenantId} {now : Instant} {m : Memory}
  {i : Nat} {row : Row}

/-- No claim takes a row whose status is not that of waiting rows. -/
theorem not_mem_claimedPlaces {table : Table} {c : Claim} {rows : List Row}
    (hRow : rows[i]? = some row) (h : c.pending.matchesCell (row.cell c.status) = false) :
    i ∉ Memory.claimedPlaces table tenant c rows := by
  intro hTaken
  obtain ⟨old, hOld, hEligible⟩ := Memory.mem_placesOf.mp (Memory.mem_claimedPlaces hTaken)
  cases Option.some.inj (hRow.symm.trans hOld)
  simp only [Memory.isEligible, Bool.and_eq_true] at hEligible
  rw [hEligible.1.1.1.2] at h
  cases h

/-- A claim leaves a row alone that does not wait. -/
theorem claim_getElem? {table : Table} {c : Claim} (hRow : (m.rows table.name)[i]? = some row)
    (h : c.pending.matchesCell (row.cell c.status) = false) :
    ((m.claim table tenant c).2.rows table.name)[i]? = some row := by
  rw [Memory.rows_claim, Memory.getElem?_changeAt _ (Memory.claimedPlaces_nodup _ _ _ _),
    if_neg (not_mem_claimedPlaces hRow h)]
  exact hRow

theorem run_claimBatch_getElem? (active : Option TenantId) (now : Instant)
    (hRow : (m.rows q.store.table.name)[i]? = some row)
    (h : q.columns.pending.matchesCell (row.cell q.columns.status) = false) (limit : Nat) :
    (((World.still active now).run (q.claimBatch limit) m).2.rows q.store.table.name)[i]? =
      some row := by
  cases hContext : q.store.context.reports active with
  | none =>
    rw [claimBatch, Store.run_unscoped (w := World.still active now) hContext]
    exact hRow
  | some tenant =>
    rw [run_claimBatch hContext]
    split
    · exact hRow
    · exact claim_getElem? hRow h

theorem not_mem_stalePlaces {age : Duration} {rows : List Row} (hRow : rows[i]? = some row)
    (h : q.columns.inProgress.matchesCell (row.cell q.columns.status) = false) :
    i ∉ q.stalePlaces tenant age now rows := by
  intro hStale
  obtain ⟨old, hOld, hMatches⟩ := mem_stalePlaces hStale
  cases Option.some.inj (hRow.symm.trans hOld)
  rw [hMatches] at h
  cases h

/-- A sweep leaves a row alone that is not in progress. -/
theorem run_releaseStale_getElem? (active : Option TenantId) (now : Instant)
    (hRow : (m.rows q.store.table.name)[i]? = some row)
    (h : q.columns.inProgress.matchesCell (row.cell q.columns.status) = false) (age : Duration) :
    (((World.still active now).run (q.releaseStale age) m).2.rows q.store.table.name)[i]? =
      some row := by
  cases hContext : q.store.context.reports active with
  | none =>
    rw [releaseStale, Store.run_unscoped (w := World.still active now) hContext]
    exact hRow
  | some tenant =>
    rcases run_releaseStale_cases now hContext age m with ⟨e, hRun⟩ | hRun
    · rw [hRun]
      exact hRow
    · rw [hRun, Store.rows_rewriteAt, Memory.getElem?_changeAt _ (q.stalePlaces_nodup _ _ _ _),
        if_neg (not_mem_stalePlaces hRow h)]
      exact hRow

end Queue

/-! ## Workers -/

def Verdict.outcome : Verdict → Outcome
  | .failure _ => .retried
  | .success _ => .succeeded
  | .exhausted _ _ => .exhausted

namespace Worker

/-- The queue with the delays of the worker. -/
def reporter (w : Worker ρ) : Queue ρ := { w.queue with backoff := w.settings.backoff }

/-- What the worker writes back for a record. -/
def verdict (w : Worker ρ) (attempts : Nat) (succeeds : Bool) : Verdict :=
  if succeeds then .success w.settings.success
  else if w.isLastAttempt attempts then .exhausted w.settings.failed attempts
  else .failure attempts

theorem finalize_eq (w : Worker ρ) (record : ρ) :
    w.finalize record = (do
      let id ← Program.ofExcept (w.queue.store.recordId record)
      let cell ← Program.ofExcept (w.queue.store.fieldValue record w.queue.roles.attempts)
      let succeeds ← Program.handle record
      let _ ← w.reporter.finalize id (w.verdict (attemptsOf cell) succeeds)
      pure (w.verdict (attemptsOf cell) succeeds).outcome) := by
  unfold finalize
  refine bind_congr fun id => bind_congr fun cell => bind_congr fun succeeds => ?_
  cases succeeds with
  | true => rfl
  | false =>
    cases hLast : w.isLastAttempt (attemptsOf cell) with
    | true =>
      simp only [verdict, hLast]
      rfl
    | false =>
      simp only [verdict, hLast, Bool.false_eq_true, ite_false, Queue.finalize, bind_assoc,
        pure_bind]
      rfl

end Worker

end Tenancy
