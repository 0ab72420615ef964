import Tenancy.Proofs.Queue.Handover
import Tenancy.Proofs.Time.Rfc3339

/-!
# Retries

A failure that is reported puts its row back into the queue until the delay for its attempts is over
(`Queue.retry_gates_claims`). The instant goes into the row as text, and a claim reads it from there
to compare it with its own time, so the two must agree to the nanosecond. The row itself goes back
only if it collides with no other one: claims of another queue on the same table check no keys.
-/

namespace Tenancy

variable {ρ : Type}

/-- A stored time is due from this time on. -/
theorem Memory.due_timestamp_iff {t now : Instant} (hYear : 0 ≤ t.year ∧ t.year ≤ 9999) :
    Due now (Value.timestamp t).toJson ↔ (t.compare now).isLE := by
  have hRead := Rfc3339.ofText?_text hYear
  constructor
  · rintro (hNull | ⟨text, time, hText, hTime, hDue⟩)
    · cases hNull
    · cases hText
      cases Option.some.inj (hRead.symm.trans hTime)
      exact hDue
  · intro hDue
    exact .inr ⟨_, t, rfl, hRead, hDue⟩

namespace Queue

variable {q : Queue ρ} {tenant : TenantId} {active : Option TenantId} {now : Instant} {m : Memory}
  {i : Nat} {row : Row}

/-! ## Rows of a retry -/

/-- The new row stores the retry, is not claimed, and is the old one in all columns that the queue
does not write. -/
structure Retried (q : Queue ρ) (retry : ScheduledRetry) (old new : Row) : Prop where
  stored : q.Stores retry new
  unclaimed : ∀ column, q.columns.claimedAt = some column → new.cell column = .null
  kept : ∀ column, (∀ field ∈ q.roles.written, q.store.columns.column? field ≠ some column) →
    new.get? column = old.get? column

/-- No claim takes the row before the instant. From then on every claim of the tenant takes it that
may take all eligible rows, unless the row counts as deleted or is scheduled for later. -/
structure WaitsUntil (q : Queue ρ) (tenant : TenantId) (row : Row) (next : Instant) : Prop where
  before : ∀ (m : Memory) i, (m.rows q.store.table.name)[i]? = some row →
    ∀ owner limit now, now.compare next = .lt →
      i ∉ Memory.claimedPlaces q.store.table owner { q.columns with limit, now }
        (m.rows q.store.table.name)
  after : ∀ (m : Memory) i, (m.rows q.store.table.name)[i]? = some row →
    ∀ limit now, (next.compare now).isLE → q.store.Visible row →
      (∀ column, q.columns.schedule = some column → Memory.Due now (row.cell column)) →
      (m.eligibleRows q.store.table tenant { q.columns with limit, now }).length ≤ limit →
      i ∈ Memory.claimedPlaces q.store.table tenant { q.columns with limit, now }
          (m.rows q.store.table.name) ∧
        Memory.markClaimed { q.columns with limit, now } row ∈
          (m.claim q.store.table tenant { q.columns with limit, now }).1

theorem Stores.waitsUntil {retry : ScheduledRetry} (h : q.Stores retry row)
    (hPending : q.roles.pending.matchesCell q.roles.pending.toJson)
    (hOwned : Memory.ownedBy q.store.table tenant row)
    (hYear : 0 ≤ retry.nextAttemptAt.year ∧ retry.nextAttemptAt.year ≤ 9999) :
    q.WaitsUntil tenant row retry.nextAttemptAt := by
  refine ⟨?_, ?_⟩
  · intro m i hRow owner limit now hEarly hTaken
    obtain ⟨old, hOld, hEligible⟩ := Memory.mem_placesOf.mp (Memory.mem_claimedPlaces hTaken)
    cases Option.some.inj (hRow.symm.trans hOld)
    have hDue := (Memory.isEligible_iff.mp hEligible).due
    dsimp only at hDue
    rw [h.nextAttemptAt, Memory.due_timestamp_iff hYear, ← Instant.compare_swap, hEarly] at hDue
    cases hDue
  · intro m i hRow limit now hLate hVisible hScheduled hLimit
    have hEligible : Memory.Eligible q.store.table tenant { q.columns with limit, now } row := by
      refine ⟨Memory.ownedBy_iff.mp hOwned, ?_, ?_, hScheduled, hVisible⟩
      · dsimp only
        rw [h.status, q.resolution.pending]
        exact beq_iff_eq.mp hPending
      · dsimp only
        rw [h.nextAttemptAt, Memory.due_timestamp_iff hYear]
        exact hLate
    have hTaken := Memory.mem_claimedPlaces_of_limit hLimit hRow hEligible
    refine ⟨hTaken, List.mem_map.mpr ⟨i, hTaken, ?_⟩⟩
    rw [Memory.getD_of_getElem? hRow]

theorem mem_written_of_retryPatch {attempts : Nat} {next : Instant} {field : String} {value : Value}
    (h : (q.retryPatch q.roles.retryFields attempts next).get? field = some value) :
    field ∈ q.roles.written := by
  rw [get?_retryPatch] at h
  unfold QueueRoles.written
  split_ifs at h with hClaimedAt hStatus hNext hAttempts
  · simp [hClaimedAt]
  · simp [hStatus]
  · simp [hNext]
  · simp [hAttempts]

theorem retried_patched (hDistinct : q.roles.written.Nodup) (retry : ScheduledRetry) (row : Row) :
    q.Retried retry row (q.store.patched
      (q.retryPatch q.roles.retryFields retry.attempts retry.nextAttemptAt) row) := by
  refine ⟨stores_patched hDistinct retry row, ?_, ?_⟩
  · intro column hColumn
    obtain ⟨field, hField, hName⟩ := q.resolution.exists_claimedAt hColumn
    have hRole : field ∈ q.roles.fields := by simp [QueueRoles.fields, hField]
    have hCleared : (q.retryPatch q.roles.retryFields retry.attempts retry.nextAttemptAt).get?
        field = some .null := by
      rw [get?_retryPatch, if_pos hField]
    exact (q.isReport_retryPatch retry.attempts retry.nextAttemptAt).cell_patched hRole hName
      hCleared row
  · intro column hColumn
    exact Store.get?_patched_of_ne (fun field _ hAssigned =>
      hColumn field (mem_written_of_retryPatch hAssigned)) row

/-! ## Keys -/

/-- Where no role falls in a unique key, no key has the column of a role. -/
theorem column?_ne_of_mem_key
    (hKeys : ∀ key ∈ q.store.descriptor.uniqueKeys, ∀ field ∈ key, field ∉ q.roles.fields)
    {key : List String} (hKey : key ∈ [q.store.table.idColumn] :: q.store.table.uniqueKeys)
    {column : String} (hColumn : column ∈ key) :
    ∀ role ∈ q.roles.fields, q.store.columns.column? role ≠ some column := by
  intro role hRole hSame
  refine q.store.resolution.column_not_mem_key hSame (q.resolution.reserved role hRole).2 ?_ key hKey
    hColumn
  exact fun fields hFields hMem => hKeys fields hFields role hMem hRole

/-- A report does not touch the keys of a table that has no role in them. -/
theorem IsReport.keepsKeys {patch : Patch} (h : q.IsReport patch)
    (hKeys : ∀ key ∈ q.store.descriptor.uniqueKeys, ∀ field ∈ key, field ∉ q.roles.fields) :
    Memory.KeepsKeys q.store.table (q.store.patched patch) := by
  intro row key hKey column hColumn
  rw [Row.cell, h.get?_patched_of_ne (column?_ne_of_mem_key hKeys hKey hColumn), Row.cell]

theorem IsReport.checkUnique_patched {patch : Patch} (h : q.IsReport patch)
    (hKeys : ∀ key ∈ q.store.descriptor.uniqueKeys, ∀ field ∈ key, field ∉ q.roles.fields)
    (others : List Row) (row : Row) :
    Memory.checkUnique q.store.table others (q.store.patched patch row) =
      Memory.checkUnique q.store.table others row :=
  Memory.checkUnique_congr (h.keepsKeys hKeys row) others

/-- The failure of a row that its id alone reaches: the row goes back if the instant can be reached
and the row collides with no other one. -/
theorem run_markFailure_singleton (hContext : q.store.context.reports active = some tenant)
    (hKeys : ∀ key ∈ q.store.descriptor.uniqueKeys, ∀ field ∈ key, field ∉ q.roles.fields)
    {id : Value} (hReached : q.store.reached tenant id (m.rows q.store.table.name) = [i])
    (hRow : (m.rows q.store.table.name)[i]? = some row) (attempts : Nat) :
    (World.still active now).run (q.markFailure id attempts) m =
      match now.after? (q.backoff.delay attempts) with
      | none => (.error (.error (.configuration (.delayOutOfRange (q.backoff.delay attempts)))), m)
      | some next =>
        match Memory.checkUnique q.store.table ((m.rows q.store.table.name).eraseIdx i) row with
        | .error e => (.error (.error e), m)
        | .ok _ => (.ok (some ⟨nextAttempt attempts, q.backoff.delay attempts, next⟩),
          q.store.rewriteAt (q.retryPatch q.roles.retryFields (nextAttempt attempts) next) [i]
            m) := by
  rw [run_markFailure hContext]
  cases now.after? (q.backoff.delay attempts) with
  | none => rfl
  | some next =>
    have hReport := q.isReport_retryPatch (nextAttempt attempts) next
    obtain ⟨assignments, hAssignments, hSome⟩ := hReport.exists_assignments
    dsimp only
    rw [Store.run_updateById_singleton hContext hAssignments hSome hReached hRow,
      hReport.checkUnique_patched hKeys]
    cases Memory.checkUnique q.store.table ((m.rows q.store.table.name).eraseIdx i) row <;> rfl

theorem written_nodup (hDistinct : q.roles.fields.Nodup) : q.roles.written.Nodup := by
  refine hDistinct.sublist ?_
  rw [QueueRoles.fields, List.append_assoc]
  exact ((((List.sublist_append_right _ _).cons_cons _).cons_cons _).cons _).cons_cons _

/-- **Retries gate claims.** For roles that fall on distinct fields and in no unique key, and a
pending value that matches its own cell, the failure of a row of the tenant
1. is reported with one attempt more and the instant that is the delay later, if there is such an
instant and the row collides with no other one. The row then stores what was reported, waits with no
time of a claim, and nothing else changes. Up to the year 9999 no claim takes it before that
instant, and from then on all claims do that have room for it.
2. If the row collides with another one, the report conflicts and changes nothing.
3. If there is no such instant, the report is refused and changes nothing. -/
theorem retry_gates_claims (hContext : q.store.context.reports active = some tenant)
    (hDistinct : q.roles.fields.Nodup)
    (hKeys : ∀ key ∈ q.store.descriptor.uniqueKeys, ∀ field ∈ key, field ∉ q.roles.fields)
    (hPending : q.roles.pending.matchesCell q.roles.pending.toJson)
    (hIds : Memory.UniqueIds q.store.table (m.rows q.store.table.name))
    (hRow : (m.rows q.store.table.name)[i]? = some row)
    (hOwned : Memory.ownedBy q.store.table tenant row)
    (hClock : 0 ≤ now.second ∧ now.nano < nanosPerSecond) (attempts : Nat)
    {outcome : Except Failure (Option ScheduledRetry)} {m' : Memory}
    (hRun : (World.still active now).run
      (q.markFailure (.ofJson (row.cell q.store.table.idColumn)) attempts) m = (outcome, m')) :
    (∀ next, now.Reaches (q.backoff.delay attempts) next →
      (∀ other ∈ (m.rows q.store.table.name).eraseIdx i, Memory.Apart q.store.table row other) →
        outcome = .ok (some ⟨min (attempts + 1) (2 ^ 32 - 1), q.backoff.delay attempts, next⟩) ∧
        ∃ row', m' = m.setRows q.store.table.name ((m.rows q.store.table.name).set i row') ∧
          q.Retried ⟨min (attempts + 1) (2 ^ 32 - 1), q.backoff.delay attempts, next⟩ row row' ∧
          (next.year ≤ 9999 → q.WaitsUntil tenant row' next)) ∧
    (∀ next, now.Reaches (q.backoff.delay attempts) next →
      (∃ other ∈ (m.rows q.store.table.name).eraseIdx i, ¬ Memory.Apart q.store.table row other) →
        (∃ key, outcome = .error (.error (.conflict (.duplicateKey q.store.table.name key)))) ∧
          m' = m) ∧
    ((∀ next, ¬ now.Reaches (q.backoff.delay attempts) next) →
      outcome = .error (.error (.configuration (.delayOutOfRange (q.backoff.delay attempts)))) ∧
        m' = m) := by
  rw [run_markFailure_singleton hContext hKeys (Store.reached_eq_singleton hIds hRow hOwned) hRow]
    at hRun
  refine ⟨?_, ?_, ?_⟩
  · intro next hReaches hApart
    rw [(Instant.after?_eq_some_iff hClock.2).mpr hReaches,
      Memory.checkUnique_eq_ok_iff.mpr hApart] at hRun
    cases hRun
    have hRetried := retried_patched (written_nodup hDistinct)
      ⟨nextAttempt attempts, q.backoff.delay attempts, next⟩ row
    refine ⟨rfl, _, ?_, hRetried, fun hYear => ?_⟩
    · rw [Memory.set_eq_modify hRow]
      rfl
    · have hKeeps := (q.isReport_retryPatch (nextAttempt attempts) next).keepsIdentity
      refine hRetried.stored.waitsUntil hPending ?_
        ⟨Instant.year_nonneg (hReaches.second_nonneg hClock.1), hYear⟩
      rw [Memory.ownedBy, hKeeps.tenant]
      exact hOwned
  · rintro next hReaches ⟨other, hOther, hCollides⟩
    obtain ⟨key, hKey⟩ := Memory.checkUnique_eq_error hOther hCollides
    rw [(Instant.after?_eq_some_iff hClock.2).mpr hReaches, hKey] at hRun
    cases hRun
    exact ⟨⟨key, rfl⟩, rfl⟩
  · intro hNone
    rw [(Instant.after?_eq_none_iff hClock.2).mpr hNone] at hRun
    cases hRun
    exact ⟨rfl, rfl⟩

end Queue

/-! ## Jobs that failed -/

namespace Jobs

/-- The time 1970-01-01T00:00:05Z. -/
def later : Instant := (Instant.of? 5 0).getD epoch

/-- Texts that are not the same cell are unique ids. -/
theorem uniqueIds_of_texts {table : Table} {rows : List Row} (ids : List String)
    (hIds : rows.map (·.cell table.idColumn) = ids.map Json.string)
    (hDistinct : (ids.map Json.string).Pairwise (Json.sameCell · · = false)) :
    Memory.UniqueIds table rows := by
  refine ⟨hIds ▸ hDistinct, fun id hId => ?_⟩
  rw [hIds] at hId
  obtain ⟨text, -, rfl⟩ := List.mem_map.mp hId
  exact ⟨rfl, nofun⟩

/-- A job that failed at first is reported for the time five seconds later, and not claimed before.
-/
theorem failed_waits : ∃ row,
    (World.still (some tenant) epoch).run (queue.markFailure (.text "a") 0) oneWaitingRow =
      (.ok (some ⟨1, Duration.ofSeconds 5, later⟩), ⟨[("jobs", [row])], 1⟩) ∧
    queue.WaitsUntil tenant row later := by
  have hContext : queue.store.context.reports (some tenant) = some tenant := rfl
  have hIds : Memory.UniqueIds queue.store.table (oneWaitingRow.rows queue.store.table.name) :=
    uniqueIds_of_texts ["a"] rfl (by decide)
  have hRow : (oneWaitingRow.rows queue.store.table.name)[0]? = some (waiting "a") := rfl
  have hClock : 0 ≤ epoch.second ∧ epoch.nano < nanosPerSecond := by decide
  obtain ⟨hOutcome, row, hTable, -, hWaits⟩ :=
    (Queue.retry_gates_claims hContext (by decide) nofun (by decide) hIds hRow (by decide) hClock 0
      rfl).1 later (by decide) nofun
  exact ⟨row, Prod.ext hOutcome hTable, hWaits (by decide)⟩

/-- Jobs with a lane, of which a tenant may have one in each lane. -/
def laned : Queue Json where
  store :=
    { store with
      descriptor :=
        { Descriptor.ofFields "jobs" ["id", "tenant_id", "status", "created_at", "due_at",
            "attempts", "lane"] with
          uniqueKeys := [["tenant_id", "lane"]] }
      columns :=
        { table := "jobs"
          pairs := ["id", "tenant_id", "status", "created_at", "due_at", "attempts", "lane"].map
            fun field => ⟨field, field⟩
          fields_nodup := by decide
          columns_nodup := by decide }
      table := keyed "lane"
      resolved := rfl }
  roles := { roles with claimedAt := none }
  columns := { queue.columns with claimedAt := none }
  backoff := .standard
  resolved := rfl

/-- A second queue on the same table, which moves jobs from one lane to another. -/
def moving : Queue Json where
  store := laned.store
  roles := { laned.roles with status := "lane", pending := .text "A", inProgress := .text "B" }
  columns := { laned.columns with status := "lane", pending := .text "A", inProgress := .text "B" }
  backoff := .standard
  resolved := rfl

/-- Two jobs in different lanes. -/
def twoLanes : Memory :=
  ⟨[("jobs", [(waiting "a").insert "lane" (.string "B"),
    (waiting "b").insert "lane" (.string "A")])], 1⟩

/-- Where another queue has brought two jobs into one lane, a failure is not reported, although the
instant can be reached and no role of its queue falls on a key. -/
theorem failed_in_shared_lane :
    let m := ((World.still (some tenant) epoch).run (moving.claimBatch 1) twoLanes).2
    laned.roles.fields.Nodup ∧
    (∀ key ∈ laned.store.descriptor.uniqueKeys, ∀ field ∈ key, field ∉ laned.roles.fields) ∧
    laned.roles.pending.matchesCell laned.roles.pending.toJson ∧
    Memory.UniqueIds laned.store.table (m.rows "jobs") ∧
    ((m.rows "jobs")[0]?.map (·.cell "id")) = some (.string "a") ∧
    (m.rows "jobs").all (Memory.ownedBy laned.store.table tenant) ∧
    epoch.Reaches (laned.backoff.delay 0) later ∧
    (World.still (some tenant) epoch).run (laned.markFailure (.text "a") 0) m =
      (.error (.error (.conflict (.duplicateKey "jobs" ["tenant_id", "lane"]))), m) := by
  refine ⟨by decide, by decide, by decide, uniqueIds_of_texts ["a", "b"] rfl ?_, rfl, ?_,
    by decide, rfl⟩
  · decide +kernel
  · decide +kernel

end Jobs

end Tenancy
