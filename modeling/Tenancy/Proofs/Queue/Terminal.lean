import Tenancy.Proofs.Queue.Effects

/-!
# Final statuses

A cycle of a worker hands each record of its batch to the handler and writes back the outcome
(`Worker.cycle`). A row that was finalized as succeeded or exhausted has a settled status, unless
the queue itself uses that status or keeps its attempts in the status field, and no claim and no
sweep touches it from then on (`finalized_rows_stay`). Acceptance of a worker does not ensure that:
it does not look at the status of exhausted rows.
-/

namespace Tenancy

variable {ρ σ : Type}

/-! ## What a cycle did -/

/-- A record of a batch, how its finalization ended, and the state after it. -/
structure Handled (ρ σ : Type) where
  record : ρ
  outcome : Except StoreError Outcome
  after : σ

/-- The record was finalized in this way. -/
def Handled.ended (h : Handled ρ σ) (outcome : Outcome) : Bool :=
  match h.outcome with
  | .ok o => o == outcome
  | .error _ => false

theorem Handled.ended_iff {h : Handled ρ σ} {outcome : Outcome} :
    h.ended outcome ↔ h.outcome = .ok outcome := by
  unfold ended
  cases h.outcome with
  | ok o => simp
  | error e => simp

namespace Worker

/-- The records of a batch that are handled one after the other, up to an abort. -/
def handled (w : Worker ρ) (world : World σ ρ) : List ρ → σ → List (Handled ρ σ)
  | [], _ => []
  | record :: rest, x =>
    match world.run (Program.attempt (w.finalize record)) x with
    | (.ok outcome, y) => ⟨record, outcome, y⟩ :: w.handled world rest y
    | (.error _, _) => []

/-- The release of stale claims at the start of a cycle. -/
def sweep (w : Worker ρ) : Program ρ Nat :=
  match w.settings.staleAfter with
  | some age => w.queue.releaseStale age
  | none => pure 0

/-- The records that one cycle handles. -/
def cycle (w : Worker ρ) (world : World σ ρ) (x : σ) : List (Handled ρ σ) :=
  match world.run (w.sweep >>= fun _ => w.queue.claimBatch w.settings.batchSize) x with
  | (.ok batch, y) => w.handled world batch.records y
  | (.error _, _) => []

variable {w : Worker ρ} {world : World σ ρ} {x y : σ} {report report' : CycleReport}

/-- The counts of a report that grow with every record. -/
theorem tally_counts (report : CycleReport) (h : Handled ρ σ) :
    (report.tally h.outcome).succeeded =
        report.succeeded + (if h.ended .succeeded then 1 else 0) ∧
      (report.tally h.outcome).exhausted =
        report.exhausted + (if h.ended .exhausted then 1 else 0) := by
  unfold Handled.ended
  cases h.outcome with
  | error e => exact ⟨rfl, rfl⟩
  | ok o => cases o <;> exact ⟨rfl, rfl⟩

theorem finalizeAll_counts {records : List ρ}
    (h : world.run (w.finalizeAll report records) x = (.ok report', y)) :
    report'.succeeded = report.succeeded +
        (w.handled world records x).countP (·.ended .succeeded) ∧
      report'.exhausted = report.exhausted +
        (w.handled world records x).countP (·.ended .exhausted) := by
  induction records generalizing report x with
  | nil =>
    cases h
    exact ⟨rfl, rfl⟩
  | cons record rest ih =>
    obtain ⟨outcome, x', hRun, h⟩ := World.run_bind_eq_ok.mp h
    obtain ⟨hSucceeded, hExhausted⟩ := ih h
    obtain ⟨hFirst, hFirst'⟩ := tally_counts report (⟨record, outcome, x'⟩ : Handled ρ σ)
    simp only [handled, hRun, List.countP_cons]
    rw [hSucceeded, hExhausted, hFirst, hFirst']
    omega

theorem runOnce_eq (w : Worker ρ) : w.runOnce = (do
    let released ← w.sweep
    let batch ← w.queue.claimBatch w.settings.batchSize
    w.finalizeAll ⟨batch.records.length, 0, 0, 0, released, 0⟩ batch.records) := by
  unfold runOnce sweep
  cases w.settings.staleAfter <;> rfl

/-- The report of a cycle counts the records that were finalized in each way. -/
theorem runOnce_counts (h : world.run w.runOnce x = (.ok report, y)) :
    report.succeeded = (w.cycle world x).countP (·.ended .succeeded) ∧
      report.exhausted = (w.cycle world x).countP (·.ended .exhausted) := by
  rw [runOnce_eq] at h
  obtain ⟨released, x', hSweep, h⟩ := World.run_bind_eq_ok.mp h
  obtain ⟨batch, x'', hClaim, h⟩ := World.run_bind_eq_ok.mp h
  have hCycle : w.cycle world x = w.handled world batch.records x'' := by
    rw [cycle, World.run_bind_eq_ok.mpr ⟨released, x', hSweep, hClaim⟩]
  rw [hCycle]
  have hCounts := finalizeAll_counts h
  simpa only [Nat.zero_add] using hCounts

/-- Each entry of the cycle is a finalization that ended in this way. -/
theorem exists_run_of_mem_handled {records : List ρ} {entry : Handled ρ σ}
    (h : entry ∈ w.handled world records x) :
    ∃ before, world.run (Program.attempt (w.finalize entry.record)) before =
      (.ok entry.outcome, entry.after) := by
  induction records generalizing x with
  | nil => exact absurd h List.not_mem_nil
  | cons record rest ih =>
    unfold handled at h
    cases hRun : world.run (Program.attempt (w.finalize record)) x with
    | mk result x' =>
      rw [hRun] at h
      cases result with
      | error e => exact absurd h List.not_mem_nil
      | ok outcome =>
        rcases List.mem_cons.mp h with rfl | hRest
        · exact ⟨x, hRun⟩
        · exact ih hRest

theorem exists_run_of_mem_cycle {entry : Handled ρ σ} (h : entry ∈ w.cycle world x) :
    ∃ before, world.run (Program.attempt (w.finalize entry.record)) before =
      (.ok entry.outcome, entry.after) := by
  unfold cycle at h
  split at h
  · exact exists_run_of_mem_handled h
  · exact absurd h List.not_mem_nil

/-- A final outcome was written back, under the id of the record, to all rows that the id reaches.
-/
theorem exists_verdict_of_run {memory : σ → Memory} (hWorld : world.OnTables memory)
    {tenant : TenantId} (hContext : w.queue.store.context.reports world.tenant = some tenant)
    {record : ρ} {outcome : Outcome} (hFinal : outcome ≠ .retried)
    (h : world.run (Program.attempt (w.finalize record)) x = (.ok (.ok outcome), y)) :
    ∃ id status verdict next before, w.queue.store.recordId record = .ok id ∧
      Verdict.status? verdict = some status ∧
      (status = w.settings.success ∨ status = w.settings.failed) ∧
      memory y = w.queue.store.rewriteAt (w.queue.verdictPatch next verdict)
        (w.queue.store.reached tenant id ((memory before).rows w.queue.store.table.name))
        (memory before) := by
  have hRun : world.run (w.finalize record) x = (.ok outcome, y) := by
    rw [World.run_attempt] at h
    split at h <;> cases h
    assumption
  rw [finalize_eq] at hRun
  obtain ⟨id, _, hId, hRun⟩ := World.run_bind_eq_ok.mp hRun
  obtain ⟨cell, _, -, hRun⟩ := World.run_bind_eq_ok.mp hRun
  obtain ⟨succeeds, before, -, hRun⟩ := World.run_bind_eq_ok.mp hRun
  obtain ⟨hit, y', hReport, hRun⟩ := World.run_bind_eq_ok.mp hRun
  cases hRun
  have hVerdict : ∃ status, (w.verdict (attemptsOf cell) succeeds).status? = some status ∧
      (status = w.settings.success ∨ status = w.settings.failed) := by
    unfold verdict at hFinal ⊢
    cases succeeds with
    | true => exact ⟨_, rfl, .inl rfl⟩
    | false =>
      cases hLast : w.isLastAttempt (attemptsOf cell) with
      | true =>
        exact ⟨_, rfl, .inr rfl⟩
      | false =>
        rw [hLast] at hFinal
        exact absurd rfl hFinal
  obtain ⟨status, hStatus, hValue⟩ := hVerdict
  have hIsSome : (w.verdict (attemptsOf cell) succeeds).status?.isSome := by
    rw [hStatus]
    rfl
  refine ⟨id, status, w.verdict (attemptsOf cell) succeeds, (world.time before).1, before,
    (World.run_ofExcept_eq_ok.mp hId).1, hStatus, hValue, ?_⟩
  rcases Queue.run_final_cases (q := w.reporter) hWorld hContext id hIsSome
    (world.time before).1 before with ⟨e, z, hFails, -⟩ | ⟨z, hWritten, hMemory⟩
  · rw [hFails] at hReport
    cases hReport
  · rw [hWritten] at hReport
    cases hReport
    exact hMemory

end Worker

/-! ## Settled by a final verdict -/

/-- Stores of the same descriptor have the same columns and the same table. -/
theorem Store.layout_eq {ρ' : Type} {s : Store ρ} {s' : Store ρ'}
    (h : s'.descriptor = s.descriptor) : s'.columns = s.columns ∧ s'.table = s.table := by
  have hResolved := s'.resolved
  rw [h, s.resolved] at hResolved
  obtain ⟨hColumns, hTable⟩ := Prod.mk.inj (Except.ok.inj hResolved)
  exact ⟨hColumns.symm, hTable.symm⟩

namespace Queue

variable {q : Queue ρ}

/-- A final verdict leaves its status, or `null` where the status also keeps the time of the claim.
-/
theorem get?_verdictPatch_final (hAttempts : q.roles.attempts ≠ q.roles.status) (next : Instant)
    {verdict : Verdict} {status : Value} (hStatus : verdict.status? = some status) :
    ∃ value, (q.verdictPatch next verdict).get? q.roles.status = some value ∧
      (value = status ∨ value = .null) := by
  cases verdict with
  | failure attempts => cases hStatus
  | success final =>
    cases hStatus
    exact ⟨status, (Patch.get?_set _ _ _ _).trans (if_pos rfl), .inl rfl⟩
  | exhausted final attempts =>
    cases hStatus
    rw [verdictPatch, get?_clearClaim, Patch.get?_set, if_neg hAttempts.symm, Patch.get?_set,
      if_pos rfl]
    split
    · exact ⟨_, rfl, .inr rfl⟩
    · exact ⟨_, rfl, .inl rfl⟩

theorem settled_patched (hAttempts : q.roles.attempts ≠ q.roles.status) (next : Instant)
    {verdict : Verdict} {status : Value} (hStatus : verdict.status? = some status)
    (hSettled : q.roles.pending.matchesCell status.toJson = false ∧
      q.roles.inProgress.matchesCell status.toJson = false) (row : Row) :
    q.columns.Settled (q.store.patched (q.verdictPatch next verdict) row) := by
  obtain ⟨value, hValue, hFinal⟩ := get?_verdictPatch_final hAttempts next hStatus
  have hCell := (q.isReport_verdictPatch next verdict).cell_patched (mem_fields q.roles).1
    q.resolution.status hValue row
  rw [ClaimColumns.Settled, hCell, q.resolution.pending, q.resolution.inProgress]
  rcases hFinal with rfl | rfl
  · exact hSettled
  · exact ⟨Value.matchesCell_null _, Value.matchesCell_null _⟩

/-- Queues with the same roles on the same table use the same columns. -/
theorem columns_eq {ρ' : Type} {q' : Queue ρ'} (hRoles : q'.roles = q.roles)
    (hDescriptor : q'.store.descriptor = q.store.descriptor) :
    q'.columns = q.columns ∧ q'.store.table = q.store.table := by
  obtain ⟨hColumns, hTable⟩ := Store.layout_eq hDescriptor
  have hResolved := q'.resolved
  rw [hRoles, hDescriptor, hColumns, q.resolved] at hResolved
  exact ⟨(Except.ok.inj hResolved).symm, hTable⟩

end Queue

/-- **Final rows stay.** A cycle of a worker reports as many records succeeded and exhausted as it
finalized in that way. If no attempts are kept in the status field, and neither of the status values
of the queue matches the cell of a final status of the worker, then the rows of such a record are
settled: wherever the row stands unchanged in a later table, no claim of a queue with these roles
takes it, and neither claims nor sweeps change it. -/
theorem finalized_rows_stay (w : Worker ρ) {world : World σ ρ} {memory : σ → Memory}
    (hWorld : world.OnTables memory) {tenant : TenantId}
    (hContext : w.queue.store.context.reports world.tenant = some tenant)
    (hAttempts : w.queue.roles.attempts ≠ w.queue.roles.status)
    (hFinal : ∀ status ∈ [w.settings.success, w.settings.failed],
      w.queue.roles.pending.matchesCell status.toJson = false ∧
        w.queue.roles.inProgress.matchesCell status.toJson = false)
    {x y : σ} {report : CycleReport} (hRun : world.run w.runOnce x = (.ok report, y)) :
    (report.succeeded = (w.cycle world x).countP (·.ended .succeeded) ∧
      report.exhausted = (w.cycle world x).countP (·.ended .exhausted)) ∧
    ∀ entry ∈ w.cycle world x, (entry.ended .succeeded ∨ entry.ended .exhausted) →
      ∃ id, w.queue.store.recordId entry.record = .ok id ∧
        ∀ k ∈ w.queue.store.reached tenant id ((memory entry.after).rows w.queue.store.table.name),
        ∀ row, ((memory entry.after).rows w.queue.store.table.name)[k]? = some row →
        ∀ (m : Memory) j, (m.rows w.queue.store.table.name)[j]? = some row →
        ∀ (ρ' : Type) (q : Queue ρ'), q.roles = w.queue.roles →
          q.store.descriptor = w.queue.store.descriptor →
        ∀ active now,
          (∀ limit,
            (∀ tenant', j ∉ Memory.claimedPlaces q.store.table tenant'
              { q.columns with limit, now } (m.rows q.store.table.name)) ∧
            (((World.still active now).run (q.claimBatch limit) m).2.rows
              q.store.table.name)[j]? = some row) ∧
          ∀ age, (((World.still active now).run (q.releaseStale age) m).2.rows
            q.store.table.name)[j]? = some row := by
  refine ⟨Worker.runOnce_counts hRun, ?_⟩
  intro entry hEntry hEnded
  obtain ⟨outcome, hOutcome, hNotRetried⟩ : ∃ outcome, entry.outcome = .ok outcome ∧
      outcome ≠ .retried := by
    rcases hEnded with hEnded | hEnded
    · exact ⟨_, Handled.ended_iff.mp hEnded, nofun⟩
    · exact ⟨_, Handled.ended_iff.mp hEnded, nofun⟩
  obtain ⟨start, hEntryRun⟩ := Worker.exists_run_of_mem_cycle hEntry
  rw [hOutcome] at hEntryRun
  obtain ⟨id, status, verdict, next, before, hId, hStatus, hValue, hMemory⟩ :=
    Worker.exists_verdict_of_run hWorld hContext hNotRetried hEntryRun
  refine ⟨id, hId, ?_⟩
  intro k hReached row hRow m j hLater ρ' q hRoles hDescriptor active now
  have hSettledStatus := hFinal status (by
    rcases hValue with rfl | rfl <;> simp)
  have hSettled : w.queue.columns.Settled row := by
    rw [hMemory] at hReached hRow
    obtain ⟨old, -, rfl⟩ := Store.exists_patched hReached hRow
    exact Queue.settled_patched hAttempts next hStatus hSettledStatus old
  obtain ⟨hColumns, hTable⟩ := Queue.columns_eq (q := w.queue) hRoles hDescriptor
  rw [← hTable] at hLater
  rw [← hColumns] at hSettled
  refine ⟨fun limit => ⟨fun tenant' => Queue.not_mem_claimedPlaces hLater hSettled.1, ?_⟩, ?_⟩
  · exact Queue.run_claimBatch_getElem? _ _ hLater hSettled.1 limit
  · exact Queue.run_releaseStale_getElem? _ _ hLater hSettled.2

/-! ## A job that fails for good -/

namespace Jobs

/-- A handler that fails on every job. -/
def failing : World (Memory × Unit) Json :=
  .inMemory (some tenant) (fun u => (epoch, u)) (fun _ u => (false, u))

/-- Gives up a job after its first attempt. -/
def impatient : Worker Json := ⟨queue, { WorkerSettings.standard with maxAttempts := some 1 }⟩

/-- Gives up a job with the status of waiting jobs. -/
def forgetful : Worker Json :=
  ⟨queue, { WorkerSettings.standard with maxAttempts := some 1, failed := .text "PENDING" }⟩

def oneWaiting : Memory × Unit := (⟨[("jobs", [waiting "a"])], 1⟩, ())

/-- The tables after a cycle in which the handler fails. -/
def afterCycle (w : Worker Json) : Memory := (failing.run w.runOnce oneWaiting).2.1

end Jobs

/-- The next claim leaves the job that was given up. -/
theorem jobs_exhausted_stays :
    (Jobs.failing.run Jobs.impatient.runOnce Jobs.oneWaiting).1.toOption =
      some ⟨1, 0, 0, 1, 0, 0⟩ ∧
    0 ∉ Memory.claimedPlaces Jobs.store.table Jobs.tenant Jobs.claim
      ((Jobs.afterCycle Jobs.impatient).rows "jobs") := by
  have hRun : Jobs.failing.run Jobs.impatient.runOnce Jobs.oneWaiting =
      (.ok ⟨1, 0, 0, 1, 0, 0⟩, Jobs.afterCycle Jobs.impatient, ()) := rfl
  have hTables : Jobs.failing.OnTables Prod.fst := ⟨fun _ _ => rfl, fun _ _ => rfl⟩
  have hContext : Jobs.impatient.queue.store.context.reports Jobs.failing.tenant =
      some Jobs.tenant := rfl
  obtain ⟨-, hStays⟩ := finalized_rows_stay Jobs.impatient hTables hContext (by decide)
    (by decide +kernel) hRun
  have hCycle : Jobs.impatient.cycle Jobs.failing Jobs.oneWaiting =
      [⟨(Memory.markClaimed Jobs.claim (Jobs.waiting "a")).toJson, .ok .exhausted,
        (Jobs.afterCycle Jobs.impatient, ())⟩] := rfl
  obtain ⟨id, hId, hRows⟩ := hStays _ (hCycle ▸ List.mem_cons_self) (.inr rfl)
  obtain rfl : Value.text "a" = id := Except.ok.inj hId
  exact ⟨rfl, ((hRows 0 (by decide +kernel) _ rfl (Jobs.afterCycle Jobs.impatient) 0 rfl Json
    Jobs.queue rfl rfl none Jobs.epoch).1 1).1 Jobs.tenant⟩

/-- A worker is accepted that gives up a job with the status of waiting jobs, and so the job that it
gave up is claimed again. -/
theorem jobs_exhausted_again :
    Worker.ofSettings Jobs.queue Jobs.forgetful.settings = .ok Jobs.forgetful ∧
    (Jobs.failing.run Jobs.forgetful.runOnce Jobs.oneWaiting).1.toOption =
      some ⟨1, 0, 0, 1, 0, 0⟩ ∧
    Memory.claimedPlaces Jobs.store.table Jobs.tenant Jobs.claim
      ((Jobs.afterCycle Jobs.forgetful).rows "jobs") = [0] :=
  ⟨rfl, rfl, rfl⟩

end Tenancy
